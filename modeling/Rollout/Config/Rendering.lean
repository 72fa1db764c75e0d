import Rollout.Config
import Rollout.Yaml.Printer

/-!
The text of a configuration file: every section and field under its key, in the order of
declaration.
-/

namespace Rollout.Config

open Yaml (Outline)

/-- The sections of a configuration file. -/
def outline (config : Config) : List (String × Outline) :=
  let number (key : String) (value : Int32) : String × Outline := (key, .number value.toInt)
  let text (key value : String) : String × Outline := (key, .text value)
  [("server", .section [
      number "http_listen_port" config.server.httpListenPort,
      number "grpc_listen_port" config.server.grpcListenPort,
      text "log_level" config.server.logLevel]),
    ("ingester", .section [
      ("lifecycler", .section [
        ("ring", .section [
          number "replication_factor" config.ingester.lifecycler.ring.replicationFactor])])]),
    ("limits_config", .section [
      number "ingestion_rate_mb" config.limits.ingestionRate,
      number "ingestion_burst_size_mb" config.limits.ingestionBurstSize,
      number "max_label_name_length" config.limits.maxLabelNameLength,
      number "max_label_value_length" config.limits.maxLabelValueLength,
      number "max_label_names_per_series" config.limits.maxLabelNamesPerSeries,
      number "max_streams_per_user" config.limits.maxStreamsPerUser,
      number "max_line_size" config.limits.maxLineSize,
      number "max_global_streams_per_user" config.limits.maxGlobalStreamsPerUser,
      number "max_entries_limit_per_query" config.limits.maxEntriesLimitPerQuery,
      number "max_chunks_per_query" config.limits.maxChunksPerQuery,
      number "max_query_series" config.limits.maxQuerySeries]),
    ("storage_config", .section [
      ("aws", .section [
        text "s3" config.storage.aws.s3,
        text "bucketnames" config.storage.aws.bucketNames,
        text "region" config.storage.aws.region,
        text "access_key_id" config.storage.aws.accessKeyId,
        text "secret_access_key" config.storage.aws.secretAccessKey])]),
    ("compactor", .section [
      text "working_directory" config.compactor.workingDirectory,
      text "shared_store" config.compactor.sharedStore])]

def toYaml (config : Config) : String := Yaml.render config.outline

end Rollout.Config
