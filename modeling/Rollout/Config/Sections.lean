import Rollout.Component
import Rollout.Config
import Rollout.Diff.Walk

/-!
The sections of a configuration. A configuration is a tree for comparison, in which sections and
fields are reported by names; two rates and the bucket names are shorter here than in the file.
The sections that differ concern the components that read them; a section that is not listed
concerns none.
-/

namespace Rollout.Config

def tree (config : Config) : Tree :=
  let number (name : String) (value : Int32) : Member Tree :=
    { name, value := .integer value.toInt }
  let text (name value : String) : Member Tree := { name, value := .text value }
  let group (name : String) (members : List (Member Tree)) : Member Tree :=
    { name, value := .record members }
  .record [
    group "server" [
      number "http_listen_port" config.server.httpListenPort,
      number "grpc_listen_port" config.server.grpcListenPort,
      text "log_level" config.server.logLevel],
    group "ingester" [
      group "lifecycler" [
        group "ring" [
          number "replication_factor" config.ingester.lifecycler.ring.replicationFactor]]],
    group "limits_config" [
      number "ingestion_rate" config.limits.ingestionRate,
      number "ingestion_burst_size" config.limits.ingestionBurstSize,
      number "max_label_name_length" config.limits.maxLabelNameLength,
      number "max_label_value_length" config.limits.maxLabelValueLength,
      number "max_label_names_per_series" config.limits.maxLabelNamesPerSeries,
      number "max_streams_per_user" config.limits.maxStreamsPerUser,
      number "max_line_size" config.limits.maxLineSize,
      number "max_global_streams_per_user" config.limits.maxGlobalStreamsPerUser,
      number "max_entries_limit_per_query" config.limits.maxEntriesLimitPerQuery,
      number "max_chunks_per_query" config.limits.maxChunksPerQuery,
      number "max_query_series" config.limits.maxQuerySeries],
    group "storage_config" [
      group "aws" [
        text "s3" config.storage.aws.s3,
        text "bucket_names" config.storage.aws.bucketNames,
        text "region" config.storage.aws.region,
        text "access_key_id" config.storage.aws.accessKeyId,
        text "secret_access_key" config.storage.aws.secretAccessKey]],
    group "compactor" [
      text "working_directory" config.compactor.workingDirectory,
      text "shared_store" config.compactor.sharedStore]]

/-- The paths of all fields that differ. -/
def differences (old new : Config) : List FieldPath := old.tree.differences new.tree

/-- The sections that differ, in the order of declaration. -/
def changedSections (old new : Config) : List String := old.tree.changedSections new.tree

end Rollout.Config

namespace Rollout.Impact

/-- The components that read a section. -/
def readers : List (String × List Component) := [
  ("limits_config", [.distributor, .ingester, .querier, .queryFrontend]),
  ("ingester", [.ingester]),
  ("storage_config", [.compactor, .distributor, .ingester, .querier, .queryFrontend])]

/-- The components that a change to a section concerns. -/
def componentsOf (name : String) : List Component :=
  match readers.find? (·.1 = name) with
  | some entry => entry.2
  | none => []

def isRegistered (name : String) : Bool := readers.any (·.1 = name)

/-- The components that a change to any of some sections concerns, in listing order. -/
def affected (sections : List String) : List Component :=
  Component.all.filter fun component =>
    sections.any fun name => (componentsOf name).contains component

end Rollout.Impact
