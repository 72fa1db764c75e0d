import Rollout.Config.Rendering
import Rollout.Proofs.Yaml.Reading

/-!
A rendered configuration file reads as the configuration that it was rendered from, whatever
numbers and texts the configuration holds.
-/

namespace Rollout.Config

open Yaml (Outline)
open Fields (reads_defaulted reads_strict)

section Members

variable {σ : Type} {entries : List (String × Outline)} {key : String}

theorem reads_number {get : σ → Int32} {value : Int32} (hnodup : (entries.map Prod.fst).Nodup)
    (hmem : (key, .number value.toInt) ∈ entries) : (number key get).Reads entries value :=
  reads_defaulted hnodup hmem (Codec.reads_int32 value)

theorem reads_text {get : σ → String} {value : String} (hnodup : (entries.map Prod.fst).Nodup)
    (hmem : (key, .text value) ∈ entries) : (text key get).Reads entries value :=
  reads_defaulted hnodup hmem (Codec.reads_text value)

end Members

/-! ### Sections -/

def Server.entries (server : Server) : List (String × Outline) := [
  ("http_listen_port", .number server.httpListenPort.toInt),
  ("grpc_listen_port", .number server.grpcListenPort.toInt),
  ("log_level", .text server.logLevel)]

theorem Server.reads (server : Server) : Server.codec.Reads (.section server.entries) server := by
  have hnodup : (server.entries.map Prod.fst).Nodup := by simp [entries]
  refine reads_strict hnodup ?_
  exact ((reads_number hnodup (by simp [entries])).map Server.mk
    |>.seq (reads_number hnodup (by simp [entries]))
    |>.seq (reads_text hnodup (by simp [entries])))

def Ring.entries (ring : Ring) : List (String × Outline) := [
  ("replication_factor", .number ring.replicationFactor.toInt)]

theorem Ring.reads (ring : Ring) : Ring.codec.Reads (.section ring.entries) ring := by
  have hnodup : (ring.entries.map Prod.fst).Nodup := by simp [entries]
  exact reads_strict hnodup ((reads_number hnodup (by simp [entries])).map Ring.mk)

def Lifecycler.entries (lifecycler : Lifecycler) : List (String × Outline) := [
  ("ring", .section lifecycler.ring.entries)]

theorem Lifecycler.reads (lifecycler : Lifecycler) :
    Lifecycler.codec.Reads (.section lifecycler.entries) lifecycler := by
  have hnodup : (lifecycler.entries.map Prod.fst).Nodup := by simp [entries]
  have hring := lifecycler.ring.reads
  exact reads_strict hnodup ((reads_defaulted hnodup (by simp [entries]) hring).map Lifecycler.mk)

def Ingester.entries (ingester : Ingester) : List (String × Outline) := [
  ("lifecycler", .section ingester.lifecycler.entries)]

theorem Ingester.reads (ingester : Ingester) :
    Ingester.codec.Reads (.section ingester.entries) ingester := by
  have hnodup : (ingester.entries.map Prod.fst).Nodup := by simp [entries]
  have hlifecycler := ingester.lifecycler.reads
  exact reads_strict hnodup
    ((reads_defaulted hnodup (by simp [entries]) hlifecycler).map Ingester.mk)

def Limits.entries (limits : Limits) : List (String × Outline) := [
  ("ingestion_rate_mb", .number limits.ingestionRate.toInt),
  ("ingestion_burst_size_mb", .number limits.ingestionBurstSize.toInt),
  ("max_label_name_length", .number limits.maxLabelNameLength.toInt),
  ("max_label_value_length", .number limits.maxLabelValueLength.toInt),
  ("max_label_names_per_series", .number limits.maxLabelNamesPerSeries.toInt),
  ("max_streams_per_user", .number limits.maxStreamsPerUser.toInt),
  ("max_line_size", .number limits.maxLineSize.toInt),
  ("max_global_streams_per_user", .number limits.maxGlobalStreamsPerUser.toInt),
  ("max_entries_limit_per_query", .number limits.maxEntriesLimitPerQuery.toInt),
  ("max_chunks_per_query", .number limits.maxChunksPerQuery.toInt),
  ("max_query_series", .number limits.maxQuerySeries.toInt)]

theorem Limits.reads (limits : Limits) : Limits.codec.Reads (.section limits.entries) limits := by
  have hnodup : (limits.entries.map Prod.fst).Nodup := by simp [entries]
  refine reads_strict hnodup ?_
  exact ((reads_number hnodup (by simp [entries])).map Limits.mk
    |>.seq (reads_number hnodup (by simp [entries]))
    |>.seq (reads_number hnodup (by simp [entries]))
    |>.seq (reads_number hnodup (by simp [entries]))
    |>.seq (reads_number hnodup (by simp [entries]))
    |>.seq (reads_number hnodup (by simp [entries]))
    |>.seq (reads_number hnodup (by simp [entries]))
    |>.seq (reads_number hnodup (by simp [entries]))
    |>.seq (reads_number hnodup (by simp [entries]))
    |>.seq (reads_number hnodup (by simp [entries]))
    |>.seq (reads_number hnodup (by simp [entries])))

def Aws.entries (aws : Aws) : List (String × Outline) := [
  ("s3", .text aws.s3),
  ("bucketnames", .text aws.bucketNames),
  ("region", .text aws.region),
  ("access_key_id", .text aws.accessKeyId),
  ("secret_access_key", .text aws.secretAccessKey)]

theorem Aws.reads (aws : Aws) : Aws.codec.Reads (.section aws.entries) aws := by
  have hnodup : (aws.entries.map Prod.fst).Nodup := by simp [entries]
  refine reads_strict hnodup ?_
  exact ((reads_text hnodup (by simp [entries])).map Aws.mk
    |>.seq (reads_text hnodup (by simp [entries]))
    |>.seq (reads_text hnodup (by simp [entries]))
    |>.seq (reads_text hnodup (by simp [entries]))
    |>.seq (reads_text hnodup (by simp [entries])))

def Storage.entries (storage : Storage) : List (String × Outline) := [
  ("aws", .section storage.aws.entries)]

theorem Storage.reads (storage : Storage) :
    Storage.codec.Reads (.section storage.entries) storage := by
  have hnodup : (storage.entries.map Prod.fst).Nodup := by simp [entries]
  have haws := storage.aws.reads
  exact reads_strict hnodup ((reads_defaulted hnodup (by simp [entries]) haws).map Storage.mk)

def Compactor.entries (compactor : Compactor) : List (String × Outline) := [
  ("working_directory", .text compactor.workingDirectory),
  ("shared_store", .text compactor.sharedStore)]

theorem Compactor.reads (compactor : Compactor) :
    Compactor.codec.Reads (.section compactor.entries) compactor := by
  have hnodup : (compactor.entries.map Prod.fst).Nodup := by simp [entries]
  refine reads_strict hnodup ?_
  exact (reads_text hnodup (by simp [entries])).map Compactor.mk
    |>.seq (reads_text hnodup (by simp [entries]))

/-! ### The whole file -/

theorem outline_eq (config : Config) : config.outline = [
    ("server", .section config.server.entries),
    ("ingester", .section config.ingester.entries),
    ("limits_config", .section config.limits.entries),
    ("storage_config", .section config.storage.entries),
    ("compactor", .section config.compactor.entries)] := rfl

theorem outline_reads (config : Config) : codec.Reads (.section config.outline) config := by
  have hnodup : (config.outline.map Prod.fst).Nodup := by simp [outline_eq]
  have hserver := config.server.reads
  have hingester := config.ingester.reads
  have hlimits := config.limits.reads
  have hstorage := config.storage.reads
  have hcompactor := config.compactor.reads
  refine reads_strict hnodup ?_
  exact ((reads_defaulted hnodup (by simp [outline_eq]) hserver).map Config.mk
    |>.seq (reads_defaulted hnodup (by simp [outline_eq]) hingester)
    |>.seq (reads_defaulted hnodup (by simp [outline_eq]) hlimits)
    |>.seq (reads_defaulted hnodup (by simp [outline_eq]) hstorage)
    |>.seq (reads_defaulted hnodup (by simp [outline_eq]) hcompactor))

theorem outline_isWellFormed (config : Config) : Outline.areWellFormed config.outline := by
  simp [outline, Outline.areWellFormed, Outline.isWellFormed, Outline.isKey, Yaml.isLetter,
    Yaml.isWord]

/-- Reading a rendered configuration gives it back. -/
theorem ofYaml?_toYaml (config : Config) : ofYaml? config.toYaml = some config := by
  have hne : config.outline ≠ [] := by simp [outline_eq]
  have htext := Yaml.Document.ofText?_render hne config.outline_isWellFormed
  rw [ofYaml?, toYaml, htext]
  exact config.outline_reads

theorem ofBytes?_toUTF8 (text : String) : ofBytes? text.toUTF8 = ofYaml? text := by
  rw [ofBytes?, Yaml.Document.ofBytes?_toUTF8]
  rfl

/-- A file with the text of a configuration is read as this configuration, whatever its numbers and
texts are. -/
theorem ofBytes?_toYaml (config : Config) : ofBytes? config.toYaml.toUTF8 = some config := by
  rw [ofBytes?_toUTF8, ofYaml?_toYaml]

end Rollout.Config
