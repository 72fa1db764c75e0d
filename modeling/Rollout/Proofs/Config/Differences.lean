import Rollout.Config.Sections
import Rollout.Proofs.Diff.Cover

/-!
The type of a configuration as a document. All configurations have it, so a comparison of two of
them is an exact list of the fields that differ.
-/

namespace Rollout.Config

open Rollout.Tree (ExactCover HasShape LeafKind Shape)

def leafFields (kind : LeafKind) (names : List String) : List (Member Shape) :=
  names.map fun name => { name, value := .leaf kind }

/-- A section whose type goes by the name of the section. -/
def sectionField (name : String) : Member Shape := { name, value := .record name }

/-- The members of a configuration and of its sections, under the names they are reported by. -/
def fields : String → List (Member Shape)
  | "config" => [sectionField "server", sectionField "ingester", sectionField "limits_config",
      sectionField "storage_config", sectionField "compactor"]
  | "server" => leafFields .integer ["http_listen_port", "grpc_listen_port"] ++
      leafFields .text ["log_level"]
  | "ingester" => [sectionField "lifecycler"]
  | "lifecycler" => [sectionField "ring"]
  | "ring" => leafFields .integer ["replication_factor"]
  | "limits_config" => leafFields .integer ["ingestion_rate", "ingestion_burst_size",
      "max_label_name_length", "max_label_value_length", "max_label_names_per_series",
      "max_streams_per_user", "max_line_size", "max_global_streams_per_user",
      "max_entries_limit_per_query", "max_chunks_per_query", "max_query_series"]
  | "storage_config" => [sectionField "aws"]
  | "aws" => leafFields .text ["s3", "bucket_names", "region", "access_key_id", "secret_access_key"]
  | "compactor" => leafFields .text ["working_directory", "shared_store"]
  | _ => []

theorem nodup_fields (name : String) : (comparedNames (fields name)).Nodup := by
  unfold fields
  split <;> decide

theorem hasShape_tree (config : Config) : HasShape fields (.record "config") config.tree := by
  simp [tree, fields, leafFields, sectionField, Tree.declarations, Tree.integer, Tree.text,
    Tree.leafKind]

/-- The reported paths of two configurations are exactly their differences. -/
theorem exactCover_tree (old new : Config) :
    ExactCover old.tree new.tree (old.differences new) :=
  (old.hasShape_tree.comparable nodup_fields new.hasShape_tree).exactCover

end Rollout.Config
