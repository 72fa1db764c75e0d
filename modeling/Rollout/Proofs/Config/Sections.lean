import Rollout.Config.Sections
import Rollout.Proofs.Diff.Walk

/-!
The sections of a configuration file, and what it means that one of them changed. The walk over two
configurations reports exactly the sections whose values differ.
-/

namespace Rollout.Config

inductive Section where
  | server
  | ingester
  | limits
  | storage
  | compactor
deriving DecidableEq

namespace Section

def all : List Section := [.server, .ingester, .limits, .storage, .compactor]

/-- The key of a section in the file, which is also the name it is reported by. -/
def name : Section → String
  | .server => "server"
  | .ingester => "ingester"
  | .limits => "limits_config"
  | .storage => "storage_config"
  | .compactor => "compactor"

def Changed (old new : Config) : Section → Prop
  | .server => old.server ≠ new.server
  | .ingester => old.ingester ≠ new.ingester
  | .limits => old.limits ≠ new.limits
  | .storage => old.storage ≠ new.storage
  | .compactor => old.compactor ≠ new.compactor

instance (old new : Config) : DecidablePred (Changed old new) := fun part => by
  cases part <;> exact inferInstanceAs (Decidable (_ ≠ _))

theorem mem_all (part : Section) : part ∈ all := by cases part <;> decide

/-- The entry of the table of readers for a section names a component. -/
def IsReadBy (part : Section) (component : Component) : Prop :=
  ∃ entry ∈ Impact.readers, entry.1 = part.name ∧ component ∈ entry.2

end Section

/-- Two configurations are equal when no section changed. -/
theorem eq_iff_unchanged (old new : Config) :
    old = new ↔ ∀ part, ¬ Section.Changed old new part := by
  constructor
  · rintro rfl part
    cases part <;> simp [Section.Changed]
  · intro hsame
    have hserver := hsame .server
    have hingester := hsame .ingester
    have hlimits := hsame .limits
    have hstorage := hsame .storage
    have hcompactor := hsame .compactor
    simp only [Section.Changed, ne_eq, Decidable.not_not] at *
    obtain ⟨_, _, _, _, _⟩ := old
    obtain ⟨_, _, _, _, _⟩ := new
    simp_all

/-! ### The walk over a configuration -/

theorem same_integer (old new : Int32) :
    (Leaf.integer old.toInt).same (.integer new.toInt) = true ↔ old = new := by
  simp [Leaf.same, Int32.toInt_inj]

theorem same_text (old new : String) : (Leaf.text old).same (.text new) = true ↔ old = new := by
  simp [Leaf.same]

namespace Section

/-- The part of the tree of a configuration that stands for a section. -/
def tree (config : Config) : Section → Tree
  | .server => .record [⟨"http_listen_port", true, .integer config.server.httpListenPort.toInt⟩,
      ⟨"grpc_listen_port", true, .integer config.server.grpcListenPort.toInt⟩,
      ⟨"log_level", true, .text config.server.logLevel⟩]
  | .ingester => .record [⟨"lifecycler", true, .record [⟨"ring", true, .record [
      ⟨"replication_factor", true,
        .integer config.ingester.lifecycler.ring.replicationFactor.toInt⟩]⟩]⟩]
  | .limits => .record [
      ⟨"ingestion_rate", true, .integer config.limits.ingestionRate.toInt⟩,
      ⟨"ingestion_burst_size", true, .integer config.limits.ingestionBurstSize.toInt⟩,
      ⟨"max_label_name_length", true, .integer config.limits.maxLabelNameLength.toInt⟩,
      ⟨"max_label_value_length", true, .integer config.limits.maxLabelValueLength.toInt⟩,
      ⟨"max_label_names_per_series", true, .integer config.limits.maxLabelNamesPerSeries.toInt⟩,
      ⟨"max_streams_per_user", true, .integer config.limits.maxStreamsPerUser.toInt⟩,
      ⟨"max_line_size", true, .integer config.limits.maxLineSize.toInt⟩,
      ⟨"max_global_streams_per_user", true, .integer config.limits.maxGlobalStreamsPerUser.toInt⟩,
      ⟨"max_entries_limit_per_query", true, .integer config.limits.maxEntriesLimitPerQuery.toInt⟩,
      ⟨"max_chunks_per_query", true, .integer config.limits.maxChunksPerQuery.toInt⟩,
      ⟨"max_query_series", true, .integer config.limits.maxQuerySeries.toInt⟩]
  | .storage => .record [⟨"aws", true, .record [
      ⟨"s3", true, .text config.storage.aws.s3⟩,
      ⟨"bucket_names", true, .text config.storage.aws.bucketNames⟩,
      ⟨"region", true, .text config.storage.aws.region⟩,
      ⟨"access_key_id", true, .text config.storage.aws.accessKeyId⟩,
      ⟨"secret_access_key", true, .text config.storage.aws.secretAccessKey⟩]⟩]
  | .compactor => .record [⟨"working_directory", true, .text config.compactor.workingDirectory⟩,
      ⟨"shared_store", true, .text config.compactor.sharedStore⟩]

end Section

theorem tree_eq_record (config : Config) :
    config.tree = .record (Section.all.map fun part => ⟨part.name, true, part.tree config⟩) := rfl

/-- A section reports no difference exactly when its value is the same. -/
theorem Section.differences_eq_nil (old new : Config) (part : Section) :
    (part.tree old).differences (part.tree new) = [] ↔ ¬ Section.Changed old new part := by
  cases part
  all_goals
    simp only [Section.tree, Tree.differences_record, Tree.differencesOfMembers_cons,
      List.append_eq_nil_iff, List.map_eq_nil_iff, Tree.integer, Tree.text,
      Tree.differences_leaf_eq_nil, same_integer, same_text, Tree.differencesOfMembers_nil,
      and_true, Section.Changed, ne_eq, Decidable.not_not]
  case server =>
    obtain ⟨⟨_, _, _⟩, _, _, _, _⟩ := old
    obtain ⟨⟨_, _, _⟩, _, _, _, _⟩ := new
    simp
  case ingester =>
    obtain ⟨_, ⟨⟨⟨_⟩⟩⟩, _, _, _⟩ := old
    obtain ⟨_, ⟨⟨⟨_⟩⟩⟩, _, _, _⟩ := new
    simp
  case limits =>
    obtain ⟨_, _, ⟨_, _, _, _, _, _, _, _, _, _, _⟩, _, _⟩ := old
    obtain ⟨_, _, ⟨_, _, _, _, _, _, _, _, _, _, _⟩, _, _⟩ := new
    simp
  case storage =>
    obtain ⟨_, _, _, ⟨⟨_, _, _, _, _⟩⟩, _⟩ := old
    obtain ⟨_, _, _, ⟨⟨_, _, _, _, _⟩⟩, _⟩ := new
    simp
  case compactor =>
    obtain ⟨_, _, _, _, ⟨_, _⟩⟩ := old
    obtain ⟨_, _, _, _, ⟨_, _⟩⟩ := new
    simp

/-- The reported sections are those that changed, in the order of declaration and each once. -/
theorem changedSections_eq (old new : Config) :
    old.changedSections new =
      (Section.all.filter fun part => decide (Section.Changed old new part)).map Section.name := by
  have hmembers : ∀ parts : List Section,
      Tree.changedMembers (parts.map fun part => ⟨part.name, true, part.tree old⟩)
          (parts.map fun part => ⟨part.name, true, part.tree new⟩) =
        (parts.filter fun part => decide (Section.Changed old new part)).map Section.name := by
    intro parts
    induction parts with
    | nil => rfl
    | cons part rest ih =>
        have hpart := Section.differences_eq_nil old new part
        by_cases hchanged : Section.Changed old new part
        · simp [Tree.changedMembers, hpart, hchanged, ih]
        · simp [Tree.changedMembers, hpart, hchanged, ih]
  have hnames : ((Section.all.map fun part =>
      (⟨part.name, true, part.tree old⟩ : Member Tree)).map Member.name).Nodup := by
    rw [List.map_map]
    change (Section.all.map Section.name).Nodup
    decide
  rw [changedSections, tree_eq_record, tree_eq_record, Tree.changedSections_record _ _ hnames]
  exact hmembers Section.all

end Rollout.Config
