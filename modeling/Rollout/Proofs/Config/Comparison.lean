import Mathlib.Data.List.Nodup
import Rollout.Config.Comparison
import Rollout.Log.Report
import Rollout.Proofs.Config.Sections

/-!
What a comparison decides. A component gets the new hash exactly when a section that it reads has
changed, so everything that follows from a comparison is stated about `Config.Concerns` and no
longer about the walk or the table of readers.
-/

namespace Rollout

namespace Impact

/-- In a table that names each section once, looking a section up finds its only entry. -/
theorem mem_lookup (table : List (String × List Component)) (hkeys : (table.map Prod.fst).Nodup)
    (name : String) (component : Component) :
    (∃ entry, table.find? (·.1 = name) = some entry ∧ component ∈ entry.2) ↔
      ∃ entry ∈ table, entry.1 = name ∧ component ∈ entry.2 := by
  constructor
  · rintro ⟨entry, hfind, hread⟩
    have hname := List.find?_some hfind
    exact ⟨entry, List.mem_of_find?_eq_some hfind, by simpa using hname, hread⟩
  · rintro ⟨entry, hmem, hname, hread⟩
    cases hfind : table.find? (·.1 = name) with
    | none =>
        have habsent := List.find?_eq_none.mp hfind entry hmem
        exact absurd hname (by simpa using habsent)
    | some found =>
        have hfound := List.find?_some hfind
        have hsame : found.1 = entry.1 := by simpa [hname] using hfound
        have heq := List.inj_on_of_nodup_map hkeys (List.mem_of_find?_eq_some hfind) hmem hsame
        exact ⟨found, rfl, heq ▸ hread⟩

theorem mem_componentsOf (name : String) (component : Component) :
    component ∈ componentsOf name ↔
      ∃ entry ∈ readers, entry.1 = name ∧ component ∈ entry.2 := by
  rw [← mem_lookup readers (by decide)]
  unfold componentsOf
  cases readers.find? (·.1 = name) with
  | none => simp
  | some entry => simp

theorem isRegistered_iff (name : String) : isRegistered name ↔ name ∈ readers.map Prod.fst := by
  simp only [isRegistered, List.any_eq_true, List.mem_map, decide_eq_true_eq]

theorem mem_affected (sections : List String) (component : Component) :
    component ∈ affected sections ↔ ∃ name ∈ sections, component ∈ componentsOf name := by
  simp [affected, Component.mem_all]

end Impact

namespace Config

/-- Two configurations differ in a section that a component reads. -/
def Concerns (old new : Config) (component : Component) : Prop :=
  ∃ part, Section.Changed old new part ∧ part.IsReadBy component

theorem mem_affected_changedSections (old new : Config) (component : Component) :
    component ∈ Impact.affected (old.changedSections new) ↔ Concerns old new component := by
  simp only [Impact.mem_affected, Impact.mem_componentsOf, changedSections_eq, List.mem_map,
    List.mem_filter, Section.mem_all, true_and, decide_eq_true_eq, Concerns, Section.IsReadBy]
  constructor
  · rintro ⟨name, ⟨part, hchanged, rfl⟩, hread⟩
    exact ⟨part, hchanged, hread⟩
  · rintro ⟨part, hchanged, hread⟩
    exact ⟨part.name, ⟨part, hchanged, rfl⟩, hread⟩

instance (old new : Config) (component : Component) : Decidable (Concerns old new component) :=
  decidable_of_iff _ (mem_affected_changedSections old new component)

/-- A configuration that did not change concerns nobody. -/
theorem not_concerns_self (config : Config) (component : Component) :
    ¬ Concerns config config component := by
  rintro ⟨part, hchanged, -⟩
  exact (eq_iff_unchanged config config).mp rfl part hchanged

/-- The sections that changed and stand in no entry of the table of readers, by name and in the
order of declaration. -/
def unreadSections (old new : Config) : List String :=
  (Section.all.filter fun part =>
    decide (Section.Changed old new part ∧ part.name ∉ Impact.readers.map Prod.fst)).map
      Section.name

theorem unreadSections_nodup (old new : Config) : (unreadSections old new).Nodup := by
  have hnames : (Section.all.map Section.name).Nodup := by decide
  exact hnames.sublist (List.Sublist.map Section.name List.filter_sublist)

theorem unreadSections_self (config : Config) : unreadSections config config = [] := by
  have hsame := (eq_iff_unchanged config config).mp rfl
  simp [unreadSections, hsame]

end Config

namespace Comparison

@[simp] theorem get_uniform (hash : String) (component : Component) :
    (uniform hash).get component = hash := get_assign _ _

theorem ext_get {first second : Comparison}
    (hsame : ∀ component, first.get component = second.get component) : first = second := by
  have hcompactor := hsame .compactor
  have hdistributor := hsame .distributor
  have hingester := hsame .ingester
  have hquerier := hsame .querier
  have hqueryFrontend := hsame .queryFrontend
  obtain ⟨_, _, _, _, _⟩ := first
  obtain ⟨_, _, _, _, _⟩ := second
  simp_all [get]

end Comparison

namespace ConfigChange

open Config (Concerns unreadSections)

section Readable

variable {old new : ByteArray} {oldConfig newConfig : Config}

/-- Two readable files can be compared. What comes out is settled by the two configurations and
by the hashes of the files. -/
theorem between_readable (hold : Config.ofBytes? old = some oldConfig)
    (hnew : Config.ofBytes? new = some newConfig) :
    ∃ change, between old new = .ok change ∧
      (∀ component, change.comparison.get component =
        if Concerns oldConfig newConfig component then Config.hash new else Config.hash old) ∧
      change.unregistered = unreadSections oldConfig newConfig := by
  simp only [between, hold, hnew]
  by_cases hsame : oldConfig = newConfig
  · subst hsame
    refine ⟨.unchanged (Config.hash old), by simp, fun component => ?_, ?_⟩
    · simp [comparison, Config.not_concerns_self]
    · exact (Config.unreadSections_self oldConfig).symm
  · refine ⟨_, if_neg hsame, fun component => ?_, ?_⟩
    · simp [comparison, Config.mem_affected_changedSections]
    · have hregistered : ∀ part : Config.Section,
          (!Impact.isRegistered part.name) = decide (part.name ∉ Impact.readers.map Prod.fst) := by
        intro part
        simp only [← Impact.isRegistered_iff]
        cases Impact.isRegistered part.name <;> rfl
      simp only [unregistered, Config.changedSections_eq, unreadSections, List.filter_map,
        List.filter_filter, Function.comp_def, hregistered, Bool.and_comm, Bool.decide_and]

end Readable

theorem between_eq_malformed_old (old new : ByteArray) :
    between old new = .error (.malformedConfig .old) ↔ Config.ofBytes? old = none := by
  unfold between
  cases Config.ofBytes? old with
  | none => simp
  | some oldConfig =>
      cases Config.ofBytes? new with
      | none => simp
      | some newConfig => by_cases hsame : oldConfig = newConfig <;> simp [hsame]

theorem between_eq_malformed_new (old new : ByteArray) :
    between old new = .error (.malformedConfig .new) ↔
      (Config.ofBytes? old).isSome ∧ Config.ofBytes? new = none := by
  unfold between
  cases Config.ofBytes? old with
  | none => simp
  | some oldConfig =>
      cases Config.ofBytes? new with
      | none => simp
      | some newConfig => by_cases hsame : oldConfig = newConfig <;> simp [hsame]

end ConfigChange

/-- The warnings about a change name the changed sections that no component reads. -/
theorem Log.warnings_ofChange (change : ConfigChange) :
    ((Log.ofChange change).filter (·.level = .warn)).map Log.Event.fields =
      change.unregistered.map fun name => [("section", name)] := by
  cases change with
  | unchanged oldHash => rfl
  | changed sections oldHash newHash =>
      simp [Log.ofChange, List.filter_append, List.filter_map, Function.comp_def]

namespace Comparison

theorem compare_eq_error (old new : ByteArray) (cause : ComparisonError) :
    compare old new = .error cause ↔ ConfigChange.between old new = .error cause := by
  unfold compare
  cases ConfigChange.between old new <;> simp [Except.map]

theorem compare_of_between {old new : ByteArray} {change : ConfigChange}
    (hchange : ConfigChange.between old new = .ok change) :
    compare old new = .ok change.comparison := by
  simp [compare, hchange, Except.map]

/-- A comparison restarts selectively. It fails only on a file that is no configuration, and looks
at the old file first. Otherwise the components that read a changed section get the hash of the
new file, all others that of the old file, and every changed section that stands in no entry of
the table of readers is warned about once, in the order of declaration. -/
theorem compare_selective (old new : ByteArray) :
    (compare old new = .error (.malformedConfig .old) ↔ Config.ofBytes? old = none) ∧
    (compare old new = .error (.malformedConfig .new) ↔
      (Config.ofBytes? old).isSome ∧ Config.ofBytes? new = none) ∧
    ∀ oldConfig newConfig, Config.ofBytes? old = some oldConfig →
      Config.ofBytes? new = some newConfig →
      ∃ change, ConfigChange.between old new = .ok change ∧
        compare old new = .ok change.comparison ∧
        (∀ component,
          (Config.Concerns oldConfig newConfig component →
            change.comparison.get component = Config.hash new) ∧
          (¬ Config.Concerns oldConfig newConfig component →
            change.comparison.get component = Config.hash old)) ∧
        (oldConfig = newConfig → change.comparison = uniform (Config.hash old)) ∧
        change.unregistered = Config.unreadSections oldConfig newConfig ∧
        change.unregistered.Nodup ∧
        ((Log.ofChange change).filter (·.level = .warn)).map Log.Event.fields =
          change.unregistered.map fun name => [("section", name)] := by
  refine ⟨?_, ?_, ?_⟩
  · rw [compare_eq_error]
    exact ConfigChange.between_eq_malformed_old old new
  · rw [compare_eq_error]
    exact ConfigChange.between_eq_malformed_new old new
  · intro oldConfig newConfig hold hnew
    obtain ⟨change, hchange, hget, hunread⟩ := ConfigChange.between_readable hold hnew
    refine ⟨change, hchange, compare_of_between hchange, ?_, ?_, hunread, ?_,
      Log.warnings_ofChange change⟩
    · intro component
      constructor
      · intro hconcerns
        rw [hget, if_pos hconcerns]
      · intro hconcerns
        rw [hget, if_neg hconcerns]
    · rintro rfl
      apply ext_get
      intro component
      rw [hget, if_neg (Config.not_concerns_self oldConfig component), get_uniform]
    · rw [hunread]
      exact Config.unreadSections_nodup oldConfig newConfig

end Comparison

end Rollout
