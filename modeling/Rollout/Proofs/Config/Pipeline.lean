import Rollout.Config.Build
import Rollout.Proofs.Config.Comparison
import Rollout.Proofs.Config.RoundTrip
import Rollout.Proofs.Stack.Resolution

/-!
From the wishes of two users to the components that restart. A rendered file holds the limits of all
tenants, the replication factor and the object storage, and nothing else of a stack; each of them
stands in a section of its own, and every one of these sections has readers.
-/

namespace Rollout

open Stack (GlobalLimit LimitSet Resolved)

namespace Stack.GlobalLimit

/-- The field of the configuration that a limit is written to. -/
def field (limits : Config.Limits) : GlobalLimit → Int32
  | .ingestionRate => limits.ingestionRate
  | .ingestionBurstSize => limits.ingestionBurstSize
  | .maxLabelNameLength => limits.maxLabelNameLength
  | .maxLabelValueLength => limits.maxLabelValueLength
  | .maxLabelNamesPerSeries => limits.maxLabelNamesPerSeries
  | .maxGlobalStreamsPerTenant => limits.maxGlobalStreamsPerUser
  | .maxLineSize => limits.maxLineSize
  | .maxEntriesLimitPerQuery => limits.maxEntriesLimitPerQuery
  | .maxChunksPerQuery => limits.maxChunksPerQuery
  | .maxQuerySeries => limits.maxQuerySeries

theorem field_ofSet (set : LimitSet) (limit : GlobalLimit) :
    field (.ofSet set) limit = (get set limit).getD 0 := by
  cases limit <;> rfl

end Stack.GlobalLimit

namespace Config

/-- Some limit of all tenants is another one. -/
def LimitsDiffer (first second : Resolved) : Prop :=
  ∃ limit, GlobalLimit.get first.spec.limits.globals limit ≠
    GlobalLimit.get second.spec.limits.globals limit

/-- A set value is not hidden by the fallback for values that are left open. -/
theorem eq_of_getD {first second : Option Int32} (hfirst : first.isSome) (hsecond : second.isSome)
    (hsame : first.getD 0 = second.getD 0) : first = second := by
  obtain ⟨a, rfl⟩ := Option.isSome_iff_exists.mp hfirst
  obtain ⟨b, rfl⟩ := Option.isSome_iff_exists.mp hsecond
  exact congrArg some hsame

theorem ofSet_ne_iff {first second : LimitSet}
    (hfirst : ∀ limit, (GlobalLimit.get first limit).isSome)
    (hsecond : ∀ limit, (GlobalLimit.get second limit).isSome) :
    Limits.ofSet first ≠ .ofSet second ↔
      ∃ limit, GlobalLimit.get first limit ≠ GlobalLimit.get second limit := by
  constructor
  · intro hne
    by_contra hnone
    apply hne
    have hsame : ∀ limit, GlobalLimit.get first limit = GlobalLimit.get second limit := by
      intro limit
      by_contra hlimit
      exact hnone ⟨limit, hlimit⟩
    rw [GlobalLimit.ext_get hsame]
  · rintro ⟨limit, hlimit⟩ heq
    apply hlimit
    have hfield := congrArg (fun limits => GlobalLimit.field limits limit) heq
    simp only [GlobalLimit.field_ofSet] at hfield
    exact eq_of_getD (hfirst limit) (hsecond limit) hfield

/-! ### Files of two stacks -/

def file (resolved : Resolved) (storage : ObjectStorage) : ByteArray :=
  (build resolved storage).toYaml.toUTF8

theorem ofBytes?_file (resolved : Resolved) (storage : ObjectStorage) :
    ofBytes? (file resolved storage) = some (build resolved storage) := by
  rw [file, ofBytes?_toUTF8, ofYaml?_toYaml]

section Stacks

variable {size size' : Stack.Size} {user user' : Stack.Spec} {flags flags' : Stack.Flags}
  {resolved resolved' : Resolved} (storage storage' : ObjectStorage)

/-- What two stacks have to differ in for a section of their files to differ. -/
def Differ (resolved resolved' : Resolved) (storage storage' : ObjectStorage) : Section → Prop
  | .server => False
  | .ingester => resolved.spec.replicationFactor ≠ resolved'.spec.replicationFactor
  | .limits => LimitsDiffer resolved resolved'
  | .storage => storage ≠ storage'
  | .compactor => False

theorem changed_build (hresolved : Stack.resolve size user flags = .ok resolved)
    (hresolved' : Stack.resolve size' user' flags' = .ok resolved') (part : Section) :
    part.Changed (build resolved storage) (build resolved' storage') ↔
      Differ resolved resolved' storage storage' part := by
  have hspec := Stack.spec_of_resolve hresolved
  have hspec' := Stack.spec_of_resolve hresolved'
  cases part with
  | server => simp [Section.Changed, Differ, build]
  | ingester =>
      have hfactor := Stack.isSome_replicationFactor_layered size user
      have hfactor' := Stack.isSome_replicationFactor_layered size' user'
      rw [← hspec] at hfactor
      rw [← hspec'] at hfactor'
      have hsame : (build resolved storage).ingester = (build resolved' storage').ingester ↔
          resolved.spec.replicationFactor = resolved'.spec.replicationFactor := by
        constructor
        · intro heq
          have hvalue :=
            congrArg (fun part : Ingester => part.lifecycler.ring.replicationFactor) heq
          exact eq_of_getD hfactor hfactor' hvalue
        · intro heq
          simp [build, Resolved.replicationFactor, heq]
      exact not_congr hsame
  | limits =>
      have hlimits := Stack.GlobalLimit.isSome_get_layered size user
      have hlimits' := Stack.GlobalLimit.isSome_get_layered size' user'
      rw [← hspec] at hlimits
      rw [← hspec'] at hlimits'
      exact ofSet_ne_iff hlimits hlimits'
  | storage =>
      have hsame : (build resolved storage).storage = (build resolved' storage').storage ↔
          storage = storage' := by
        obtain ⟨_, _, _, _, _⟩ := storage
        obtain ⟨_, _, _, _, _⟩ := storage'
        simp [build]
      exact not_congr hsame
  | compactor => simp [Section.Changed, Differ, build]

/-- What two stacks have to differ in for a component to restart. -/
def Restarts (resolved resolved' : Resolved) (storage storage' : ObjectStorage) : Component → Prop
  | .compactor => storage ≠ storage'
  | .distributor | .querier | .queryFrontend => storage ≠ storage' ∨ LimitsDiffer resolved resolved'
  | .ingester => storage ≠ storage' ∨ LimitsDiffer resolved resolved' ∨
      resolved.spec.replicationFactor ≠ resolved'.spec.replicationFactor

theorem Section.isReadBy_iff (part : Section) (component : Component) :
    part.IsReadBy component ↔ match part with
      | .server | .compactor => False
      | .ingester => component = .ingester
      | .limits => component ≠ .compactor
      | .storage => True := by
  cases part <;> cases component <;> simp [IsReadBy, Impact.readers, name]

theorem restarts_iff (component : Component) :
    Restarts resolved resolved' storage storage' component ↔
      ∃ part, Differ resolved resolved' storage storage' part ∧ part.IsReadBy component := by
  have hexists : ∀ p : Section → Prop,
      (∃ part, p part) ↔ p .storage ∨ p .limits ∨ p .ingester ∨ p .server ∨ p .compactor := by
    intro p
    constructor
    · rintro ⟨part, hpart⟩
      cases part <;> simp [hpart]
    · rintro (hpart | hpart | hpart | hpart | hpart) <;> exact ⟨_, hpart⟩
  rw [hexists]
  cases component <;> simp [Section.isReadBy_iff, Differ, Restarts]

theorem concerns_build (hresolved : Stack.resolve size user flags = .ok resolved)
    (hresolved' : Stack.resolve size' user' flags' = .ok resolved') (component : Component) :
    Concerns (build resolved storage) (build resolved' storage') component ↔
      Restarts resolved resolved' storage storage' component := by
  rw [restarts_iff]
  simp only [Concerns, changed_build storage storage' hresolved hresolved']

/-- The sections without readers are the same in all files that are rendered. -/
theorem unreadSections_build (hresolved : Stack.resolve size user flags = .ok resolved)
    (hresolved' : Stack.resolve size' user' flags' = .ok resolved') :
    unreadSections (build resolved storage) (build resolved' storage') = [] := by
  have hread : ∀ part : Section, part.Changed (build resolved storage) (build resolved' storage') →
      part.name ∈ Impact.readers.map Prod.fst := by
    intro part hchanged
    have hdiffer := (changed_build storage storage' hresolved hresolved' part).mp hchanged
    cases part with
    | server => exact hdiffer.elim
    | ingester => decide
    | limits => decide
    | storage => decide
    | compactor => exact hdiffer.elim
  rw [unreadSections, List.map_eq_nil_iff, List.filter_eq_nil_iff]
  intro part _ hunread
  obtain ⟨hchanged, habsent⟩ := of_decide_eq_true hunread
  exact habsent (hread part hchanged)

/-- A file holds nothing that no component restarts for. -/
theorem file_eq_of_not_restarts (hresolved : Stack.resolve size user flags = .ok resolved)
    (hresolved' : Stack.resolve size' user' flags' = .ok resolved')
    (hsame : ∀ component, ¬ Restarts resolved resolved' storage storage' component) :
    file resolved storage = file resolved' storage' := by
  have hbuild : build resolved storage = build resolved' storage' := by
    rw [eq_iff_unchanged]
    intro part hchanged
    have hdiffer := (changed_build storage storage' hresolved hresolved' part).mp hchanged
    apply hsame .ingester
    rw [restarts_iff]
    refine ⟨part, hdiffer, (Section.isReadBy_iff part .ingester).mpr ?_⟩
    cases part <;> simp [Differ] at hdiffer ⊢
  rw [file, hbuild, file]

end Stacks

end Config

/-- From the settings of two stacks to the components that restart between their files. A component
restarts exactly when the object storage differs, or a limit of all tenants that it keeps to, or the
replication factor that it runs with. Nothing else about a stack has a part in it, and nothing else
gets into the file. -/
theorem Comparison.compare_file {size size' : Stack.Size} {user user' : Stack.Spec}
    {flags flags' : Stack.Flags} {resolved resolved' : Resolved}
    (hresolved : Stack.resolve size user flags = .ok resolved)
    (hresolved' : Stack.resolve size' user' flags' = .ok resolved')
    (storage storage' : ObjectStorage) :
    ∃ change,
      ConfigChange.between (Config.file resolved storage) (Config.file resolved' storage') =
        .ok change ∧
      compare (Config.file resolved storage) (Config.file resolved' storage') =
        .ok change.comparison ∧
      change.unregistered = [] ∧
      (Log.ofChange change).filter (·.level = .warn) = [] ∧
      (∀ component,
        (Config.Restarts resolved resolved' storage storage' component →
          change.comparison.get component = Config.hash (Config.file resolved' storage')) ∧
        (¬ Config.Restarts resolved resolved' storage storage' component →
          change.comparison.get component = Config.hash (Config.file resolved storage))) ∧
      ((∀ component, ¬ Config.Restarts resolved resolved' storage storage' component) →
        Config.file resolved storage = Config.file resolved' storage') := by
  obtain ⟨change, hchange, hget, hunread⟩ := ConfigChange.between_readable
    (Config.ofBytes?_file resolved storage) (Config.ofBytes?_file resolved' storage')
  have hnone : change.unregistered = [] := by
    rw [hunread, Config.unreadSections_build storage storage' hresolved hresolved']
  have hquiet : (Log.ofChange change).filter (·.level = .warn) = [] := by
    have hwarnings := Log.warnings_ofChange change
    rw [hnone, List.map_nil, List.map_eq_nil_iff] at hwarnings
    exact hwarnings
  refine ⟨change, hchange, compare_of_between hchange, hnone, hquiet, fun component => ?_,
    Config.file_eq_of_not_restarts storage storage' hresolved hresolved'⟩
  have hconcerns := Config.concerns_build storage storage' hresolved hresolved' component
  constructor
  · intro hrestarts
    rw [hget, if_pos (hconcerns.mpr hrestarts)]
  · intro hrestarts
    rw [hget, if_neg fun hconcerned => hrestarts (hconcerns.mp hconcerned)]

/-- A user who lets every tenant ingest more. -/
def Stack.Spec.fasterIngestion : Stack.Spec :=
  { limits := { globals := { ingestionLimits := { ingestionRate := some 100 } } } }

theorem Comparison.compare_file_fasterIngestion :
    ∃ resolved resolved' change,
      Stack.resolve .small {} {} = .ok resolved ∧
      Stack.resolve .small .fasterIngestion {} = .ok resolved' ∧
      compare (Config.file resolved {}) (Config.file resolved' {}) = .ok change ∧
      change.get .compactor = Config.hash (Config.file resolved {}) ∧
      change.get .distributor = Config.hash (Config.file resolved' {}) := by
  have hresolved : Stack.resolve .small {} {} = .ok ⟨.small, Stack.layered .small {}, {}⟩ := rfl
  have hresolved' : Stack.resolve .small .fasterIngestion {} =
      .ok ⟨.small, Stack.layered .small .fasterIngestion, {}⟩ := rfl
  obtain ⟨change, -, hcompare, -, -, hget, -⟩ := compare_file hresolved hresolved' {} {}
  have hsame : ¬ (({} : ObjectStorage) ≠ {}) := fun hne => hne rfl
  have hdiffer : Config.LimitsDiffer ⟨.small, Stack.layered .small {}, {}⟩
      ⟨.small, Stack.layered .small .fasterIngestion, {}⟩ := ⟨.ingestionRate, by decide⟩
  exact ⟨_, _, change.comparison, hresolved, hresolved', hcompare, (hget .compactor).2 hsame,
    (hget .distributor).1 (Or.inr hdiffer)⟩

end Rollout
