import Rollout.Stack.Resolution

/-!
What a resolved stack is made of. Every size sets all limits of all tenants and the replication
factor, so in a stack that resolves none of them is left open.
-/

namespace Rollout.Stack

/-- The limits of a set, one by one. -/
inductive GlobalLimit where
  | ingestionRate
  | ingestionBurstSize
  | maxLabelNameLength
  | maxLabelValueLength
  | maxLabelNamesPerSeries
  | maxGlobalStreamsPerTenant
  | maxLineSize
  | maxEntriesLimitPerQuery
  | maxChunksPerQuery
  | maxQuerySeries
deriving DecidableEq

namespace GlobalLimit

def get (set : LimitSet) : GlobalLimit → Option Int32
  | .ingestionRate => set.ingestionLimits.ingestionRate
  | .ingestionBurstSize => set.ingestionLimits.ingestionBurstSize
  | .maxLabelNameLength => set.ingestionLimits.maxLabelNameLength
  | .maxLabelValueLength => set.ingestionLimits.maxLabelValueLength
  | .maxLabelNamesPerSeries => set.ingestionLimits.maxLabelNamesPerSeries
  | .maxGlobalStreamsPerTenant => set.ingestionLimits.maxGlobalStreamsPerTenant
  | .maxLineSize => set.ingestionLimits.maxLineSize
  | .maxEntriesLimitPerQuery => set.queryLimits.maxEntriesLimitPerQuery
  | .maxChunksPerQuery => set.queryLimits.maxChunksPerQuery
  | .maxQuerySeries => set.queryLimits.maxQuerySeries

theorem ext_get {first second : LimitSet} (hsame : ∀ limit, get first limit = get second limit) :
    first = second := by
  have hrate := hsame .ingestionRate
  have hburst := hsame .ingestionBurstSize
  have hnameLength := hsame .maxLabelNameLength
  have hvalueLength := hsame .maxLabelValueLength
  have hnames := hsame .maxLabelNamesPerSeries
  have hstreams := hsame .maxGlobalStreamsPerTenant
  have hline := hsame .maxLineSize
  have hentries := hsame .maxEntriesLimitPerQuery
  have hchunks := hsame .maxChunksPerQuery
  have hseries := hsame .maxQuerySeries
  obtain ⟨⟨_, _, _, _, _, _, _⟩, ⟨_, _, _⟩⟩ := first
  obtain ⟨⟨_, _, _, _, _, _, _⟩, ⟨_, _, _⟩⟩ := second
  simp_all [get]

theorem get_merge (tight loose : LimitSet) (limit : GlobalLimit) :
    get (merge tight loose) limit = (get tight limit).or (get loose limit) := by
  cases limit <;> rfl

/-- The operator has no rule about limits: the user decides, and then the size. -/
theorem get_layered (size : Size) (user : Spec) (limit : GlobalLimit) :
    get (layered size user).limits.globals limit =
      (get user.limits.globals limit).or (get size.defaults.limits.globals limit) := by
  have hrules : get Spec.operatorRules.limits.globals limit = none := by cases limit <;> rfl
  have hlayered : (layered size user).limits.globals =
      merge Spec.operatorRules.limits.globals
        (merge user.limits.globals size.defaults.limits.globals) := rfl
  rw [hlayered, get_merge, get_merge, hrules, Option.none_or]

theorem isSome_get_defaults (size : Size) (limit : GlobalLimit) :
    (get size.defaults.limits.globals limit).isSome := by
  cases size <;> cases limit <;> rfl

theorem isSome_get_layered (size : Size) (user : Spec) (limit : GlobalLimit) :
    (get (layered size user).limits.globals limit).isSome := by
  rw [get_layered, Option.isSome_or, isSome_get_defaults, Bool.or_true]

end GlobalLimit

theorem replicationFactor_layered (size : Size) (user : Spec) :
    (layered size user).replicationFactor =
      user.replicationFactor.or (some size.replicationFactor) := rfl

theorem isSome_replicationFactor_layered (size : Size) (user : Spec) :
    (layered size user).replicationFactor.isSome := by
  rw [replicationFactor_layered, Option.isSome_or, Option.isSome_some, Bool.or_true]

/-- The settings of a stack that resolves are its three layers. -/
theorem spec_of_resolve {size : Size} {user : Spec} {flags : Flags} {resolved : Resolved}
    (hresolved : resolve size user flags = .ok resolved) : resolved.spec = layered size user := by
  unfold resolve at hresolved
  split at hresolved
  · cases hresolved
  · split at hresolved <;> cases hresolved
    rfl

end Rollout.Stack
