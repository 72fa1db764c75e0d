import Rollout.Proofs.Entries
import Rollout.Proofs.Stack.Resolution

/-!
Resolution as three layers, setting by setting. What a stack is settled to is described without
merging: a setting is the user's where the user has one and that of the size otherwise, but for the
replicas of the compactor and for the tenants. The description leaves no choice, and resolving
succeeds with the one spec that meets it unless the user asks for another size.
-/

namespace Rollout.Stack

/-- The settings of a stack of some size under the wishes of a user. Node selector and tolerations
of a component are one setting each, so that an empty one is a wish like any other. -/
structure Spec.Settles (result : Spec) (size : Size) (user : Spec) : Prop where
  ofSize : result.size = some size
  managementState :
    result.managementState = user.managementState.or size.defaults.managementState
  secret : result.storage.secret.name =
    user.storage.secret.name.or size.defaults.storage.secret.name
  replicationFactor :
    result.replicationFactor = user.replicationFactor.or size.defaults.replicationFactor
  limit : ∀ limit, GlobalLimit.get result.limits.globals limit =
    (GlobalLimit.get user.limits.globals limit).or
      (GlobalLimit.get size.defaults.limits.globals limit)
  tenants : result.limits.tenants = user.limits.tenants
  compactor : (result.template.get .compactor).replicas = some 1
  replicas : ∀ component, component ≠ .compactor →
    (result.template.get component).replicas =
      (user.template.get component).replicas.or (size.defaults.template.get component).replicas
  nodeSelector : ∀ component, (result.template.get component).nodeSelector =
    (user.template.get component).nodeSelector.or
      (size.defaults.template.get component).nodeSelector
  tolerations : ∀ component, (result.template.get component).tolerations =
    (user.template.get component).tolerations.or
      (size.defaults.template.get component).tolerations

/-! ### Settings make up a spec -/

theorem Template.ext_get {first second : Template}
    (hsame : ∀ component, first.get component = second.get component) : first = second := by
  have hcompactor := hsame .compactor
  have hdistributor := hsame .distributor
  have hingester := hsame .ingester
  have hquerier := hsame .querier
  have hqueryFrontend := hsame .queryFrontend
  obtain ⟨_, _, _, _, _⟩ := first
  obtain ⟨_, _, _, _, _⟩ := second
  simp_all [get]

theorem ComponentSpec.ext_settings {first second : ComponentSpec}
    (hreplicas : first.replicas = second.replicas)
    (hnodeSelector : first.nodeSelector = second.nodeSelector)
    (htolerations : first.tolerations = second.tolerations) : first = second := by
  obtain ⟨_, _, _⟩ := first
  obtain ⟨_, _, _⟩ := second
  simp_all

namespace Spec

/-- Specs that set everything alike are the same. -/
theorem ext_settings {first second : Spec} (hsize : first.size = second.size)
    (hstate : first.managementState = second.managementState)
    (hsecret : first.storage.secret.name = second.storage.secret.name)
    (hfactor : first.replicationFactor = second.replicationFactor)
    (hlimit : ∀ limit, GlobalLimit.get first.limits.globals limit =
      GlobalLimit.get second.limits.globals limit)
    (htenants : first.limits.tenants = second.limits.tenants)
    (hreplicas : ∀ component, (first.template.get component).replicas =
      (second.template.get component).replicas)
    (hnodeSelector : ∀ component, (first.template.get component).nodeSelector =
      (second.template.get component).nodeSelector)
    (htolerations : ∀ component, (first.template.get component).tolerations =
      (second.template.get component).tolerations) : first = second := by
  have hglobals := GlobalLimit.ext_get hlimit
  have htemplate := Template.ext_get fun component =>
    ComponentSpec.ext_settings (hreplicas component) (hnodeSelector component)
      (htolerations component)
  obtain ⟨_, _, ⟨⟨_⟩⟩, _, ⟨_, _⟩, _⟩ := first
  obtain ⟨_, _, ⟨⟨_⟩⟩, _, ⟨_, _⟩, _⟩ := second
  simp_all

/-- A stack is settled in one way only. -/
theorem Settles.unique {first second : Spec} {size : Size} {user : Spec}
    (hfirst : first.Settles size user) (hsecond : second.Settles size user) : first = second := by
  apply ext_settings
  case hsize => rw [hfirst.ofSize, hsecond.ofSize]
  case hstate => rw [hfirst.managementState, hsecond.managementState]
  case hsecret => rw [hfirst.secret, hsecond.secret]
  case hfactor => rw [hfirst.replicationFactor, hsecond.replicationFactor]
  case hlimit => exact fun limit => by rw [hfirst.limit, hsecond.limit]
  case htenants => rw [hfirst.tenants, hsecond.tenants]
  case hreplicas =>
    intro component
    by_cases hcompactor : component = .compactor
    · rw [hcompactor, hfirst.compactor, hsecond.compactor]
    · rw [hfirst.replicas component hcompactor, hsecond.replicas component hcompactor]
  case hnodeSelector => exact fun component => by rw [hfirst.nodeSelector, hsecond.nodeSelector]
  case htolerations => exact fun component => by rw [hfirst.tolerations, hsecond.tolerations]

/-- The same wishes but for the replicas of the compactor. -/
def withCompactorReplicas (user : Spec) (replicas : Option Int32) : Spec :=
  { user with template := { user.template with
    compactor := { user.template.compactor with replicas := replicas } } }

/-- What a user wishes for the replicas of the compactor has no part in what settles a stack. -/
theorem Settles.withCompactorReplicas {result user : Spec} {size : Size}
    (hsettles : result.Settles size user) (replicas : Option Int32) :
    result.Settles size (user.withCompactorReplicas replicas) := by
  refine { hsettles with
    replicas := ?replicas
    nodeSelector := ?selector
    tolerations := ?tolerations }
  case replicas =>
    intro component hcompactor
    rw [hsettles.replicas component hcompactor]
    cases component with
    | compactor => exact absurd rfl hcompactor
    | _ => rfl
  case selector =>
    intro component
    rw [hsettles.nodeSelector]
    cases component <;> rfl
  case tolerations =>
    intro component
    rw [hsettles.tolerations]
    cases component <;> rfl

end Spec

/-! ### The three layers -/

theorem otherSize?_eq_none_iff (size : Size) (user : Spec) :
    user.otherSize? size = none ↔ ∀ requested, user.size = some requested → requested = size := by
  simp [Spec.otherSize?]

/-- The operator decides the replicas of the compactor, and no tenants but the user's are there to
be put over each other. -/
theorem layered_settles {size : Size} {user : Spec}
    (hsize : ∀ requested, user.size = some requested → requested = size) :
    (layered size user).Settles size user where
  ofSize := by
    have hlayered : (layered size user).size = user.size.or (some size) := rfl
    rw [hlayered]
    cases hrequested : user.size with
    | none => rfl
    | some requested => rw [hsize requested hrequested, Option.some_or]
  managementState := rfl
  secret := rfl
  replicationFactor := rfl
  limit := GlobalLimit.get_layered size user
  tenants := KeyMap.empty_mergeWith merge user.limits.tenants
  compactor := rfl
  replicas := by
    intro component hcompactor
    cases component with
    | compactor => exact absurd rfl hcompactor
    | _ => rfl
  nodeSelector := by
    intro component
    cases component <;> rfl
  tolerations := by
    intro component
    cases component <;> rfl

/-- Every size comes with replicas for every component. -/
theorem isSome_replicas_layered (size : Size) (user : Spec) (component : Component) :
    ((layered size user).template.get component).replicas.isSome := by
  have hdefault : (size.defaults.template.get component).replicas.isSome := by
    cases component <;> rfl
  have hlayered : ((layered size user).template.get component).replicas =
      (Spec.operatorRules.template.get component).replicas.or
        ((user.template.get component).replicas.or
          (size.defaults.template.get component).replicas) := by
    cases component <;> rfl
  rw [hlayered, Option.isSome_or, Option.isSome_or, hdefault, Bool.or_true, Bool.or_true]

/-- No field that every stack needs is left open, whatever the user wishes. -/
theorem missingField?_layered (size : Size) (user : Spec) :
    (layered size user).missingField? = none := by
  have hfactor : (layered size user).replicationFactor.isNone = false := by
    rw [Option.isNone_eq_false_iff]
    exact isSome_replicationFactor_layered size user
  have hreplicas : Component.all.find? (fun component =>
      ((layered size user).template.get component).replicas.isNone) = none := by
    rw [List.find?_eq_none]
    intro component _
    rw [Option.isNone_iff_eq_none]
    exact Option.isSome_iff_ne_none.mp (isSome_replicas_layered size user component)
  simp [Spec.missingField?, hfactor, hreplicas]

theorem resolve_eq (size : Size) (user : Spec) (flags : Flags) :
    resolve size user flags =
      match user.otherSize? size with
      | some requested => .error (.mergeConflict size (.sizeMismatch requested))
      | none => .ok ⟨size, layered size user, flags⟩ := by
  unfold resolve
  cases user.otherSize? size with
  | some requested => rfl
  | none => simp only [missingField?_layered]

theorem resolve_eq_ok_layered {size : Size} {user : Spec} {flags : Flags} {resolved : Resolved} :
    resolve size user flags = .ok resolved ↔
      (∀ requested, user.size = some requested → requested = size) ∧
        resolved = ⟨size, layered size user, flags⟩ := by
  rw [resolve_eq, ← otherSize?_eq_none_iff]
  cases user.otherSize? size with
  | some requested => simp
  | none => simp [eq_comm]

theorem resolve_eq_error_iff (size : Size) (user : Spec) (flags : Flags) (cause : ResolutionError) :
    resolve size user flags = .error cause ↔ ∃ requested, user.size = some requested ∧
      requested ≠ size ∧ cause = .mergeConflict size (.sizeMismatch requested) := by
  rw [resolve_eq]
  cases hother : user.otherSize? size with
  | some requested =>
      obtain ⟨hsize, hne⟩ := Option.filter_eq_some_iff.mp hother
      constructor
      · rintro hcause
        cases hcause
        exact ⟨requested, hsize, by simpa using hne, rfl⟩
      · rintro ⟨other, hrequested, -, rfl⟩
        cases hsize.symm.trans hrequested
        rfl
  | none =>
      rw [otherSize?_eq_none_iff] at hother
      constructor
      · intro hcause
        cases hcause
      · rintro ⟨requested, hrequested, hne, -⟩
        exact absurd (hother requested hrequested) hne

theorem resolve_eq_ok_iff (size : Size) (user : Spec) (flags : Flags) (resolved : Resolved) :
    resolve size user flags = .ok resolved ↔
      (∀ requested, user.size = some requested → requested = size) ∧
        resolved.size = size ∧ resolved.flags = flags ∧ resolved.spec.Settles size user := by
  rw [resolve_eq]
  cases hother : user.otherSize? size with
  | some requested =>
      obtain ⟨hsize, hne⟩ := Option.filter_eq_some_iff.mp hother
      constructor
      · intro hok
        cases hok
      · rintro ⟨hsame, -⟩
        exact absurd (hsame requested hsize) (by simpa using hne)
  | none =>
      rw [otherSize?_eq_none_iff] at hother
      have hlayered := layered_settles hother
      constructor
      · intro hok
        cases hok
        exact ⟨hother, rfl, rfl, hlayered⟩
      · rintro ⟨-, hsize, hflags, hsettles⟩
        obtain ⟨_, spec, _⟩ := resolved
        cases hsize
        cases hflags
        rw [hlayered.unique hsettles]

/-- Resolution is three layers and nothing else. It fails exactly for a user who asks for another
size, and says which; otherwise every setting is that of the user or else that of the size, only
that the compactor runs one replica and the tenants are the user's. All replicas, the replication
factor and the limits of all tenants are set then. The replicas that the user wishes for the
compactor make no difference at all. -/
theorem resolve_three_layers (size : Size) (user : Spec) (flags : Flags) :
    (∀ cause, resolve size user flags = .error cause ↔ ∃ requested, user.size = some requested ∧
      requested ≠ size ∧ cause = .mergeConflict size (.sizeMismatch requested)) ∧
    (∀ resolved, resolve size user flags = .ok resolved ↔
      (∀ requested, user.size = some requested → requested = size) ∧
        resolved.size = size ∧ resolved.flags = flags ∧ resolved.spec.Settles size user) ∧
    (∀ resolved, resolve size user flags = .ok resolved →
      (∀ component, (resolved.spec.template.get component).replicas.isSome) ∧
        resolved.spec.replicationFactor.isSome ∧
        ∀ limit, (GlobalLimit.get resolved.spec.limits.globals limit).isSome) ∧
    ∀ replicas, resolve size (user.withCompactorReplicas replicas) flags =
      resolve size user flags := by
  refine ⟨resolve_eq_error_iff size user flags, resolve_eq_ok_iff size user flags, ?set, ?compactor⟩
  case set =>
    intro resolved hresolved
    rw [spec_of_resolve hresolved]
    exact ⟨isSome_replicas_layered size user, isSome_replicationFactor_layered size user,
      GlobalLimit.isSome_get_layered size user⟩
  case compactor =>
    intro replicas
    cases hresolve : resolve size user flags with
    | error cause =>
        have hother := (resolve_eq_error_iff size user flags cause).mp hresolve
        exact (resolve_eq_error_iff _ _ _ _).mpr hother
    | ok resolved =>
        obtain ⟨hrequested, hsize, hflags, hsettles⟩ :=
          (resolve_eq_ok_iff size user flags resolved).mp hresolve
        exact (resolve_eq_ok_iff _ _ _ _).mpr
          ⟨hrequested, hsize, hflags, hsettles.withCompactorReplicas replicas⟩

/-- A user of a small stack who wants five compactors, and the queriers on any node. -/
def fiveCompactors : Spec where
  size := some .small
  template :=
    { compactor := { replicas := some 5 }
      querier := { nodeSelector := some .empty } }

theorem resolve_three_layers_fiveCompactors :
    (∃ cause, resolve .medium fiveCompactors {} = .error cause ∧
      cause = .mergeConflict .medium (.sizeMismatch .small)) ∧
    ∃ resolved, resolve .small fiveCompactors {} = .ok resolved ∧
      (resolved.spec.template.get .compactor).replicas = some 1 ∧
      (resolved.spec.template.get .querier).nodeSelector = some .empty ∧
      (resolved.spec.template.get .querier).replicas = some 2 ∧
      resolved.spec.replicationFactor.isSome := by
  obtain ⟨hfails, -⟩ := resolve_three_layers .medium fiveCompactors {}
  obtain ⟨-, hsettles, hset, -⟩ := resolve_three_layers .small fiveCompactors {}
  have hresolve : resolve .small fiveCompactors {} = .ok _ := rfl
  obtain ⟨-, -, -, hspec⟩ := (hsettles _).mp hresolve
  exact ⟨⟨_, (hfails _).mpr ⟨.small, rfl, by decide, rfl⟩, rfl⟩, _, hresolve, hspec.compactor,
    hspec.nodeSelector .querier, hspec.replicas .querier (by decide), (hset _ hresolve).2.1⟩

end Rollout.Stack
