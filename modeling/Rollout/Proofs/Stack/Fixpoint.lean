import Rollout.Proofs.Stack.Precedence

/-!
Settling a stack once more. A layer that is among the layers of a spec adds nothing below them, so
the settings that a stack is settled to already hold all that the user, the size and the operator
have to say, and resolving them again changes nothing.
-/

namespace Rollout.Stack

namespace Spec

/-- Layers that were all seen before add nothing. -/
theorem findSome?_seen {α : Type} {front back more : List Spec} (hseen : more ⊆ front)
    (setting : Spec → Option α) :
    (front ++ more ++ back).findSome? setting = (front ++ back).findSome? setting := by
  rw [List.findSome?_append, List.findSome?_append, List.findSome?_append]
  cases hfront : front.findSome? setting with
  | some value => rfl
  | none =>
      have hmore : more.findSome? setting = none := by
        rw [List.findSome?_eq_none_iff] at hfront ⊢
        exact fun layer hlayer => hfront layer (hseen hlayer)
      rw [hmore, Option.or_none]

/-- Layers that were all seen before can be left out. -/
theorem IsOverlay.of_seen {result : Spec} {front back more : List Spec}
    (hresult : result.IsOverlay (front ++ more ++ back)) (hseen : more ⊆ front) :
    result.IsOverlay (front ++ back) where
  size := by rw [hresult.size, findSome?_seen hseen]
  managementState := by rw [hresult.managementState, findSome?_seen hseen]
  secret := by rw [hresult.secret, findSome?_seen hseen]
  replicationFactor := by rw [hresult.replicationFactor, findSome?_seen hseen]
  limit limit := by rw [hresult.limit, findSome?_seen hseen]
  replicas component := by rw [hresult.replicas, findSome?_seen hseen]
  nodeSelector component := by rw [hresult.nodeSelector, findSome?_seen hseen]
  tolerations component := by rw [hresult.tolerations, findSome?_seen hseen]
  tenant tenant := by
    rw [hresult.tenant]
    constructor
    · rintro ⟨layer, hlayer, htenant⟩
      refine ⟨layer, ?_, htenant⟩
      rcases List.mem_append.mp hlayer with hlayer | hback
      · rcases List.mem_append.mp hlayer with hfront | hmore
        · exact List.mem_append_left _ hfront
        · exact List.mem_append_left _ (hseen hmore)
      · exact List.mem_append_right _ hback
    · rintro ⟨layer, hlayer, htenant⟩
      refine ⟨layer, ?_, htenant⟩
      rw [List.append_assoc]
      rcases List.mem_append.mp hlayer with hfront | hback
      · exact List.mem_append_left _ hfront
      · exact List.mem_append_right _ (List.mem_append_right _ hback)
  tenantLimit tenant limit := by rw [hresult.tenantLimit, findSome?_seen hseen]

/-- A spec takes up nothing from below that is made up of its own layers. -/
theorem IsOverlay.merge_eq {upper lower : Spec} {uppers lowers : List Spec}
    (hupper : upper.IsOverlay uppers) (hlower : lower.IsOverlay lowers) (hseen : lowers ⊆ uppers) :
    Rollout.merge upper lower = upper := by
  have hmerged : (Rollout.merge upper lower).IsOverlay (uppers ++ lowers ++ []) := by
    rw [List.append_nil]
    exact hupper.merge hlower
  have hshort := hmerged.of_seen hseen
  rw [List.append_nil] at hshort
  exact hshort.unique hupper

end Spec

/-! ### Layers of a stack -/

section Layers

variable (size : Size) (user : Spec)

/-- The layers that a stack is settled from, the tightest first. -/
def layers : List Spec := [.operatorRules, user, size.defaults]

theorem isOverlay_layered : (layered size user).IsOverlay (layers size user) :=
  Spec.operatorRules.isOverlay_singleton.merge
    (user.isOverlay_singleton.merge size.defaults.isOverlay_singleton)

/-- None of its layers adds anything below a settled spec. -/
theorem merge_layered {layer : Spec} (hlayer : layer ∈ layers size user) :
    merge (layered size user) layer = layered size user :=
  (isOverlay_layered size user).merge_eq layer.isOverlay_singleton (by simpa using hlayer)

/-- A settled spec in the place of the user is settled to itself. -/
theorem layered_layered : layered size (layered size user) = layered size user := by
  have hover : (merge Spec.operatorRules (layered size user)).IsOverlay
      ([.operatorRules] ++ [.operatorRules] ++ [user, size.defaults]) :=
    Spec.operatorRules.isOverlay_singleton.merge (isOverlay_layered size user)
  have hdefaults : size.defaults ∈ layers size user := by simp [layers]
  have hbelow := merge_layered size user hdefaults
  rw [layered, hbelow]
  exact (hover.of_seen (List.Subset.refl _)).unique (isOverlay_layered size user)

/-- A user who takes over all settings that the stack was settled to but keeps the own wishes gets
what the stack was settled to. -/
theorem layered_merge_layered :
    layered size (merge user (layered size user)) = layered size user := by
  have hover : (layered size (merge user (layered size user))).IsOverlay
      ([.operatorRules, user] ++ [.operatorRules, user] ++ [size.defaults, size.defaults]) :=
    Spec.operatorRules.isOverlay_singleton.merge
      ((user.isOverlay_singleton.merge (isOverlay_layered size user)).merge
        size.defaults.isOverlay_singleton)
  have hshort : (layered size (merge user (layered size user))).IsOverlay
      (layers size user ++ [size.defaults] ++ []) := hover.of_seen (List.Subset.refl _)
  exact (hshort.of_seen (by simp [layers])).unique (isOverlay_layered size user)

end Layers

/-- Resolution is a fixpoint. The settings that a stack resolves to, alone or below the wishes of
the user again, resolve to themselves, and none of the three layers that they were made from adds
anything to them. -/
theorem resolve_fixpoint {size : Size} {user : Spec} {flags : Flags} {resolved : Resolved}
    (hresolved : resolve size user flags = .ok resolved) :
    resolve size resolved.spec flags = .ok resolved ∧
    resolve size (merge user resolved.spec) flags = .ok resolved ∧
    merge resolved.spec size.defaults = resolved.spec ∧
    merge resolved.spec user = resolved.spec ∧
    merge resolved.spec Spec.operatorRules = resolved.spec := by
  obtain ⟨hrequested, rfl⟩ := resolve_eq_ok_layered.mp hresolved
  have hsize : (layered size user).size = some size := (layered_settles hrequested).ofSize
  have hmerged : (merge user (layered size user)).size = user.size.or (some size) :=
    congrArg user.size.or hsize
  refine ⟨resolve_eq_ok_layered.mpr ⟨?settled, ?_⟩, resolve_eq_ok_layered.mpr ⟨?again, ?_⟩,
    merge_layered size user (by simp [layers]), merge_layered size user (by simp [layers]),
    merge_layered size user (by simp [layers])⟩
  case settled =>
    intro requested hsame
    exact (Option.some.inj (hsize.symm.trans hsame)).symm
  case again =>
    intro requested hsame
    rw [hmerged, Option.or_eq_some_iff] at hsame
    rcases hsame with huser | ⟨-, hdefault⟩
    · exact hrequested requested huser
    · exact (Option.some.inj hdefault).symm
  · rw [layered_layered]
  · rw [layered_merge_layered]

/-- A user of a medium stack who wants five compactors and limits of its own for a tenant. -/
def ownTenant : Spec where
  size := some .medium
  limits := { tenants := .ofList [("ops", { queryLimits := { maxQuerySeries := some 50 } })] }
  template := { compactor := { replicas := some 5 }, querier := { tolerations := some [] } }

theorem resolve_fixpoint_ownTenant :
    ∃ resolved, resolve .medium ownTenant {} = .ok resolved ∧
      (resolved.spec.template.get .compactor).replicas = some 1 ∧
      ((merge ownTenant resolved.spec).template.get .compactor).replicas = some 5 ∧
      resolve .medium (merge ownTenant resolved.spec) {} = .ok resolved ∧
      merge resolved.spec ownTenant = resolved.spec := by
  have hresolved : resolve .medium ownTenant {} = .ok _ := rfl
  obtain ⟨-, hagain, -, huser, -⟩ := resolve_fixpoint hresolved
  exact ⟨_, hresolved, rfl, rfl, hagain, huser⟩

end Rollout.Stack
