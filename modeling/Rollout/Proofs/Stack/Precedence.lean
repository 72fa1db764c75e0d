import Rollout.Proofs.Entries
import Rollout.Proofs.Stack.Layers

/-!
Any number of layers over each other. Each setting comes from the first layer that sets it, and is
open where no layer does. Tenants are there if some layer has them, and the limits of a tenant are
looked up in the layers one by one, so that a layer that sets one limit hides no other. This leaves
no choice, so it does not matter from which end the layers are merged.
-/

namespace Rollout

namespace Merge

universe u

variable {α : Type u} [Merge α]

/-- What a list of layers, tightest first, comes to from the loosest one up. -/
def nested (tightest : α) : List α → α
  | [] => tightest
  | next :: rest => merge tightest (nested next rest)

/-- After each layer stands what the layers up to it come to. -/
theorem getElem?_scan (tightest : α) (looser : List α) {i : Nat} (hi : i ≤ looser.length) :
    (scan tightest looser)[i]? = some (all tightest (looser.take i)) := by
  induction looser generalizing tightest i with
  | nil =>
      obtain rfl := Nat.le_zero.mp hi
      rfl
  | cons next rest ih =>
      cases i with
      | zero => rfl
      | succ i => exact ih (merge tightest next) (Nat.le_of_succ_le_succ hi)

end Merge

namespace Stack

/-- The limit that a spec sets for one tenant. -/
def Spec.tenantLimit? (spec : Spec) (tenant : String) (limit : GlobalLimit) : Option Int32 :=
  (spec.limits.tenants.find? tenant).bind fun set => GlobalLimit.get set limit

/-- A spec with every setting from the first layer that sets it. Node selector and tolerations of a
component are one setting each, also where they are empty. -/
structure Spec.IsOverlay (result : Spec) (layers : List Spec) : Prop where
  size : result.size = layers.findSome? Spec.size
  managementState : result.managementState = layers.findSome? Spec.managementState
  secret : result.storage.secret.name = layers.findSome? (·.storage.secret.name)
  replicationFactor : result.replicationFactor = layers.findSome? Spec.replicationFactor
  limit : ∀ limit, GlobalLimit.get result.limits.globals limit =
    layers.findSome? fun layer => GlobalLimit.get layer.limits.globals limit
  replicas : ∀ component, (result.template.get component).replicas =
    layers.findSome? fun layer => (layer.template.get component).replicas
  nodeSelector : ∀ component, (result.template.get component).nodeSelector =
    layers.findSome? fun layer => (layer.template.get component).nodeSelector
  tolerations : ∀ component, (result.template.get component).tolerations =
    layers.findSome? fun layer => (layer.template.get component).tolerations
  tenant : ∀ tenant, (result.limits.tenants.find? tenant).isSome ↔
    ∃ layer ∈ layers, (layer.limits.tenants.find? tenant).isSome
  tenantLimit : ∀ tenant limit, result.tenantLimit? tenant limit =
    layers.findSome? fun layer => layer.tenantLimit? tenant limit

namespace Spec

theorem find?_tenants_merge (tight loose : Spec) (tenant : String) :
    (merge tight loose).limits.tenants.find? tenant =
      (tight.limits.tenants.find? tenant).merge merge (loose.limits.tenants.find? tenant) :=
  KeyMap.find?_mergeWith merge tight.limits.tenants loose.limits.tenants tenant

theorem tenantLimit?_merge (tight loose : Spec) (tenant : String) (limit : GlobalLimit) :
    (merge tight loose).tenantLimit? tenant limit =
      (tight.tenantLimit? tenant limit).or (loose.tenantLimit? tenant limit) := by
  unfold tenantLimit?
  rw [find?_tenants_merge]
  cases tight.limits.tenants.find? tenant with
  | none => rw [Option.merge_none_left, Option.bind_none, Option.none_or]
  | some mine =>
      cases loose.limits.tenants.find? tenant with
      | none => rw [Option.merge_none_right, Option.bind_none, Option.or_none]
      | some theirs => exact GlobalLimit.get_merge mine theirs limit

theorem isOverlay_singleton (layer : Spec) : layer.IsOverlay [layer] := by
  constructor <;> intros <;> simp [List.findSome?_singleton]

/-- Layers on top of others: what the upper ones leave open is looked up in the lower ones. -/
theorem IsOverlay.merge {upper lower : Spec} {uppers lowers : List Spec}
    (hupper : upper.IsOverlay uppers) (hlower : lower.IsOverlay lowers) :
    (merge upper lower).IsOverlay (uppers ++ lowers) where
  size := by
    rw [List.findSome?_append, ← hupper.size, ← hlower.size]
    rfl
  managementState := by
    rw [List.findSome?_append, ← hupper.managementState, ← hlower.managementState]
    rfl
  secret := by
    rw [List.findSome?_append, ← hupper.secret, ← hlower.secret]
    rfl
  replicationFactor := by
    rw [List.findSome?_append, ← hupper.replicationFactor, ← hlower.replicationFactor]
    rfl
  limit limit := by
    rw [List.findSome?_append, ← hupper.limit, ← hlower.limit]
    exact GlobalLimit.get_merge upper.limits.globals lower.limits.globals limit
  replicas component := by
    rw [List.findSome?_append, ← hupper.replicas, ← hlower.replicas]
    exact congrArg ComponentSpec.replicas
      (Template.get_merge upper.template lower.template component)
  nodeSelector component := by
    rw [List.findSome?_append, ← hupper.nodeSelector, ← hlower.nodeSelector]
    exact congrArg ComponentSpec.nodeSelector
      (Template.get_merge upper.template lower.template component)
  tolerations component := by
    rw [List.findSome?_append, ← hupper.tolerations, ← hlower.tolerations]
    exact congrArg ComponentSpec.tolerations
      (Template.get_merge upper.template lower.template component)
  tenant tenant := by
    rw [find?_tenants_merge, Option.isSome_merge, Bool.or_eq_true, hupper.tenant, hlower.tenant]
    simp only [List.mem_append, or_and_right, exists_or]
  tenantLimit tenant limit := by
    rw [List.findSome?_append, ← hupper.tenantLimit, ← hlower.tenantLimit, tenantLimit?_merge]

/-- The layers settle which tenants there are and what is set for them. -/
theorem IsOverlay.tenants_eq {first second : Spec} {layers : List Spec}
    (hfirst : first.IsOverlay layers) (hsecond : second.IsOverlay layers) :
    first.limits.tenants = second.limits.tenants := by
  apply KeyMap.ext_find?
  intro tenant
  have hthere := (hfirst.tenant tenant).trans (hsecond.tenant tenant).symm
  have hlimit : ∀ limit, first.tenantLimit? tenant limit = second.tenantLimit? tenant limit :=
    fun limit => by rw [hfirst.tenantLimit, hsecond.tenantLimit]
  simp only [tenantLimit?] at hlimit
  cases hmine : first.limits.tenants.find? tenant with
  | none =>
      cases htheirs : second.limits.tenants.find? tenant with
      | none => rfl
      | some theirs => simp [hmine, htheirs] at hthere
  | some mine =>
      cases htheirs : second.limits.tenants.find? tenant with
      | none => simp [hmine, htheirs] at hthere
      | some theirs =>
          have hsame : mine = theirs := GlobalLimit.ext_get fun limit => by
            simpa [hmine, htheirs] using hlimit limit
          rw [hsame]

/-- The layers settle all there is in a spec. -/
theorem IsOverlay.unique {first second : Spec} {layers : List Spec}
    (hfirst : first.IsOverlay layers) (hsecond : second.IsOverlay layers) : first = second := by
  apply ext_settings
  case hsize => rw [hfirst.size, hsecond.size]
  case hstate => rw [hfirst.managementState, hsecond.managementState]
  case hsecret => rw [hfirst.secret, hsecond.secret]
  case hfactor => rw [hfirst.replicationFactor, hsecond.replicationFactor]
  case hlimit => exact fun limit => by rw [hfirst.limit, hsecond.limit]
  case htenants => exact hfirst.tenants_eq hsecond
  case hreplicas => exact fun component => by rw [hfirst.replicas, hsecond.replicas]
  case hnodeSelector => exact fun component => by rw [hfirst.nodeSelector, hsecond.nodeSelector]
  case htolerations => exact fun component => by rw [hfirst.tolerations, hsecond.tolerations]

theorem IsOverlay.foldl {soFar : Spec} {layers : List Spec} (hsoFar : soFar.IsOverlay layers)
    (looser : List Spec) : (looser.foldl Rollout.merge soFar).IsOverlay (layers ++ looser) := by
  induction looser generalizing soFar layers with
  | nil => simpa using hsoFar
  | cons next rest ih =>
      simpa using ih (hsoFar.merge next.isOverlay_singleton)

theorem isOverlay_nested (tightest : Spec) (looser : List Spec) :
    (Merge.nested tightest looser).IsOverlay (tightest :: looser) := by
  induction looser generalizing tightest with
  | nil => exact tightest.isOverlay_singleton
  | cons next rest ih => exact tightest.isOverlay_singleton.merge (ih next)

/-- Layers that are merged one after another come to the spec with every setting from the first
layer that sets it, and so they do from the other end. -/
theorem isOverlay_all (tightest : Spec) (looser : List Spec) :
    (Merge.all tightest looser).IsOverlay (tightest :: looser) ∧
      Merge.nested tightest looser = Merge.all tightest looser := by
  have hall : (Merge.all tightest looser).IsOverlay (tightest :: looser) :=
    tightest.isOverlay_singleton.foldl looser
  exact ⟨hall, (isOverlay_nested tightest looser).unique hall⟩

end Spec

end Stack

end Rollout
