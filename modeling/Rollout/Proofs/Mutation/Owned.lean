import Rollout.Mutation.Dynamic
import Rollout.Proofs.Json.Place
import Rollout.Proofs.Kube.Records

/-!
The owned fields of the kinds. They stand side by side in one object, the specification or, for
config maps, the object itself. Where the written forms of a desired object's owned fields are put
over the fields of a live one, the result reads as the live one with these fields changed, unless a
time among them cannot be read back.
-/

namespace Rollout.Kube

open Entries (Ordered overlay)
open Fields (exists_read_map exists_read_seq occurrences_overlay read_object_iff read_optional
  read_zeroed readLast_singleton_write_iff readLast_singleton_write_settled_iff readLast_write_iff
  readLast_write_settled_iff write_map write_optional write_seq write_zeroed)
open Json (lookup?)

/-- The keys of the fields that the operator owns. -/
def Kind.ownedKeys (kind : Kind) (creating : Bool) : List String :=
  match kind with
  | .configMap => ["data", "binaryData"]
  | .service => ["ports", "selector"]
  | .deployment => (if creating then ["selector"] else []) ++ ["replicas", "template", "strategy"]
  | .statefulSet =>
    (if creating then ["selector", "podManagementPolicy", "volumeClaimTemplates"] else []) ++
      ["replicas", "template", "updateStrategy"]
  | .serviceMonitor => []

/-- The path to the object that the owned fields stand in. -/
def Kind.holder : Kind → List String
  | .configMap | .serviceMonitor => []
  | .service | .deployment | .statefulSet => ["spec"]

theorem Kind.ownedPaths_eq (kind : Kind) (creating : Bool) :
    kind.ownedPaths creating =
      (kind.ownedKeys creating).map fun key => kind.holder ++ [key] := by
  cases kind <;> cases creating <;> rfl

/-! ### Written fields -/

theorem ServiceSpec.lookup?_write (spec : ServiceSpec) :
    lookup? ["ports"] (codec.write spec) =
        spec.ports.map (Codec.list ServicePort.codec).write ∧
      lookup? ["selector"] (codec.write spec) = spec.selector.map (Codec.map .text).write := by
  and_intros <;> exact Fields.lookup?_write (fun _ => rfl) (by decide) (by simp)

theorem DeploymentSpec.lookup?_write (spec : DeploymentSpec) :
    lookup? ["selector"] (codec.write spec) =
        (some spec.selector).map LabelSelector.codec.write ∧
      lookup? ["replicas"] (codec.write spec) = spec.replicas.map Codec.int32.write ∧
      lookup? ["template"] (codec.write spec) =
        (some spec.template).map PodTemplate.codec.write ∧
      lookup? ["strategy"] (codec.write spec) =
        spec.strategy.map DeploymentStrategy.codec.write := by
  and_intros <;> exact Fields.lookup?_write (fun _ => rfl) (by decide) (by simp)

theorem StatefulSetSpec.lookup?_write (spec : StatefulSetSpec) :
    lookup? ["selector"] (codec.write spec) =
        (some spec.selector).map LabelSelector.codec.write ∧
      lookup? ["podManagementPolicy"] (codec.write spec) =
        spec.podManagementPolicy.map Codec.text.write ∧
      lookup? ["volumeClaimTemplates"] (codec.write spec) =
        spec.volumeClaimTemplates.map (Codec.list PersistentVolumeClaim.codec).write ∧
      lookup? ["replicas"] (codec.write spec) = spec.replicas.map Codec.int32.write ∧
      lookup? ["template"] (codec.write spec) =
        (some spec.template).map PodTemplate.codec.write ∧
      lookup? ["updateStrategy"] (codec.write spec) =
        spec.updateStrategy.map StatefulSetUpdateStrategy.codec.write := by
  and_intros <;> exact Fields.lookup?_write (fun _ => rfl) (by decide) (by simp)

theorem ConfigMap.lookup?_write (object : ConfigMap) :
    lookup? ["data"] (codec.write object) = object.data.map (Codec.map .text).write ∧
      lookup? ["binaryData"] (codec.write object) =
        object.binaryData.map (Codec.map bytesCodec).write := by
  and_intros <;> exact Fields.lookup?_write (fun _ => rfl) (by decide) (by simp)

/-! ### Specifications at whole seconds -/

def DeploymentSpec.settle (spec : DeploymentSpec) : DeploymentSpec :=
  { spec with template := spec.template.settle }

/-- The times of claims can be read back. -/
def StatefulSetSpec.HasReadableClaims (spec : StatefulSetSpec) : Prop :=
  ∀ claims ∈ spec.volumeClaimTemplates, ∀ claim ∈ claims, claim.HasReadableTimes

def StatefulSetSpec.settle (spec : StatefulSetSpec) : StatefulSetSpec :=
  { spec with
    template := spec.template.settle
    volumeClaimTemplates :=
      spec.volumeClaimTemplates.map (List.map PersistentVolumeClaim.settle) }

/-! ### Overlaid specifications -/

section Overlays

variable {live : List (String × Json)} (creating : Bool)

theorem ServiceSpec.read_overlay_iff (hordered : Ordered live) {spec changed other : ServiceSpec}
    (hread : codec.read (Json.object live) = some spec) :
    codec.read (Json.object (overlay (Kind.service.ownedKeys creating)
        (lookup? [·] (codec.write changed)) live)) = some other ↔
      spec.mutate changed = other := by
  obtain ⟨hports, hselector⟩ := changed.lookup?_write
  simp only [codec, read_object_iff, exists_read_seq, exists_read_map, read_optional,
    occurrences_overlay hordered] at hread hports hselector ⊢
  obtain ⟨_, h1, _, h2, _, h3, _, h4, _, h5, _, h6, _, h7, _, h8, _, h9, _, h10, _, h11, _, h12, _,
    h13, _, -, _, h15, _, -, _, h17, _, h18, _, h19, _, h20, rfl⟩ := hread
  simp [Kind.ownedKeys, h1, h2, h3, h4, h5, h6, h7, h8, h9, h10, h11, h12, h13, h15, h17, h18, h19,
    h20, hports, hselector, readLast_write_iff, mutate]

theorem DeploymentSpec.read_overlay_iff (hordered : Ordered live)
    {spec changed other : DeploymentSpec} (hread : codec.read (Json.object live) = some spec) :
    codec.read (Json.object (overlay (Kind.deployment.ownedKeys creating)
        (lookup? [·] (codec.write changed)) live)) = some other ↔
      changed.template.HasReadableTimes ∧ spec.mutate creating changed.settle = other := by
  obtain ⟨hselector, hreplicas, htemplate, hstrategy⟩ := changed.lookup?_write
  simp only [codec, read_object_iff, exists_read_seq, exists_read_map, read_optional, read_zeroed,
    occurrences_overlay hordered] at hread hselector hreplicas htemplate hstrategy ⊢
  obtain ⟨_, h1, _, h2, _, h3, _, -, _, h5, _, h6, _, -, _, -, rfl⟩ := hread
  cases creating with
  | false =>
      simp [Kind.ownedKeys, h1, h2, h3, h5, h6, hreplicas, htemplate, hstrategy,
        readLast_write_iff, readLast_singleton_write_settled_iff, and_assoc, mutate, settle]
  | true =>
      simp [Kind.ownedKeys, h1, h2, h3, h5, hselector, hreplicas, htemplate, hstrategy,
        readLast_write_iff, readLast_singleton_write_iff, readLast_singleton_write_settled_iff,
        and_assoc, mutate, settle]

theorem StatefulSetSpec.read_overlay_iff (hordered : Ordered live)
    {spec changed other : StatefulSetSpec} (hread : codec.read (Json.object live) = some spec) :
    codec.read (Json.object (overlay (Kind.statefulSet.ownedKeys creating)
        (lookup? [·] (codec.write changed)) live)) = some other ↔
      (changed.template.HasReadableTimes ∧ (creating → changed.HasReadableClaims)) ∧
        spec.mutate creating changed.settle = other := by
  obtain ⟨hselector, hpolicy, hclaims, hreplicas, htemplate, hstrategy⟩ := changed.lookup?_write
  simp only [codec, read_object_iff, exists_read_seq, exists_read_map, read_optional, read_zeroed,
    occurrences_overlay hordered]
    at hread hselector hpolicy hclaims hreplicas htemplate hstrategy ⊢
  obtain ⟨_, h1, _, h2, _, h3, _, h4, _, -, _, h6, _, h7, _, h8, _, -, _, -, _, h11, rfl⟩ := hread
  cases creating with
  | false =>
      simp [Kind.ownedKeys, h1, h2, h3, h4, h6, h7, h8, h11, hreplicas, htemplate, hstrategy,
        readLast_write_iff, readLast_singleton_write_settled_iff, and_assoc, mutate, settle]
  | true =>
      simp [Kind.ownedKeys, h1, h2, h3, h6, h8, hselector, hpolicy, hclaims, hreplicas, htemplate,
        hstrategy, readLast_write_iff, readLast_write_settled_iff, readLast_singleton_write_iff,
        readLast_singleton_write_settled_iff, and_assoc, mutate, settle, HasReadableClaims]

end Overlays

/-! ### Changes of what was written

A changed specification is written over the live one under its owned keys. What is read of that is
written like the changed specification, and takes the next change like the live one. -/

section Repeated

variable (creating : Bool)

theorem DeploymentSpec.write_mutate_settle (live desired : DeploymentSpec) :
    codec.write (live.mutate creating (live.mutate creating desired).settle) =
      codec.write (live.mutate creating desired) := by
  cases creating <;>
    simp [codec, Fields.object, write_map, write_seq, write_optional, write_zeroed, mutate, settle,
      PodTemplate.codec.write_settle]

theorem StatefulSetSpec.write_mutate_settle (live desired : StatefulSetSpec) :
    codec.write (live.mutate creating (live.mutate creating desired).settle) =
      codec.write (live.mutate creating desired) := by
  cases creating <;>
    simp [codec, Fields.object, write_map, write_seq, write_optional, write_zeroed, mutate, settle,
      Function.comp_def, PodTemplate.codec.write_settle,
      (Codec.list PersistentVolumeClaim.codec).write_settle]

variable (creating' : Bool)

theorem ServiceSpec.mutate_repeated (live first second : ServiceSpec) :
    (live.mutate (live.mutate first)).mutate second = live.mutate second := rfl

theorem DeploymentSpec.mutate_repeated (live first second : DeploymentSpec) :
    (live.mutate creating (live.mutate creating' first).settle).mutate creating' second =
      live.mutate creating' second := by
  cases creating <;> cases creating' <;> rfl

/-- Claims that are final for the change may be written all the same, as they are. -/
theorem StatefulSetSpec.lookup?_write_repeated (live first second : StatefulSetSpec) :
    ∀ key ∈ Kind.statefulSet.ownedKeys creating,
      lookup? [key] (codec.write
          ((live.mutate creating (live.mutate creating' first).settle).mutate creating' second)) =
        lookup? [key] (codec.write (live.mutate creating' second)) := by
  cases creating <;> cases creating' <;>
    simp [Kind.ownedKeys, lookup?_write, mutate, settle, Function.comp_def,
      (Codec.list PersistentVolumeClaim.codec).write_settle]

theorem StatefulSetSpec.hasReadableClaims_repeated_iff (live first second : StatefulSetSpec) :
    (creating → ((live.mutate creating (live.mutate creating' first).settle).mutate creating'
        second).HasReadableClaims) ↔
      (creating → (live.mutate creating' second).HasReadableClaims) := by
  cases creating <;> cases creating' <;>
    simp [HasReadableClaims, mutate, settle, PersistentVolumeClaim.codec.keeps_settle_iff]

end Repeated

end Rollout.Kube
