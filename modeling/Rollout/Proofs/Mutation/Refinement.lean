import Rollout.Proofs.Mutation.WriteBack

/-!
Changes of dynamic objects against changes of typed ones. A changed dynamic object is read as a
typed one that is written like the typed object that the change was worked out on, as long as the
times that were written back can be read. A time before the year zero is read and is not read back
from what is written of it; of other times, the fraction of a second is lost.
-/

namespace Rollout.Kube

open Entries (Ordered find? overlay)
open Fields (readLast_write_iff)
open Json (lookup?)

/-- What is written back of a changed object has no times that cannot be read back. They are in
templates for pods and in claims for volumes. -/
def Managed.HandsOverReadableTimes (creating : Bool) : Managed → Prop
  | .deployment object => ∀ spec ∈ object.spec, spec.template.HasReadableTimes
  | .statefulSet object =>
    ∀ spec ∈ object.spec, spec.template.HasReadableTimes ∧ (creating → spec.HasReadableClaims)
  | .configMap _ | .service _ | .serviceMonitor _ => True

/-- A typed object with other metadata and with the owned fields of a changed one, as they are read
where they were written back. -/
def Managed.overwrite (creating : Bool) (metadata : ObjectMeta) : Managed → Managed → Managed
  | .configMap live, .configMap changed =>
    .configMap { live with metadata, data := changed.data, binaryData := changed.binaryData }
  | .service live, .service changed =>
    .service { live with
      metadata, spec := some ((live.spec.getD {}).mutate (changed.spec.getD {})) }
  | .deployment live, .deployment changed =>
    .deployment { live with
      metadata
      spec := some ((live.spec.getD {}).mutate creating (changed.spec.getD {}).settle) }
  | .statefulSet live, .statefulSet changed =>
    .statefulSet { live with
      metadata
      spec := some ((live.spec.getD {}).mutate creating (changed.spec.getD {}).settle) }
  | .serviceMonitor live, _ => .serviceMonitor { live with metadata }
  | live, _ => live

/-! ### Reading what was written back -/

namespace DynamicObject

/-- The metadata that a changed object is read to have. Where another field stands for it, that is
still the metadata from before. -/
def metadataAfter (object : DynamicObject) (before changed : ObjectMeta) : ObjectMeta :=
  if (find? "metadata" object.data).isSome then before else before.adopt changed

theorem isBeingCreated_metadataAfter (object : DynamicObject) (before changed : ObjectMeta) :
    (object.metadataAfter before changed).isBeingCreated = before.isBeingCreated := by
  unfold metadataAfter
  split <;> rfl

theorem hasReadableTimes_metadataAfter_iff (object : DynamicObject) (before changed : ObjectMeta) :
    (object.metadataAfter before changed).HasReadableTimes ↔ before.HasReadableTimes := by
  unfold metadataAfter
  split <;> rfl

theorem metadata?_accept {object : DynamicObject} {kind : Kind} {metadata : ObjectMeta}
    (hmetadata : object.metadata? kind = some metadata) (changed : Managed) :
    (object.accept changed).metadata? kind =
      some (object.metadataAfter metadata changed.metadata) := by
  have hfind : find? "metadata" (object.accept changed).data = find? "metadata" object.data :=
    find?_accept_of_ne object changed (by decide) (by decide) (by decide)
  cases hvalue : find? "metadata" object.data with
  | none =>
      obtain ⟨htimes, rfl⟩ := (metadata?_iff_of_showsMetadata hvalue).mp hmetadata
      have hafter : object.metadataAfter object.metadata.settle changed.metadata =
          (object.accept changed).metadata.settle := by
        rw [metadataAfter, hvalue]
        rfl
      rw [hafter]
      exact (metadata?_iff_of_showsMetadata (hfind.trans hvalue)).mpr ⟨htimes, rfl⟩
  | some value =>
      have hsame : (object.accept changed).metadataValue = object.metadataValue := by
        simp only [metadataValue, hfind, hvalue, Option.getD_some]
      rw [metadata?, hsame, metadataAfter, hvalue]
      exact hmetadata

theorem Agrees.accept {object : DynamicObject} {types : TypeMeta} (hagrees : object.Agrees types)
    (changed : Managed) : (object.accept changed).Agrees types := by
  obtain ⟨hversion, hkind⟩ := hagrees
  constructor
  · rwa [find?_accept_of_ne object changed (by decide) (by decide) (by decide)]
  · rwa [find?_accept_of_ne object changed (by decide) (by decide) (by decide)]

end DynamicObject

section Kinds

variable {object : DynamicObject} (hordered : object.IsOrdered)

include hordered

/-- What a changed object is read as is settled by what its specification is read as. -/
theorem exists_read_accept_iff {S T σ : Type} {kind : Kind} {spec : Codec S}
    {status : Codec T} {make : ObjectMeta → Option S → Option T → σ} {metadata : σ → ObjectMeta}
    {specOf : σ → Option S} {statusOf : σ → Option T} (htypes : object.types = some kind.types)
    (hkind : kind ≠ .serviceMonitor) {live : σ}
    (hread : (specified kind.types spec status make metadata specOf statusOf).read object.toJson =
      some live)
    (changed : Managed) (hholder : changed.kind.holder = ["spec"]) {zero : S}
    (hspec : ReadsObjects spec zero) {keeps : Prop} {change : S → S}
    (hoverlay : ∀ {inner s other}, Ordered inner → spec.read (Json.object inner) = some s →
      (spec.read (Json.object
          (overlay (changed.kind.ownedKeys object.metadata.isBeingCreated) changed.owned inner)) =
        some other ↔ keeps ∧ change s = other)) :
    ∃ m s t, make m s t = live ∧ ∀ other,
      (specified kind.types spec status make metadata specOf statusOf).read
          (object.accept changed).toJson = some other ↔
        keeps ∧ make (object.metadataAfter m changed.metadata) (some (change (s.getD zero))) t =
          other := by
  obtain ⟨m, s, t, inner, hmake, hagrees, hm, hinner, hs, hstatus⟩ :=
    exists_of_read_specified hordered.data htypes hkind hspec hread
  obtain ⟨hchanged, hkept⟩ := DynamicObject.find?_accept hholder hinner
  have hinnerOrdered : Ordered inner := specEntries_of_orObject hinner ▸ hordered.spec
  refine ⟨m, s, t, hmake, fun other => ?_⟩
  rw [read_specified_object_iff (hordered.accept _).data htypes hkind (hagrees.accept changed)
    (DynamicObject.metadata?_accept hm changed) hchanged (hkept ▸ hstatus)]
  simp only [hoverlay hinnerOrdered hs, and_assoc, exists_and_left, exists_eq_left']

theorem Service.read_accept_iff (htypes : object.types = some Kind.service.types)
    {live : Service} (hread : codec.read object.toJson = some live) {changed : Service}
    {spec : ServiceSpec} (hspec : changed.spec = some spec) (other : Service) :
    codec.read (object.accept (.service changed)).toJson = some other ↔
      True ∧ { live with
        metadata := object.metadataAfter live.metadata changed.metadata
        spec := some ((live.spec.getD {}).mutate spec) } = other := by
  rw [codec_eq] at hread ⊢
  obtain ⟨_, _, _, rfl, haccept⟩ := exists_read_accept_iff hordered htypes (by decide) hread
    (.service changed) rfl ServiceSpec.readsObjects fun hinner hs => owned_eq hspec ▸
      (ServiceSpec.read_overlay_iff _ hinner hs).trans (iff_of_eq (true_and _).symm)
  exact haccept other

theorem Deployment.read_accept_iff (htypes : object.types = some Kind.deployment.types)
    {live : Deployment} (hread : codec.read object.toJson = some live) {changed : Deployment}
    {spec : DeploymentSpec} (hspec : changed.spec = some spec) (other : Deployment) :
    codec.read (object.accept (.deployment changed)).toJson = some other ↔
      (Managed.deployment changed).HandsOverReadableTimes object.metadata.isBeingCreated ∧
        { live with
        metadata := object.metadataAfter live.metadata changed.metadata
        spec := some ((live.spec.getD {}).mutate object.metadata.isBeingCreated spec.settle) } =
          other := by
  have htimes : (Managed.deployment changed).HandsOverReadableTimes
      object.metadata.isBeingCreated ↔ spec.template.HasReadableTimes := by
    simp [Managed.HandsOverReadableTimes, hspec]
  rw [codec_eq] at hread ⊢
  rw [htimes]
  obtain ⟨_, _, _, rfl, haccept⟩ := exists_read_accept_iff hordered htypes (by decide) hread
    (.deployment changed) rfl DeploymentSpec.readsObjects fun hinner hs =>
      owned_eq hspec ▸
      DeploymentSpec.read_overlay_iff _ hinner hs
  exact haccept other

theorem StatefulSet.read_accept_iff (htypes : object.types = some Kind.statefulSet.types)
    {live : StatefulSet} (hread : codec.read object.toJson = some live) {changed : StatefulSet}
    {spec : StatefulSetSpec} (hspec : changed.spec = some spec) (other : StatefulSet) :
    codec.read (object.accept (.statefulSet changed)).toJson = some other ↔
      (Managed.statefulSet changed).HandsOverReadableTimes object.metadata.isBeingCreated ∧
        { live with
        metadata := object.metadataAfter live.metadata changed.metadata
        spec := some ((live.spec.getD {}).mutate object.metadata.isBeingCreated spec.settle) } =
          other := by
  have htimes : (Managed.statefulSet changed).HandsOverReadableTimes
      object.metadata.isBeingCreated ↔ spec.template.HasReadableTimes ∧
        (object.metadata.isBeingCreated → spec.HasReadableClaims) := by
    simp [Managed.HandsOverReadableTimes, hspec]
  rw [codec_eq] at hread ⊢
  rw [htimes]
  obtain ⟨_, _, _, rfl, haccept⟩ := exists_read_accept_iff hordered htypes (by decide) hread
    (.statefulSet changed) rfl StatefulSetSpec.readsObjects fun hinner hs =>
      owned_eq hspec ▸
      StatefulSetSpec.read_overlay_iff _ hinner hs
  exact haccept other

theorem ConfigMap.read_accept_iff (htypes : object.types = some Kind.configMap.types)
    {live : ConfigMap} (hread : codec.read object.toJson = some live) (changed other : ConfigMap) :
    codec.read (object.accept (.configMap changed)).toJson = some other ↔
      True ∧ { live with
        metadata := object.metadataAfter live.metadata changed.metadata
        data := changed.data
        binaryData := changed.binaryData } = other := by
  obtain ⟨hagrees, _, -, _, -, immutable, himmutable, m, hm, rfl⟩ :=
    (read_iff hordered.data htypes).mp hread
  have hfind : ∀ key, find? key (object.accept (.configMap changed)).data =
      if key ∈ ["data", "binaryData"] then lookup? [key] (codec.write changed)
      else find? key object.data := Entries.find?_overlay _ _ _
  obtain ⟨hdata, hbinaryData⟩ := changed.lookup?_write
  rw [read_iff (hordered.accept _).data htypes, DynamicObject.metadata?_accept hm]
  simp [hfind, hdata, hbinaryData, himmutable, readLast_write_iff, hagrees.accept, Managed.metadata]

theorem ServiceMonitor.read_accept_iff (htypes : object.types = some Kind.serviceMonitor.types)
    {live : ServiceMonitor} (hread : codec.read object.toJson = some live)
    (changed other : ServiceMonitor) :
    codec.read (object.accept (.serviceMonitor changed)).toJson = some other ↔
      True ∧ { live with metadata := object.metadataAfter live.metadata changed.metadata } =
        other := by
  obtain ⟨m, hm, spec, hspec, rfl⟩ := (read_iff hordered.data htypes).mp hread
  have hdata : (object.accept (.serviceMonitor changed)).data = object.data := rfl
  rw [read_iff (hordered.accept _).data htypes, DynamicObject.metadata?_accept hm, hdata, hspec]
  simp [Managed.metadata]

end Kinds

/-- A changed object reads as the live typed one with what was written back, exactly if the times
among that can be read back. -/
theorem Managed.ofDynamic_accept_iff {object : DynamicObject} (hordered : object.IsOrdered)
    {live target changed : Managed} (hlive : ofDynamic object = .ok live)
    (hchanged : live.mutate target = .ok changed) (other : Managed) :
    ofDynamic (object.accept changed) = .ok other ↔
      changed.HandsOverReadableTimes object.metadata.isBeingCreated ∧
        live.overwrite object.metadata.isBeingCreated
          (object.metadataAfter live.metadata changed.metadata) changed = other := by
  obtain ⟨htypes, hread⟩ := ofDynamic_eq_ok_iff.mp hlive
  have haccepted : (object.accept changed).types = some live.kind.types := htypes
  rw [ofDynamic_eq_ok_iff_read? haccepted]
  -- What is known of an object of one kind, said of managed objects.
  have hmap : ∀ {σ : Type} {make : σ → Managed} {read : Option σ} {keeps : Prop} {whole : σ},
      (∀ other, read = some other ↔ keeps ∧ whole = other) →
        (read.map make = some other ↔ keeps ∧ make whole = other) := by
    intro σ make read keeps whole hwhole
    simp only [Option.map_eq_some_iff, hwhole, and_assoc, exists_and_left, exists_eq_left']
  cases changes_of_mutate hchanged with
  | configMap live target =>
      obtain ⟨_, hlive, heq⟩ := Option.map_eq_some_iff.mp hread
      cases heq
      exact hmap (ConfigMap.read_accept_iff hordered htypes hlive _)
  | service live target =>
      obtain ⟨_, hlive, heq⟩ := Option.map_eq_some_iff.mp hread
      cases heq
      exact hmap (Service.read_accept_iff hordered htypes hlive rfl)
  | deployment live target =>
      obtain ⟨_, hlive, heq⟩ := Option.map_eq_some_iff.mp hread
      cases heq
      exact hmap (Deployment.read_accept_iff hordered htypes hlive rfl)
  | statefulSet live target =>
      obtain ⟨_, hlive, heq⟩ := Option.map_eq_some_iff.mp hread
      cases heq
      exact hmap (StatefulSet.read_accept_iff hordered htypes hlive rfl)
  | serviceMonitor live target =>
      obtain ⟨_, hlive, heq⟩ := Option.map_eq_some_iff.mp hread
      cases heq
      exact hmap (ServiceMonitor.read_accept_iff hordered htypes hlive _)

/-- What is left of an object that took over a time which cannot be read back. -/
theorem Managed.ofDynamic_accept_of_not {object : DynamicObject} (hordered : object.IsOrdered)
    {live target changed : Managed} (hlive : ofDynamic object = .ok live)
    (hchanged : live.mutate target = .ok changed)
    (htimes : ¬ changed.HandsOverReadableTimes object.metadata.isBeingCreated) :
    ofDynamic (object.accept changed) = .error (.unreadable live.kind) := by
  obtain ⟨htypes, -⟩ := ofDynamic_eq_ok_iff.mp hlive
  have haccepted : (object.accept changed).types = some live.kind.types := htypes
  have hnone : read? live.kind (object.accept changed).toJson = none := by
    refine Option.eq_none_iff_forall_ne_some.mpr fun other hread => htimes ?_
    rw [← ofDynamic_eq_ok_iff_read? haccepted, ofDynamic_accept_iff hordered hlive hchanged]
      at hread
    exact hread.1
  rw [ofDynamic_eq haccepted, hnone]

/-- What is read of a changed object is written like the changed typed object. -/
theorem Managed.write_overwrite {live target changed : Managed}
    (hchanged : live.mutate target = .ok changed) :
    (live.overwrite live.metadata.isBeingCreated changed.metadata changed).write =
      changed.write := by
  cases changes_of_mutate hchanged with
  | configMap live target | service live target | serviceMonitor live target => rfl
  | deployment live target =>
      have hspec := DeploymentSpec.write_mutate_settle live.metadata.isBeingCreated
        (live.spec.getD {}) (target.spec.getD {})
      exact Deployment.write_congr rfl (congrArg some hspec) rfl
  | statefulSet live target =>
      have hspec := StatefulSetSpec.write_mutate_settle live.metadata.isBeingCreated
        (live.spec.getD {}) (target.spec.getD {})
      exact StatefulSet.write_congr rfl (congrArg some hspec) rfl

namespace DynamicObject

/-- Whether an object that shows its metadata has been created is read as it is. -/
theorem isBeingCreated_of_showsMetadata {object : DynamicObject} (hordered : Ordered object.data)
    (hshows : object.ShowsMetadata) {managed : Managed}
    (hread : Managed.ofDynamic object = .ok managed) :
    managed.metadata.isBeingCreated = object.metadata.isBeingCreated := by
  obtain ⟨hmetadata, -⟩ := Managed.ofDynamic_inv hordered hread
  obtain ⟨-, hsettled⟩ := (metadata?_iff_of_showsMetadata hshows).mp hmetadata
  rw [hsettled]
  exact Option.isNone_map

/-- A change of dynamic objects refines the change of the typed ones that they are read as: the
result is read as an object that is written as the same JSON as the changed typed object. The one
exception are times before the year zero that were written back, after which the result is not
read. -/
theorem mutate_refines {existing desired result : DynamicObject} (hordered : existing.IsOrdered)
    (hshows : existing.ShowsMetadata) (hmutate : existing.mutate desired = .ok result) :
    ∃ live target changed, Managed.ofDynamic existing = .ok live ∧
      Managed.ofDynamic desired = .ok target ∧ live.mutate target = .ok changed ∧
      (changed.HandsOverReadableTimes existing.metadata.isBeingCreated →
        ∃ again, Managed.ofDynamic result = .ok again ∧ again.write = changed.write) ∧
      (¬ changed.HandsOverReadableTimes existing.metadata.isBeingCreated →
        Managed.ofDynamic result = .error (.unreadable live.kind)) := by
  obtain ⟨live, target, changed, hlive, htarget, hchanged, -, rfl⟩ :=
    exists_of_mutate hordered.data hmutate
  refine ⟨live, target, changed, hlive, htarget, hchanged, fun htimes => ?_, fun htimes => ?_⟩
  · have hagain := (Managed.ofDynamic_accept_iff hordered hlive hchanged _).mpr ⟨htimes, rfl⟩
    have hafter : existing.metadataAfter live.metadata changed.metadata = changed.metadata := by
      obtain ⟨-, -, hadopt⟩ := Managed.of_mutate hchanged
      rw [metadataAfter, hshows, hadopt]
      rfl
    rw [hafter, ← isBeingCreated_of_showsMetadata hordered.data hshows hlive] at hagain
    exact ⟨_, hagain, Managed.write_overwrite hchanged⟩
  · exact Managed.ofDynamic_accept_of_not hordered hlive hchanged htimes

/-- A deployment of queriers. -/
def querier (spec : List (String × Json)) : DynamicObject where
  types := some Kind.deployment.types
  metadata := { name := some "loki-querier" }
  data := [("spec", .record spec)]

theorem querier_isOrdered (spec : List (String × Json)) : (querier spec).IsOrdered where
  data := List.pairwise_singleton _ _
  spec := Entries.ordered_ofList spec

/-- A deployment that the cluster has not created yet. -/
def newQuerier : DynamicObject :=
  querier [("replicas", .integer 1), ("selector", .object []), ("template", .object [])]

/-- Two replicas of it are wanted, of pods with half a second in the time in their metadata. -/
def twoQueriers : DynamicObject :=
  querier [("replicas", .integer 2), ("template", .object [("metadata", .object
    [("creationTimestamp", .string "2024-01-01T00:00:00.5Z")])])]

theorem twoQueriers_handsOver (live target changed : Managed)
    (hlive : Managed.ofDynamic newQuerier = .ok live)
    (htarget : Managed.ofDynamic twoQueriers = .ok target)
    (hchanged : live.mutate target = .ok changed) : changed.HandsOverReadableTimes true := by
  cases hlive
  cases htarget
  cases hchanged
  intro spec hspec
  cases hspec
  constructor
  · intro metadata hmetadata
    cases hmetadata
    refine ⟨fun time htime => ?_, fun time htime => ?_, fun entries hentries => ?_⟩
    · cases htime
      exact Int.natCast_nonneg _
    · cases htime
    · cases hentries
  · intro pods hpods
    cases hpods

theorem mutate_refines_twoQueriers : ∃ result live target changed again,
    newQuerier.mutate twoQueriers = .ok result ∧ Managed.ofDynamic newQuerier = .ok live ∧
      Managed.ofDynamic twoQueriers = .ok target ∧ live.mutate target = .ok changed ∧
      changed.HandsOverReadableTimes true ∧ Managed.ofDynamic result = .ok again ∧
      again.write = changed.write := by
  have hmutate : newQuerier.mutate twoQueriers = .ok _ := rfl
  obtain ⟨live, target, changed, hlive, htarget, hchanged, hread, -⟩ :=
    mutate_refines (querier_isOrdered _) rfl hmutate
  have htimes : changed.HandsOverReadableTimes true :=
    twoQueriers_handsOver live target changed hlive htarget hchanged
  obtain ⟨again, hagain, hwrite⟩ := hread htimes
  exact ⟨_, live, target, changed, again, hmutate, hlive, htarget, hchanged, htimes, hagain, hwrite⟩

/-- Its pods are wanted with a time before the year zero in their metadata. -/
def ancientQueriers : DynamicObject :=
  querier [("template", .object [("metadata", .object
    [("creationTimestamp", .string "-000001-06-01T00:00:00Z")])])]

/-- The time that was taken over is written in a form that is not read. -/
theorem mutate_ancientQueriers : newQuerier.IsOrdered ∧ ∃ result,
    newQuerier.mutate ancientQueriers = .ok result ∧
      Managed.ofDynamic result = .error (.unreadable .deployment) :=
  ⟨querier_isOrdered _, _, rfl, rfl⟩

end DynamicObject

end Rollout.Kube
