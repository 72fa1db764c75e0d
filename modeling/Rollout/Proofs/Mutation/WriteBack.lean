import Rollout.Proofs.Mutation.Conversion

/-!
What a change writes back to a live object, in terms of the changed typed object alone: its labels
and annotations, and what its owned fields are written as. All else stays as it is, and of two
changes the later one counts.
-/

namespace Rollout.Kube

open Entries (Ordered find? insert overlay)
open Json (lookup? orObject)

/-! ### What is written back -/

/-- The fields of a specification, of which a missing one has none. -/
def specEntries (data : List (String × Json)) : List (String × Json) :=
  (orObject (find? "spec" data)).entries?.getD []

@[simp] theorem specEntries_insert (entries data : List (String × Json)) :
    specEntries (insert "spec" (.object entries) data) = entries := by
  rw [specEntries, Entries.find?_insert_self]
  rfl

theorem specEntries_of_orObject {data inner : List (String × Json)}
    (hinner : orObject (find? "spec" data) = .object inner) : specEntries data = inner := by
  rw [specEntries, hinner]
  rfl

theorem specEntries_eq_of_find? {data other : List (String × Json)}
    (hfind : find? "spec" data = find? "spec" other) : specEntries data = specEntries other := by
  rw [specEntries, specEntries, hfind]

/-- Changes the fields that the owned ones stand among. -/
def Kind.within (kind : Kind) (change : List (String × Json) → List (String × Json))
    (data : List (String × Json)) : List (String × Json) :=
  match kind with
  | .configMap | .serviceMonitor => change data
  | .service | .deployment | .statefulSet =>
    insert "spec" (.object (change (specEntries data))) data

/-- A live object with what is written back to it of a changed typed one. -/
def DynamicObject.accept (object : DynamicObject) (changed : Managed) : DynamicObject :=
  { object with
    metadata := object.metadata.adopt changed.metadata
    data := changed.kind.within
      (overlay (changed.kind.ownedKeys object.metadata.isBeingCreated) changed.owned) object.data }

/-! ### Paths -/

namespace DynamicObject

theorem copyPaths_keys (keys : List String) (source : Json) (data : List (String × Json)) :
    copyPaths (keys.map fun key => [key]) source (.object data) =
      .object (overlay keys (lookup? [·] source) data) := by
  induction keys generalizing data with
  | nil => rfl
  | cons key rest ih =>
      have hstep : copyPaths ((key :: rest).map fun key => [key]) source (.object data) =
          copyPaths (rest.map fun key => [key]) source
            (Json.replace (lookup? [key] source) [key] (.object data)) := rfl
      rw [hstep, Json.replace_last, ih]
      rfl

theorem copyPaths_spec (keys : List String) (source : Json) (data inner : List (String × Json)) :
    copyPaths (keys.map fun key => ["spec", key]) source
        (.object (insert "spec" (.object inner) data)) =
      .object (insert "spec" (.object (overlay keys (lookup? ["spec", ·] source) inner)) data) := by
  induction keys generalizing inner with
  | nil => rfl
  | cons key rest ih =>
      have hstep : copyPaths ((key :: rest).map fun key => ["spec", key]) source
            (.object (insert "spec" (.object inner) data)) =
          copyPaths (rest.map fun key => ["spec", key]) source
            (Json.replace (lookup? ["spec", key] source) ["spec", key]
              (.object (insert "spec" (.object inner) data))) := rfl
      have hobject : orObject (some (.object inner)) = .object inner := rfl
      rw [hstep, Json.replace_next, Entries.find?_insert_self, hobject, Json.replace_last,
        Entries.insert_insert, ih]
      rfl

/-- The first path below a specification makes it an object. -/
theorem copyPaths_cons_spec (key : String) (keys : List String) (source : Json)
    {data inner : List (String × Json)} (hinner : orObject (find? "spec" data) = .object inner) :
    copyPaths ((key :: keys).map fun key => ["spec", key]) source (.object data) =
      .object (insert "spec" (.object (overlay (key :: keys) (lookup? ["spec", ·] source) inner))
        data) := by
  rw [← copyPaths_spec, List.map_cons]
  have hobject : orObject (some (.object inner)) = .object inner := rfl
  simp only [copyPaths, List.foldl_cons, Json.replace_next, Entries.find?_insert_self, hinner,
    hobject, Entries.insert_insert]

/-- The owned paths of a kind lead to its owned fields. -/
theorem copyPaths_owned (kind : Kind) (creating : Bool) (source : Json)
    {data : List (String × Json)}
    (hholder : kind.holder = ["spec"] → ∃ inner, orObject (find? "spec" data) = .object inner) :
    copyPaths (kind.ownedPaths creating) source (.object data) =
      .object (kind.within (overlay (kind.ownedKeys creating)
        fun key => lookup? (kind.holder ++ [key]) source) data) := by
  rw [kind.ownedPaths_eq]
  cases kind with
  | configMap => exact copyPaths_keys _ source data
  | serviceMonitor => exact copyPaths_keys [] source data
  | service =>
      obtain ⟨inner, hinner⟩ := hholder rfl
      simp only [Kind.within, specEntries, hinner, Json.entries?, Option.getD_some]
      exact copyPaths_cons_spec "ports" ["selector"] source hinner
  | deployment =>
      obtain ⟨inner, hinner⟩ := hholder rfl
      simp only [Kind.within, specEntries, hinner, Json.entries?, Option.getD_some]
      cases creating <;> exact copyPaths_cons_spec _ _ source hinner
  | statefulSet =>
      obtain ⟨inner, hinner⟩ := hholder rfl
      simp only [Kind.within, specEntries, hinner, Json.entries?, Option.getD_some]
      cases creating <;> exact copyPaths_cons_spec _ _ source hinner

end DynamicObject

/-! ### Changes of dynamic objects -/

/-- An object that is read has the metadata that it is read to have, and its specification is an
object, if it is not left out or null. -/
theorem Managed.ofDynamic_inv {object : DynamicObject} (hordered : Ordered object.data)
    {managed : Managed} (hread : ofDynamic object = .ok managed) :
    object.metadata? managed.kind = some managed.metadata ∧
      (managed.kind.holder = ["spec"] →
        ∃ inner, orObject (find? "spec" object.data) = .object inner) := by
  obtain ⟨htypes, hread⟩ := ofDynamic_eq_ok_iff.mp hread
  cases managed with
  | configMap whole =>
      obtain ⟨whole, hwhole, heq⟩ := Option.map_eq_some_iff.mp hread
      obtain ⟨-, _, _, _, _, _, _, m, hm, rfl⟩ := (ConfigMap.read_iff hordered htypes).mp hwhole
      cases heq
      exact ⟨hm, fun hholder => by cases hholder⟩
  | service whole =>
      obtain ⟨whole, hwhole, heq⟩ := Option.map_eq_some_iff.mp hread
      rw [Service.codec_eq] at hwhole
      obtain ⟨m, _, _, inner, rfl, -, hm, hinner, -⟩ :=
        exists_of_read_specified hordered htypes nofun ServiceSpec.readsObjects hwhole
      cases heq
      exact ⟨hm, fun _ => ⟨inner, hinner⟩⟩
  | deployment whole =>
      obtain ⟨whole, hwhole, heq⟩ := Option.map_eq_some_iff.mp hread
      rw [Deployment.codec_eq] at hwhole
      obtain ⟨m, _, _, inner, rfl, -, hm, hinner, -⟩ :=
        exists_of_read_specified hordered htypes nofun DeploymentSpec.readsObjects hwhole
      cases heq
      exact ⟨hm, fun _ => ⟨inner, hinner⟩⟩
  | statefulSet whole =>
      obtain ⟨whole, hwhole, heq⟩ := Option.map_eq_some_iff.mp hread
      rw [StatefulSet.codec_eq] at hwhole
      obtain ⟨m, _, _, inner, rfl, -, hm, hinner, -⟩ :=
        exists_of_read_specified hordered htypes nofun StatefulSetSpec.readsObjects hwhole
      cases heq
      exact ⟨hm, fun _ => ⟨inner, hinner⟩⟩
  | serviceMonitor whole =>
      obtain ⟨whole, hwhole, heq⟩ := Option.map_eq_some_iff.mp hread
      obtain ⟨m, hm, _, _, rfl⟩ := (ServiceMonitor.read_iff hordered htypes).mp hwhole
      cases heq
      exact ⟨hm, fun hholder => by cases hholder⟩

/-- What comes of a typed object that is changed towards another one of its kind. -/
inductive Managed.Changes : Managed → Managed → Managed → Prop
  | configMap (live target : ConfigMap) :
      Changes (.configMap live) (.configMap target) (.configMap (live.mutate target))
  | service (live target : Service) :
      Changes (.service live) (.service target) (.service (live.mutate target))
  | deployment (live target : Deployment) :
      Changes (.deployment live) (.deployment target) (.deployment (live.mutate target))
  | statefulSet (live target : StatefulSet) :
      Changes (.statefulSet live) (.statefulSet target) (.statefulSet (live.mutate target))
  | serviceMonitor (live target : ServiceMonitor) :
      Changes (.serviceMonitor live) (.serviceMonitor target)
        (.serviceMonitor (live.mutate target))

theorem Managed.changes_of_mutate {live target changed : Managed}
    (hchanged : live.mutate target = .ok changed) : live.Changes target changed := by
  cases live <;> cases target <;> cases hchanged <;> constructor

/-- A change keeps the kind, and of the metadata it takes labels and annotations over. -/
theorem Managed.of_mutate {live target changed : Managed}
    (hchanged : live.mutate target = .ok changed) :
    live.kind = target.kind ∧ changed.kind = target.kind ∧
      changed.metadata = live.metadata.adopt target.metadata := by
  cases changes_of_mutate hchanged <;> exact ⟨rfl, rfl, rfl⟩

/-- Typed objects change towards objects of their own kind, and towards no others. -/
theorem Managed.mutate_inv (live target : Managed) :
    (live.kind = target.kind ∧ ∃ changed, live.mutate target = .ok changed ∧
      changed.kind = target.kind ∧ changed.metadata = live.metadata.adopt target.metadata) ∨
    (live.kind ≠ target.kind ∧
      live.mutate target = .error (.mismatchedKind live.kind target.kind)) := by
  cases live <;> cases target <;>
    first
      | exact .inl ⟨rfl, _, rfl, rfl, rfl⟩
      | exact .inr ⟨(by cases ·), rfl⟩

namespace DynamicObject

/-- What is copied under the owned paths is what a changed typed object is written as there. -/
theorem root_accept {existing : DynamicObject} (hordered : Ordered existing.data)
    {live changed : Managed} (hlive : Managed.ofDynamic existing = .ok live)
    (hkind : live.kind = changed.kind) :
    (existing.accept changed).root =
      copyPaths (changed.kind.ownedPaths existing.metadata.isBeingCreated) changed.converted.root
        existing.root := by
  obtain ⟨-, hholder⟩ := Managed.ofDynamic_inv hordered hlive
  have hsame : overlay (changed.kind.ownedKeys existing.metadata.isBeingCreated)
      (fun key => lookup? (changed.kind.holder ++ [key]) changed.converted.root) =
      overlay (changed.kind.ownedKeys existing.metadata.isBeingCreated) changed.owned :=
    funext fun entries => Entries.overlay_congr fun _ hkey => changed.lookup?_converted hkey
  have hroot : existing.root = .object existing.data := rfl
  rw [hroot, copyPaths_owned _ _ _ (hkind ▸ hholder), hsame]
  rfl

/-- A change is worked out on typed objects and written back, if the changed object can be
converted. -/
theorem mutate_eq {existing : DynamicObject} (hordered : Ordered existing.data)
    (desired : DynamicObject) :
    existing.mutate desired = (do
      let live ← Managed.ofDynamic existing
      let target ← Managed.ofDynamic desired
      let changed ← live.mutate target
      let _ ← changed.toDynamic
      return existing.accept changed) := by
  unfold mutate
  cases hlive : Managed.ofDynamic existing with
  | error error => rfl
  | ok live =>
      cases Managed.ofDynamic desired with
      | error error => rfl
      | ok target =>
          rcases live.mutate_inv target with ⟨hkind, changed, hchanged, hsame, -⟩ | ⟨hkind, herror⟩
          · simp only [bind, Except.bind, pure, Except.pure, hchanged]
            by_cases htimes : changed.metadata.HasReadableTimes
            · rw [Managed.toDynamic_of_hasReadableTimes htimes]
              simp only [← root_accept hordered hlive (hkind.trans hsame.symm)]
              rfl
            · rw [Managed.toDynamic_of_not htimes]
          · simp only [bind, Except.bind, herror]

/-- What is behind a change that succeeds. -/
theorem exists_of_mutate {existing desired result : DynamicObject}
    (hordered : Ordered existing.data) (hmutate : existing.mutate desired = .ok result) :
    ∃ live target changed, Managed.ofDynamic existing = .ok live ∧
      Managed.ofDynamic desired = .ok target ∧ live.mutate target = .ok changed ∧
      changed.metadata.HasReadableTimes ∧ existing.accept changed = result := by
  rw [mutate_eq hordered] at hmutate
  cases hlive : Managed.ofDynamic existing with
  | error error =>
      rw [hlive] at hmutate
      cases hmutate
  | ok live =>
      cases htarget : Managed.ofDynamic desired with
      | error error =>
          rw [hlive, htarget] at hmutate
          cases hmutate
      | ok target =>
          cases hchanged : live.mutate target with
          | error error =>
              simp only [hlive, htarget, hchanged, bind, Except.bind] at hmutate
              cases hmutate
          | ok changed =>
              simp only [hlive, htarget, hchanged, bind, Except.bind] at hmutate
              by_cases htimes : changed.metadata.HasReadableTimes
              · rw [Managed.toDynamic_of_hasReadableTimes htimes] at hmutate
                exact ⟨live, target, changed, rfl, rfl, hchanged, htimes, Except.ok.inj hmutate⟩
              · rw [Managed.toDynamic_of_not htimes] at hmutate
                cases hmutate

/-! ### Repeated changes -/

/-- The objects around the owned fields hold each key once, in order. -/
structure IsOrdered (object : DynamicObject) : Prop where
  data : Ordered object.data
  spec : Ordered (specEntries object.data)

/-- Claiming a type leaves a specification where it is. -/
theorem claimTypes_rest {entries : List (String × Json)} (hordered : Ordered entries) :
    Ordered (claimTypes entries).2 ∧
      find? "spec" (claimTypes entries).2 = find? "spec" entries := by
  have hversion := Entries.find?_erase_of_ne entries (by decide : "apiVersion" ≠ "spec")
  have hkind : ∀ entries : List (String × Json),
      find? "spec" (Entries.erase "kind" entries) = find? "spec" entries :=
    fun entries => Entries.find?_erase_of_ne entries (by decide)
  unfold claimTypes
  split
  · exact ⟨(hordered.erase _).erase _, (hkind _).trans hversion⟩
  · exact ⟨(hordered.erase _).erase _, (hkind _).trans hversion⟩
  · exact ⟨hordered.erase _, hversion⟩
  · exact ⟨hordered.erase _, hkind _⟩

/-- An object that is read has the fields that are left over. -/
theorem exists_of_ofJson? {entries : List (String × Json)} {object : DynamicObject}
    (hobject : ofJson? (.object entries) = some object) : ∃ metadata,
      object = ⟨(claimTypes entries).1, metadata,
        Entries.erase "metadata" (claimTypes entries).2⟩ := by
  simp only [ofJson?, Option.bind_eq_bind] at hobject
  split at hobject
  · obtain ⟨metadata, -, heq⟩ := Option.bind_eq_some_iff.mp hobject
    exact ⟨metadata, (Option.some.inj heq).symm⟩
  · exact ⟨{}, (Option.some.inj hobject).symm⟩

/-- Objects that are read have no other field that stands for the metadata. -/
theorem showsMetadata_of_ofJson? {value : Json} {object : DynamicObject}
    (hobject : ofJson? value = some object) : object.ShowsMetadata := by
  cases value with
  | object entries =>
      obtain ⟨_, rfl⟩ := exists_of_ofJson? hobject
      exact Entries.find?_erase_self _ _
  | _ => cases hobject

/-- Objects that are read from texts are ordered. -/
theorem isOrdered_of_canonical? {depth : Nat} {text value : Json} {object : DynamicObject}
    (hread : Json.canonical? depth text = some value) (hobject : ofJson? value = some object) :
    object.IsOrdered := by
  cases value with
  | object entries =>
      obtain ⟨hrest, hfind⟩ := claimTypes_rest (Json.ordered_of_canonical? hread)
      obtain ⟨_, rfl⟩ := exists_of_ofJson? hobject
      refine ⟨hrest.erase _, ?_⟩
      rw [specEntries_eq_of_find? ((Entries.find?_erase_of_ne _ (by decide)).trans hfind)]
      cases hspec : find? "spec" entries with
      | none => simp [specEntries, hspec, orObject, Json.emptyObject, Json.entries?, Ordered]
      | some spec =>
          cases spec with
          | object inner =>
              obtain ⟨_, _, hinner⟩ := Json.exists_canonical?_of_find? hread hspec
              simpa [specEntries, hspec, orObject, Json.entries?] using
                Json.ordered_of_canonical? hinner
          | _ => simp [specEntries, hspec, orObject, Json.emptyObject, Json.entries?, Ordered]
  | _ => cases hobject

/-- Beside the owned fields and what they stand in, a change writes no field. -/
theorem find?_accept_of_ne (object : DynamicObject) (changed : Managed) {key : String}
    (hspec : "spec" ≠ key) (hdata : "data" ≠ key) (hbinaryData : "binaryData" ≠ key) :
    find? key (object.accept changed).data = find? key object.data := by
  cases changed with
  | configMap changed =>
      have hkey : key ∉ ["data", "binaryData"] := by simp [hdata.symm, hbinaryData.symm]
      exact (Entries.find?_overlay _ _ _ _).trans (if_neg hkey)
  | service changed | deployment changed | statefulSet changed =>
      exact Entries.find?_insert_of_ne _ _ hspec
  | serviceMonitor changed => rfl

/-- A changed specification stands where the live one stood, and the state stays. -/
theorem find?_accept {object : DynamicObject} {changed : Managed}
    (hholder : changed.kind.holder = ["spec"]) {inner : List (String × Json)}
    (hinner : orObject (find? "spec" object.data) = .object inner) :
    find? "spec" (object.accept changed).data = some (.object
        (overlay (changed.kind.ownedKeys object.metadata.isBeingCreated) changed.owned inner)) ∧
      find? "status" (object.accept changed).data = find? "status" object.data := by
  cases changed with
  | configMap changed | serviceMonitor changed => cases hholder
  | service changed | deployment changed | statefulSet changed =>
      simp only [accept, Managed.kind, Kind.within, specEntries_of_orObject hinner]
      exact ⟨Entries.find?_insert_self _ _ _, Entries.find?_insert_of_ne _ _ (by decide)⟩

/-- A change keeps the order of keys. -/
theorem IsOrdered.accept {object : DynamicObject} (hordered : object.IsOrdered)
    (changed : Managed) : (object.accept changed).IsOrdered := by
  obtain ⟨hdata, hspec⟩ := hordered
  cases changed with
  | configMap changed =>
      have hfind : find? "spec" (object.accept (.configMap changed)).data =
          find? "spec" object.data := Entries.find?_overlay _ _ _ _
      exact ⟨hdata.overlay _ _, specEntries_eq_of_find? hfind ▸ hspec⟩
  | serviceMonitor changed => exact ⟨hdata, hspec⟩
  | service changed | deployment changed | statefulSet changed =>
      refine ⟨hdata.insert _ _, ?_⟩
      simp only [DynamicObject.accept, Managed.kind, Kind.within, specEntries_insert]
      exact hspec.overlay _ _

/-- Of two changes of objects of one kind, the later one counts. -/
theorem accept_accept {object : DynamicObject} (hordered : object.IsOrdered)
    {first second : Managed} (hkind : first.kind = second.kind) :
    (object.accept first).accept second = object.accept second := by
  have hwithin : ∀ (kind : Kind) (keys : List String) (source other : String → Option Json),
      kind.within (overlay keys source) (kind.within (overlay keys other) object.data) =
        kind.within (overlay keys source) object.data := by
    intro kind keys source other
    cases kind with
    | configMap | serviceMonitor => exact Entries.overlay_overlay hordered.data
    | service | deployment | statefulSet =>
        simp only [Kind.within, specEntries_insert, Entries.insert_insert,
          Entries.overlay_overlay hordered.spec]
  calc (object.accept first).accept second
    _ = { object.accept second with
          data := second.kind.within
            (overlay (second.kind.ownedKeys object.metadata.isBeingCreated) second.owned)
            (first.kind.within
              (overlay (first.kind.ownedKeys object.metadata.isBeingCreated) first.owned)
              object.data) } := rfl
    _ = object.accept second := by
      rw [hkind, hwithin]
      rfl

end DynamicObject

end Rollout.Kube
