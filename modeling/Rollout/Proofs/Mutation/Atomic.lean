import Rollout.Mutation.InPlace
import Rollout.Proofs.Mutation.WriteBack

/-!
A change is made as a whole or not at all. Whatever two objects hold, a change either goes through
or leaves the live object as it was, and it is refused for the first of seven causes that applies.
Once both objects are read and are of one kind, nothing that comes later fails. Only a field that
stands for the metadata of the live object, as no object has that is read, can still be in the way.
-/

namespace Rollout.Kube

open Entries (find?)

/-! ### Reading -/

namespace HeldObject

/-- No other field stands for the metadata. -/
def ShowsMetadata (object : HeldObject) : Prop := object.data.field? "metadata" = none

end HeldObject

/-! ### Steps -/

namespace Change

variable {α β : Type} {object : HeldObject}

theorem run_bind (change : Change α) (next : α → Change β) :
    run (change >>= next) object =
      match run change object with
      | (.ok value, after) => run (next value) after
      | (.error failure, after) => (.error failure, after) := by
  have hrun : run (change >>= next) object =
      (ExceptT.bindCont next (run change object).1).run (run change object).2 := rfl
  rw [hrun]
  obtain ⟨result, after⟩ := run change object
  cases result <;> rfl

@[simp] theorem run_get : run get object = (.ok object, object) := rfl

@[simp] theorem run_require_ok (value : α) :
    run (require (.ok value)) object = (.ok value, object) := rfl

@[simp] theorem run_require_error (cause : MutationError) :
    run (require (.error cause) : Change α) object = (.error cause, object) := rfl

/-- Copied paths change the data alone. -/
theorem run_copyPaths (source : Json) (paths : List (List String)) :
    run (paths.forM (copyPath source)) object =
      (.ok (), { object with data := DynamicObject.copyPaths paths source object.data }) := by
  induction paths generalizing object with
  | nil => rfl
  | cons path rest ih =>
      have hcons : (path :: rest).forM (copyPath source) =
          (copyPath source path >>= fun _ => rest.forM (copyPath source)) := rfl
      rw [hcons, run_bind]
      exact ih

end Change

/-! ### Causes -/

namespace HeldObject

end HeldObject

/-! ### Whole changes -/

namespace Change

variable {existing desired : HeldObject} {live target changed : Managed}

theorem run_towards_of_live_error {cause : MutationError} (hlive : existing.read = .error cause) :
    run (towards desired) existing = (.error cause, existing) := by
  simp only [towards, run_bind, run_get, hlive, run_require_error]

theorem run_towards_of_target_error {cause : MutationError} (hlive : existing.read = .ok live)
    (htarget : desired.read = .error cause) :
    run (towards desired) existing = (.error cause, existing) := by
  simp only [towards, run_bind, run_get, hlive, htarget, run_require_ok, run_require_error]

theorem run_towards_of_mutate_error {cause : MutationError} (hlive : existing.read = .ok live)
    (htarget : desired.read = .ok target) (hmutate : live.mutate target = .error cause) :
    run (towards desired) existing = (.error cause, existing) := by
  simp only [towards, run_bind, run_get, hlive, htarget, hmutate, run_require_ok,
    run_require_error]

/-- Once the typed object is changed and converted, all writes go through. -/
theorem run_towards_of_mutate (hlive : existing.read = .ok live)
    (htarget : desired.read = .ok target) (hmutate : live.mutate target = .ok changed)
    (htimes : changed.metadata.HasReadableTimes) :
    run (towards desired) existing = (.ok (), { existing with
      metadata := { existing.metadata with
        labels := changed.converted.metadata.labels
        annotations := changed.converted.metadata.annotations }
      data := DynamicObject.copyPaths
        (changed.kind.ownedPaths existing.metadata.isBeingCreated) changed.converted.root
        existing.data }) := by
  simp only [towards, run_bind, run_get, hlive, htarget, hmutate, run_require_ok,
    Managed.toDynamic_of_hasReadableTimes htimes]
  exact run_copyPaths _ _

theorem run_towards_of_not (hlive : existing.read = .ok live)
    (htarget : desired.read = .ok target) (hmutate : live.mutate target = .ok changed)
    (htimes : ¬ changed.metadata.HasReadableTimes) :
    run (towards desired) existing = (.error (.unwritable changed.kind), existing) := by
  simp only [towards, run_bind, run_get, hlive, htarget, hmutate, run_require_ok,
    Managed.toDynamic_of_not htimes, run_require_error]

end Change

namespace HeldObject

end HeldObject

/-! ### Changes worked out as values -/

namespace DynamicObject

theorem held_read (object : DynamicObject) : object.held.read = Managed.ofDynamic object := rfl

theorem exists_copyPaths_object (paths : List (List String)) (source : Json)
    (entries : List (String × Json)) :
    ∃ copied, copyPaths paths source (.object entries) = .object copied := by
  induction paths generalizing entries with
  | nil => exact ⟨entries, rfl⟩
  | cons path rest ih =>
      obtain ⟨replaced, hreplaced⟩ := Json.exists_entries_of_isObject
        (@Json.isObject_replace (.object entries) rfl (Json.lookup? path source) path)
      rw [copyPaths, List.foldl_cons, hreplaced]
      exact ih replaced

/-- A change in memory leaves the object that the change of values gives. -/
theorem towards_held (existing desired : DynamicObject) :
    (Change.towards desired.held).run existing.held =
      match existing.mutate desired with
      | .ok changed => (.ok (), changed.held)
      | .error cause => (.error cause, existing.held) := by
  rw [mutate, ← existing.held_read, ← desired.held_read]
  cases hlive : existing.held.read with
  | error cause => exact Change.run_towards_of_live_error hlive
  | ok live =>
      cases htarget : desired.held.read with
      | error cause => exact Change.run_towards_of_target_error hlive htarget
      | ok target =>
          rcases live.mutate_inv target with ⟨-, changed, hchanged, -, -⟩ | ⟨-, herror⟩
          · simp only [bind, Except.bind, pure, Except.pure, hchanged]
            by_cases htimes : changed.metadata.HasReadableTimes
            · obtain ⟨entries, hentries⟩ := exists_copyPaths_object
                (changed.kind.ownedPaths existing.metadata.isBeingCreated) changed.converted.root
                existing.data
              change copyPaths _ _ existing.root = _ at hentries
              rw [Change.run_towards_of_mutate hlive htarget hchanged htimes,
                Managed.toDynamic_of_hasReadableTimes htimes]
              simp only [held, hentries]
              rfl
            · rw [Change.run_towards_of_not hlive htarget hchanged htimes,
                Managed.toDynamic_of_not htimes]
          · simp only [bind, Except.bind, herror]
            exact Change.run_towards_of_mutate_error hlive htarget herror

end DynamicObject

end Rollout.Kube
