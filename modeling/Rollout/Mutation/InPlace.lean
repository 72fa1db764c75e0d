import Rollout.Mutation.Dynamic

/-!
The change of a live object step by step, on an object in memory that each step may write to. Both
objects are read and the typed change is converted back before the first write; a step that fails
ends the change and leaves in place what was written by then.
-/

namespace Rollout.Kube

/-- A dynamic object in memory. What it holds beside type and metadata may be any value. -/
structure HeldObject where
  types : Option TypeMeta
  metadata : ObjectMeta
  data : Json

/-- A dynamic object in memory, with its other fields as one value. -/
def DynamicObject.held (object : DynamicObject) : HeldObject :=
  ⟨object.types, object.metadata, object.root⟩

namespace HeldObject

/-- The object with its fields, if its data is made of fields; a null stands for none. -/
def toDynamic? (object : HeldObject) : Option DynamicObject :=
  match object.data with
  | .object entries => some ⟨object.types, object.metadata, entries⟩
  | .null => some ⟨object.types, object.metadata, []⟩
  | _ => none

/-- Reads the object as one of a kind. -/
def readAs? (object : HeldObject) (kind : Kind) : Option Managed :=
  object.toDynamic?.bind fun whole => Managed.read? kind whole.toJson

/-- Reads the object as the kind that it claims to be. -/
def read (object : HeldObject) : Except MutationError Managed :=
  match object.types with
  | none => .error (.missingTypeMeta object.metadata.displayName)
  | some types =>
    match Kind.ofTypes? types with
    | none => .error (.unsupportedKind types.apiVersion types.kind)
    | some kind =>
      match object.readAs? kind with
      | some managed => .ok managed
      | none => .error (.unreadable kind)

end HeldObject

/-- Steps on a live object in memory. -/
abbrev Change (α : Type) : Type := ExceptT MutationError (StateM HeldObject) α

namespace Change

/-- What comes of the steps, and the object as they leave it. -/
def run {α : Type} (change : Change α) (object : HeldObject) :
    Except MutationError α × HeldObject :=
  (ExceptT.run change).run object

/-- What has been worked out without looking at the live object, or the end of the change. -/
def require {α : Type} : Except MutationError α → Change α
  | .ok value => pure value
  | .error cause => throw cause

def setLabels (labels : Option (KeyMap String)) : Change Unit :=
  modify fun object => { object with metadata := { object.metadata with labels } }

def setAnnotations (annotations : Option (KeyMap String)) : Change Unit :=
  modify fun object => { object with metadata := { object.metadata with annotations } }

/-- Takes the value at a path over from another value. -/
def copyPath (source : Json) (path : List String) : Change Unit :=
  modify fun object =>
    { object with data := Json.replace (Json.lookup? path source) path object.data }

/-- Changes the live object towards a desired one. -/
def towards (desired : HeldObject) : Change Unit := do
  let live ← require (← get).read
  let target ← require desired.read
  let changed ← require (live.mutate target)
  let paths := changed.kind.ownedPaths (← get).metadata.isBeingCreated
  let converted ← require changed.toDynamic
  setLabels converted.metadata.labels
  setAnnotations converted.metadata.annotations
  paths.forM (copyPath converted.root)

end Change

end Rollout.Kube
