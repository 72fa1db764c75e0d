import Rollout.Kube.Meta

/-!
Objects of any kind: the type they claim to have, their metadata, and all other fields as they
stand in the cluster.
-/

namespace Rollout.Kube

/-- The API version and the kind of an object. -/
structure TypeMeta where
  apiVersion : String
  kind : String
deriving DecidableEq

structure DynamicObject where
  types : Option TypeMeta
  metadata : ObjectMeta
  /-- The fields other than type and metadata. -/
  data : List (String × Json)

namespace ObjectMeta

/-- The name of an object, or the beginning of the name that it will be given. -/
def displayName (metadata : ObjectMeta) : String :=
  (metadata.name.or metadata.generateName).getD ""

/-- Whether the cluster has not created the object yet. -/
def isBeingCreated (metadata : ObjectMeta) : Bool := metadata.creationTimestamp.isNone

end ObjectMeta

namespace DynamicObject

/-- The keys that make up the type of an object, in the order in which they are claimed. Claiming
stops at a key whose value is no text, and what was claimed is lost unless all of it is there. -/
def claimTypes (entries : List (String × Json)) : Option TypeMeta × List (String × Json) :=
  match Entries.find? "apiVersion" entries, Entries.find? "kind" entries with
  | some (.string apiVersion), some (.string kind) =>
    (some ⟨apiVersion, kind⟩, Entries.erase "kind" (Entries.erase "apiVersion" entries))
  | some (.string _), _ => (none, Entries.erase "kind" (Entries.erase "apiVersion" entries))
  | some _, _ => (none, Entries.erase "apiVersion" entries)
  | none, _ => (none, Entries.erase "kind" entries)

/-- The object in a JSON object with readable metadata. -/
def ofJson? : Json → Option DynamicObject
  | .object entries => do
    let (types, entries) := claimTypes entries
    let metadata ← match Entries.find? "metadata" entries with
      | some value => ObjectMeta.codec.read value
      | none => some {}
    return ⟨types, metadata, Entries.erase "metadata" entries⟩
  | _ => none

def typeFields : Option TypeMeta → List (String × Json)
  | some types => [("apiVersion", .string types.apiVersion), ("kind", .string types.kind)]
  | none => []

/-- The object as it is written: type and metadata, and then the other fields. Of fields with one
name the last one counts, so that a field that is named like a part of the type or like the metadata
takes its place. No object that is read has such a field beside a type. -/
def toJson (object : DynamicObject) : Json :=
  .record (typeFields object.types ++
    ("metadata", ObjectMeta.codec.write object.metadata) :: object.data)

end DynamicObject

end Rollout.Kube
