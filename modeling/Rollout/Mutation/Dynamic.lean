import Rollout.Json
import Rollout.Mutation.Typed

/-!
Changing a live object of any shape towards a desired one. The change is worked out on typed
objects, but only labels, annotations and the owned fields are written back, so that everything the
typed model does not know stays as it is.
-/

namespace Rollout.Kube

/-- The paths of the fields that the operator owns. -/
def Kind.ownedPaths (kind : Kind) (creating : Bool) : List (List String) :=
  match kind with
  | .configMap => [["data"], ["binaryData"]]
  | .service => [["spec", "ports"], ["spec", "selector"]]
  | .deployment =>
    (if creating then [["spec", "selector"]] else []) ++
      [["spec", "replicas"], ["spec", "template"], ["spec", "strategy"]]
  | .statefulSet =>
    (if creating then
      [["spec", "selector"], ["spec", "podManagementPolicy"], ["spec", "volumeClaimTemplates"]]
    else []) ++
      [["spec", "replicas"], ["spec", "template"], ["spec", "updateStrategy"]]
  | .serviceMonitor => []

namespace DynamicObject

/-- The fields other than type and metadata, as one value. -/
def root (object : DynamicObject) : Json := .object object.data

/-- Takes the values at some paths over from another value. -/
def copyPaths (paths : List (List String)) (source target : Json) : Json :=
  paths.foldl (fun root path => Json.replace (Json.lookup? path source) path root) target

def mutate (existing desired : DynamicObject) : Except MutationError DynamicObject := do
  let live ← Managed.ofDynamic existing
  let target ← Managed.ofDynamic desired
  let changed ← live.mutate target
  let paths := changed.kind.ownedPaths existing.metadata.isBeingCreated
  let converted ← changed.toDynamic
  return { existing with
    metadata := { existing.metadata with
      labels := converted.metadata.labels
      annotations := converted.metadata.annotations }
    data := match copyPaths paths converted.root existing.root with
      | .object entries => entries
      | _ => existing.data }

end DynamicObject

end Rollout.Kube
