import Rollout.Config.Comparison
import Rollout.Log.Session
import Rollout.Mutation.Dynamic
import Rollout.Text.Quoted

/-!
What comparisons and mutations write into the log. An operation that fails reports nothing.
-/

namespace Rollout.Log

/-- Items of a set, in braces. -/
def braced (items : List String) : String := "\x7b" ++ String.intercalate ", " items ++ "\x7d"

/-- What is reported about a change between two configuration files. -/
def ofChange (change : ConfigChange) : List Event :=
  let target := "loki_operator::manifests::config::compare"
  match change with
  | .unchanged oldHash =>
    [⟨.debug, target, "Loki configuration is unchanged", [("hash", oldHash)]⟩]
  | .changed sections oldHash newHash =>
    (change.unregistered.map fun name =>
      ⟨.warn, target, "Loki configuration section changed, but no component is registered for it",
        [("section", name)]⟩) ++
    [⟨.info, target, "Loki configuration changed", [
      ("changed_sections", braced (sections.map Text.Quoted.quote)),
      ("restarted_components", braced (change.restarted.map Component.title)),
      ("old_hash", oldHash), ("new_hash", newHash)]⟩]

/-- What is reported about an object that is being changed. -/
def ofMutation (kind : Kube.Kind) (name : String) : Event :=
  ⟨.debug, "loki_operator::manifests::mutate", "mutating existing object",
    [("kind", kind.name), ("name", name)]⟩

namespace Session

/-- Compares two configuration files and reports the change. -/
def compare (session : Session) (old new : ByteArray) :
    Except ComparisonError ConfigChange × Session :=
  match ConfigChange.between old new with
  | .ok change => (.ok change, (ofChange change).foldl write session)
  | .error cause => (.error cause, session)

/-- Changes a live object towards a desired one and reports it. -/
def mutate (session : Session) (existing desired : Kube.DynamicObject) :
    Except MutationError Kube.DynamicObject × Session :=
  match existing.types.bind Kube.Kind.ofTypes?, existing.mutate desired with
  | some kind, .ok mutated =>
    (.ok mutated, session.write (ofMutation kind existing.metadata.displayName))
  | _, outcome => (outcome, session)

end Session

end Rollout.Log
