import Rollout.Stack.Defaults
import Rollout.Stack.Spec

/-!
The settings that a stack runs with: the defaults of its size, over them what the user set, and
over both the rules of the operator.
-/

namespace Rollout.Stack

/-- The rules of the operator: a component that is a singleton runs one replica. -/
def Spec.operatorRules : Spec where
  template := .assign fun component =>
    if component.isSingleton then { replicas := some 1 } else {}

/-- Why layers do not fit together. -/
inductive Conflict where
  /-- The user asks for another size. -/
  | sizeMismatch (requested : Size)
  /-- No layer sets a field that every stack needs. -/
  | missingField (field : String)
deriving DecidableEq

def Conflict.name : Conflict → String
  | .sizeMismatch _ => "SizeMismatch"
  | .missingField _ => "MissingField"

def Conflict.message : Conflict → String
  | .sizeMismatch requested => "the LokiStack requests size " ++ requested.name
  | .missingField field => field ++ " is still unset after applying all configuration layers"

inductive ResolutionError where
  | mergeConflict (size : Size) (cause : Conflict)
deriving DecidableEq

def ResolutionError.message : ResolutionError → String
  | .mergeConflict size _ =>
    "failed to merge the user overrides onto the " ++ size.name ++ " defaults"

/-- A stack whose settings are settled. -/
structure Resolved where
  size : Size
  spec : Spec
  flags : Flags

namespace Resolved

def replicas (resolved : Resolved) (component : Component) : Int32 :=
  (resolved.spec.template.get component).replicas.getD 0

def replicationFactor (resolved : Resolved) : Int32 := resolved.spec.replicationFactor.getD 0

def resources (resolved : Resolved) (component : Component) : Resources :=
  resolved.size.resources component

end Resolved

/-- Puts the three layers over each other. -/
def layered (size : Size) (user : Spec) : Spec :=
  merge Spec.operatorRules (merge user size.defaults)

/-- The first field that every stack needs and that a spec leaves open. -/
def Spec.missingField? (spec : Spec) : Option String :=
  if spec.replicationFactor.isNone then some "replicationFactor"
  else
    (Component.all.find? fun component => (spec.template.get component).replicas.isNone).map
      fun component => "template." ++ component.name ++ ".replicas"

/-- Whether the user asks for another size. -/
def Spec.otherSize? (user : Spec) (size : Size) : Option Size :=
  user.size.filter (· ≠ size)

/-- Settles the settings of a stack. A user who names a size has to name this one. -/
def resolve (size : Size) (user : Spec) (flags : Flags) : Except ResolutionError Resolved :=
  match user.otherSize? size with
  | some requested => .error (.mergeConflict size (.sizeMismatch requested))
  | none =>
    match (layered size user).missingField? with
    | some field => .error (.mergeConflict size (.missingField field))
    | none => .ok ⟨size, layered size user, flags⟩

end Rollout.Stack
