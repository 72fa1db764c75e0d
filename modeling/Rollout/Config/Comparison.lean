import Rollout.Config.Sections
import Rollout.Sha256
import Rollout.Text.Encoding

/-!
Selective restarts. Every component carries the hash of the configuration file it was started
with. For a new file, the components that read a changed section get the new hash, which restarts
them, and all others keep the old one. Two files that describe the same configuration differ in
nothing that matters, whatever their bytes.
-/

namespace Rollout.Config

/-- The hash of a configuration file: its SHA-256 digest in hexadecimal digits. -/
def hash (file : ByteArray) : String := Text.Hex.encode (Sha256.digest file)

end Rollout.Config

namespace Rollout

/-- One hash for every component. -/
structure Comparison where
  compactor : String
  distributor : String
  ingester : String
  querier : String
  queryFrontend : String
deriving DecidableEq

namespace Comparison

/-- Assigns each component a hash. -/
def assign (hash : Component → String) : Comparison where
  compactor := hash .compactor
  distributor := hash .distributor
  ingester := hash .ingester
  querier := hash .querier
  queryFrontend := hash .queryFrontend

/-- The same hash for all components. -/
def uniform (hash : String) : Comparison := assign fun _ => hash

/-- The hash of a component. -/
def get (comparison : Comparison) : Component → String
  | .compactor => comparison.compactor
  | .distributor => comparison.distributor
  | .ingester => comparison.ingester
  | .querier => comparison.querier
  | .queryFrontend => comparison.queryFrontend

/-- Every component with its hash, in listing order. -/
def toList (comparison : Comparison) : List (Component × String) :=
  Component.all.map fun component => (component, comparison.get component)

@[simp] theorem get_assign (hash : Component → String) (component : Component) :
    (assign hash).get component = hash component := by
  cases component <;> rfl

end Comparison

/-- Which of two files a comparison stands on. -/
inductive Revision where
  | old
  | new
deriving DecidableEq

def Revision.name : Revision → String
  | .old => "old"
  | .new => "new"

inductive ComparisonError where
  /-- A file that is no configuration. -/
  | malformedConfig (revision : Revision)
deriving DecidableEq

def ComparisonError.message : ComparisonError → String
  | .malformedConfig revision =>
    "failed to parse the " ++ revision.name ++ " Loki configuration"

/-- What a comparison of two readable files comes to. -/
inductive ConfigChange where
  | unchanged (oldHash : String)
  | changed (sections : List String) (oldHash newHash : String)

namespace ConfigChange

/-- The changed sections that no component reads. -/
def unregistered : ConfigChange → List String
  | .unchanged _ => []
  | .changed sections _ _ => sections.filter fun name => !Impact.isRegistered name

/-- The components to restart. -/
def restarted : ConfigChange → List Component
  | .unchanged _ => []
  | .changed sections _ _ => Impact.affected sections

/-- The hash each component runs with from now on. -/
def comparison : ConfigChange → Comparison
  | .unchanged oldHash => .uniform oldHash
  | .changed sections oldHash newHash =>
    .assign fun component =>
      if (Impact.affected sections).contains component then newHash else oldHash

/-- The change between two files. -/
def between (old new : ByteArray) : Except ComparisonError ConfigChange :=
  match Config.ofBytes? old with
  | none => .error (.malformedConfig .old)
  | some oldConfig =>
    match Config.ofBytes? new with
    | none => .error (.malformedConfig .new)
    | some newConfig =>
      if oldConfig = newConfig then .ok (.unchanged (Config.hash old))
      else
        .ok (.changed (oldConfig.changedSections newConfig) (Config.hash old) (Config.hash new))

end ConfigChange

/-- The hash each component should run with when `new` replaces `old`. -/
def Comparison.compare (old new : ByteArray) : Except ComparisonError Comparison :=
  (ConfigChange.between old new).map ConfigChange.comparison

/-- Compares the current file with each further one; a file that can be compared becomes the
current one. -/
def ConfigChange.chain (current : ByteArray) :
    List ByteArray → List (Except ComparisonError ConfigChange)
  | [] => []
  | next :: rest =>
    match between current next with
    | .ok change => .ok change :: chain next rest
    | .error cause => .error cause :: chain current rest

end Rollout
