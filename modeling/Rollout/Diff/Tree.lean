import Rollout.Binary64
import Rollout.Entries
import Rollout.Diff.FieldPath

/-!
Documents as trees, the form in which two of them are compared. Every typed document has one view
as a tree: leaves, optional values, lists, maps by key, and records with named members, some of
which take no part in a comparison.
-/

namespace Rollout

/-- A value compared as a whole. -/
inductive Leaf where
  | bool (value : Bool)
  | integer (value : Int)
  | real (value : Binary64)
  | letter (value : Char)
  | text (value : String)
deriving DecidableEq

/-- Equality of leaves; reals compare numerically. -/
def Leaf.same : Leaf → Leaf → Bool
  | .real x, .real y => x.same y
  | x, y => x == y

/-- A member of a record, under the name it is reported by. -/
structure Member (α : Type) where
  name : String
  compared : Bool := true
  value : α

inductive Tree where
  | leaf (value : Leaf)
  | optional (value : Option Tree)
  | list (items : List Tree)
  | map (entries : List (String × Tree))
  | record (members : List (Member Tree))

namespace Tree

instance : Inhabited Tree := ⟨.list []⟩

def bool (value : Bool) : Tree := .leaf (.bool value)

def integer (value : Int) : Tree := .leaf (.integer value)

def text (value : String) : Tree := .leaf (.text value)

end Tree

end Rollout
