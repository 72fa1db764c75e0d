import Rollout.Binary64
import Rollout.Entries

/-!
JSON values. A value as it stands in a text may repeat the keys of an object, and may hold strings
and numbers that are well formed but denote nothing; such a part can be skipped but not read.
`canonical?` gives the value that a text denotes: keys ascending, the last of equal keys kept.
-/

namespace Rollout

/-- A number keeps the difference between a whole number in the 64-bit ranges and everything that
is written with a fraction or an exponent or that lies outside those ranges. -/
inductive Json.Number where
  | integer (value : Int)
  | real (value : Binary64)
deriving DecidableEq, Repr

inductive Json where
  | null
  | bool (value : Bool)
  | number (value : Json.Number)
  | string (value : String)
  | array (items : List Json)
  | object (entries : List (String × Json))
  /-- A well-formed part without a meaning: a string with half a surrogate pair or with bytes that
  are no UTF-8, an object with such a key, or a number above the range of doubles. -/
  | unreadable
deriving Repr

namespace Json

instance : Inhabited Json := ⟨.null⟩

def integer (value : Int) : Json := .number (.integer value)

/-- The object of a list of fields, in ascending key order. -/
def record (fields : List (String × Json)) : Json := .object (Entries.ofList fields)

def emptyObject : Json := .object []

def isNull : Json → Bool
  | .null => true
  | _ => false

def isObject : Json → Bool
  | .object _ => true
  | _ => false

/-- The value of a key of an object. -/
def field? (key : String) : Json → Option Json
  | .object entries => Entries.find? key entries
  | _ => none

mutual

/-- The value denoted by a text, if all of it can be read and at most `depth` arrays and objects
stand inside each other. -/
def canonical? (depth : Nat) : Json → Option Json
  | .array items =>
    if depth = 0 then none else (canonicalItems? (depth - 1) items).map .array
  | .object entries =>
    if depth = 0 then none
    else (canonicalEntries? (depth - 1) entries).map fun read => .object (Entries.ofList read)
  | .unreadable => none
  | scalar => some scalar

def canonicalItems? (depth : Nat) : List Json → Option (List Json)
  | [] => some []
  | item :: rest => do
    let first ← canonical? depth item
    let others ← canonicalItems? depth rest
    return first :: others

def canonicalEntries? (depth : Nat) : List (String × Json) → Option (List (String × Json))
  | [] => some []
  | (key, value) :: rest => do
    let first ← canonical? depth value
    let others ← canonicalEntries? depth rest
    return (key, first) :: others

end

/-- How many arrays and objects may stand inside each other. -/
def nestingLimit : Nat := 127

end Json

end Rollout

/-!
### Paths

Values inside JSON objects, by the keys that lead to them. A null counts as an absent value, and
replacing a value makes the objects on the way to it.
-/

namespace Rollout.Json

/-- The value at a path; none when there is no value, or a null. -/
def lookup? : List String → Json → Option Json
  | [], root => if root.isNull then none else some root
  | key :: rest, root => do lookup? rest (← root.field? key)

/-- The object that a missing or null value is replaced by on the way to a path. -/
def orObject : Option Json → Json
  | some .null => emptyObject
  | some value => value
  | none => emptyObject

/-- Puts a value at a path of an object, or removes the value there. What stands beside the path is
kept; where a value on the way is no object, nothing changes. -/
def replace (value : Option Json) : List String → Json → Json
  | [], root => root
  | [key], .object entries =>
    match value with
    | some value => .object (Entries.insert key value entries)
    | none => .object (Entries.erase key entries)
  | key :: rest, .object entries =>
    .object (Entries.insert key (replace value rest (orObject (Entries.find? key entries))) entries)
  | _, root => root

end Rollout.Json
