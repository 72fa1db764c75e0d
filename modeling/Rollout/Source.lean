import Rollout.Json

/-!
What a typed reader asks of the document it reads from. JSON values and YAML nodes answer the same
questions by their own rules, so that a type says once how it is read.
-/

namespace Rollout

class Source (ν : Type) where
  /-- Whether a value stands for "not set" where a field may be left unset; `none` for a value
  that claims to be null and is not. -/
  isUnset? : ν → Option Bool
  text? : ν → Option String
  /-- A whole number in the widest range that the document format reads. -/
  integer? : ν → Option Int
  /-- A number that is no whole one, or that is out of that range. -/
  real? : ν → Option Binary64
  bool? : ν → Option Bool
  /-- The name of an alternative that carries no data. -/
  alternative? : ν → Option String
  items? : ν → Option (List ν)
  /-- Keys and values in document order, repeated keys included. -/
  entries? : ν → Option (List (String × ν))
  /-- The fields of a record written as a plain list, if it is written so. -/
  positions? : ν → Option (List ν)
  /-- How many references lead to a value and to the keys in it. -/
  references : ν → Nat

namespace Json

def text? : Json → Option String
  | .string value => some value
  | _ => none

def integer? : Json → Option Int
  | .number (.integer value) => some value
  | _ => none

def real? : Json → Option Binary64
  | .number (.real value) => some value
  | _ => none

def bool? : Json → Option Bool
  | .bool value => some value
  | _ => none

/-- The name itself, or an object that binds the name to null. -/
def alternative? : Json → Option String
  | .string name => some name
  | .object [(name, .null)] => some name
  | _ => none

def items? : Json → Option (List Json)
  | .array items => some items
  | _ => none

def entries? : Json → Option (List (String × Json))
  | .object entries => some entries
  | _ => none

instance : Source Json where
  isUnset? value := some value.isNull
  text? := text?
  integer? := integer?
  real? := real?
  bool? := bool?
  alternative? := alternative?
  items? := items?
  entries? := entries?
  positions? := items?
  references _ := 0

end Json

end Rollout
