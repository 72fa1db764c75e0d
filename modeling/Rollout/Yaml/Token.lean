/-!
The tokens of a YAML stream. The starts and ends of block collections are tokens too: they follow
from the indentation, which no later stage looks at.
-/

namespace Rollout.Yaml

/-- The five ways of writing a scalar. -/
inductive Style where
  | plain
  | singleQuoted
  | doubleQuoted
  | literal
  | folded
deriving DecidableEq, Repr

/-- A tag as written: a handle that stands for the beginning of the tag, and the rest. A verbatim
tag has an empty handle. -/
structure TagName where
  handle : String
  suffix : String
deriving DecidableEq, Repr

inductive Token where
  | version (major minor : Nat)
  | tagHandle (handle expansion : String)
  | documentStart
  | documentEnd
  | blockSequenceStart
  | blockMappingStart
  | blockEnd
  | flowSequenceStart
  | flowSequenceEnd
  | flowMappingStart
  | flowMappingEnd
  | blockEntry
  | flowEntry
  | key
  | value
  | alias (name : String)
  | anchor (name : String)
  | tag (name : TagName)
  | scalar (style : Style) (text : String)
deriving DecidableEq, Repr

end Rollout.Yaml
