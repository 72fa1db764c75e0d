import Rollout.Codec
import Rollout.Yaml.Node.Compose
import Rollout.Yaml.Scalar
import Rollout.Yaml.Token.Scan

/-!
How typed readers see YAML. A text field takes any scalar as it is written; numbers and truth
values are plain scalars; a plain scalar without characters stands for a missing value, an empty
list or an empty map.
-/

namespace Rollout.Yaml

namespace Item

/-- The node itself, or the one that a reference leads to. -/
def resolve? (item : Item) : Option Node :=
  match item.node with
  | .alias number => Entries.find? number item.anchors
  | node => some node

def text? (item : Item) : Option String :=
  match item.resolve? with
  | some (.scalar _ _ text) => some text
  | _ => none

/-- The text of a plain scalar, or of a literal one whose tag names the type. -/
def plainText? (item : Item) (typeTag : String) : Option String :=
  match item.resolve? with
  | some (.scalar .plain _ text) => some text
  | some (.scalar .literal (some tag) text) => if tag = typeTag then some text else none
  | _ => none

def bool? (item : Item) : Option Bool := do
  truth? (← item.plainText? "tag:yaml.org,2002:bool")

/-- A whole number of 64 bits. -/
def integer? (item : Item) : Option Int := do
  let value ← wholeNumber? (← item.plainText? "tag:yaml.org,2002:int").toList
  if -0x8000000000000000 ≤ value ∧ value < 0x8000000000000000 then some value else none

/-- A decimal number that is no whole number of 64 bits. -/
def real? (item : Item) : Option Binary64 := do
  let text := (← item.plainText? "tag:yaml.org,2002:float").toList
  if item.integer?.isSome ∨ isPaddedNumber text then none else Yaml.real? text

/-- A plain scalar without a tag is unset when it is empty or a null; the null tag allows nothing
but a null. -/
def isUnset? (item : Item) : Option Bool :=
  match item.resolve? with
  | some (.scalar .plain none text) => some (text.isEmpty || isNull text)
  | some (.scalar .plain (some tag) text) =>
    if tag = "tag:yaml.org,2002:null" then (if isNull text then some true else none)
    else some false
  | some _ => some false
  | none => none

/-- The name of an alternative: the text of a scalar, or a local tag on a null. -/
def alternative? (item : Item) : Option String :=
  match item.resolve? with
  | some (.scalar style (some tag) text) =>
    match tag.toList with
    | '!' :: name =>
      if style = .plain ∧ (text.isEmpty ∨ isNull text) then
        some (if name.isEmpty then "!" else String.ofList name)
      else none
    | _ => some text
  | some (.scalar _ none text) => some text
  | _ => none

def items? (item : Item) : Option (List Item) :=
  match item.resolve? with
  | some (.sequence items) => some (items.map fun node => ⟨item.anchors, node⟩)
  | some (.scalar .plain _ "") => some []
  | _ => none

/-- The entries of a mapping. Every key has to be a scalar. -/
def entries? (item : Item) : Option (List (String × Item)) :=
  match item.resolve? with
  | some (.mapping entries) =>
    entries.mapM fun entry => do
      let key ← (Item.mk item.anchors entry.1).text?
      return (key, ⟨item.anchors, entry.2⟩)
  | some (.scalar .plain _ "") => some []
  | _ => none

def isReference : Node → Bool
  | .alias _ => true
  | _ => false

/-- A reference to a value counts, and so does each key of a mapping that is one. -/
def references (item : Item) : Nat :=
  let keys := match item.resolve? with
    | some (.mapping entries) => entries.countP fun entry => isReference entry.1
    | _ => 0
  if isReference item.node then keys + 1 else keys

instance : Source Item where
  isUnset? := isUnset?
  text? := text?
  integer? := integer?
  real? := real?
  bool? := bool?
  alternative? := alternative?
  items? := items?
  entries? := entries?
  positions? _ := none
  references := references

end Item

/-- The value that a document describes. Reading it may follow a hundred references for each event
of the document. -/
def Document.read? {α : Type} (document : Document) (codec : Codec α) : Option α :=
  if codec.follows document.item ≤ 100 * document.root.events then codec.read document.item
  else none

/-- The document written in a text. -/
def Document.ofText? (text : String) : Option Document := do
  Document.ofTokens? (← Token.scan? text.toList)

/-- The document written in a byte string, which has to be UTF-8. -/
def Document.ofBytes? (bytes : ByteArray) : Option Document := do
  Document.ofText? (← String.fromUTF8? bytes)

end Rollout.Yaml
