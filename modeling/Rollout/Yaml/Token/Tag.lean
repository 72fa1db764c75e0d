import Rollout.Text.Encoding
import Rollout.Yaml.Char
import Rollout.Yaml.Token

/-!
Tags and directives: handles, tag addresses with their escapes, and the two lines that may stand
before a document.
-/

namespace Rollout.Yaml

/-- The characters of a tag address; commas and square brackets only between angle brackets. -/
def isAddress (verbatim : Bool) (c : Char) : Bool :=
  isWord c || ";/?:@&=+$.%!~*'()".toList.contains c || (verbatim && ",[]".toList.contains c)

/-- The length of a UTF-8 sequence, by its first byte. -/
def sequenceLength? (byte : Nat) : Option Nat :=
  if byte < 0x80 then some 1
  else if 0xC0 ≤ byte ∧ byte < 0xE0 then some 2
  else if 0xE0 ≤ byte ∧ byte < 0xF0 then some 3
  else if 0xF0 ≤ byte ∧ byte < 0xF8 then some 4
  else none

/-- One escaped byte: a percent sign and two hexadecimal digits. -/
def escapedByte? : List Char → Option (Nat × List Char)
  | '%' :: high :: low :: rest => do
    return ((← Text.Hex.value? high) * 16 + (← Text.Hex.value? low), rest)
  | _ => none

/-- The continuation bytes of an escaped character. -/
def escapedTail? : Nat → List Char → Option (List Nat × List Char)
  | 0, text => some ([], text)
  | count + 1, text => do
    let (byte, rest) ← escapedByte? text
    if byte / 64 = 2 then
      let (bytes, rest) ← escapedTail? count rest
      return (byte :: bytes, rest)
    else none

/-- One character of a tag address that is written by escapes. -/
def escapedBytes? (text : List Char) : Option (List Nat × List Char) := do
  let (byte, rest) ← escapedByte? text
  let (bytes, rest) ← escapedTail? ((← sequenceLength? byte) - 1) rest
  return (byte :: bytes, rest)

/-- The bytes of the longest tag address that stands here. -/
def readAddress (verbatim : Bool) : Nat → List Char → Option (List UInt8 × List Char)
  | 0, _ => none
  | fuel + 1, text =>
    match text with
    | [] => some ([], [])
    | c :: rest =>
      if c = '%' then do
        let (bytes, rest) ← escapedBytes? text
        let (more, rest) ← readAddress verbatim fuel rest
        return (bytes.map UInt8.ofNat ++ more, rest)
      else if isAddress verbatim c then do
        let (more, rest) ← readAddress verbatim fuel rest
        return ((String.singleton c).toUTF8.toList ++ more, rest)
      else some ([], text)

/-- The text of a tag address, up to a null byte. Bytes that are no UTF-8 stand for characters one
by one, and make an address that no rule is about. -/
def addressText (bytes : List UInt8) : String :=
  let bytes := bytes.takeWhile (· ≠ 0)
  match String.fromUTF8? ⟨bytes.toArray⟩ with
  | some text => text
  | none => String.ofList (bytes.map fun byte => Char.ofNat byte.toNat)

/-- A tag address after a beginning that was read already. It may not be empty. -/
def readTagAddress (verbatim : Bool) (head : List Char) (text : List Char) :
    Option (String × List Char) := do
  let (bytes, rest) ← readAddress verbatim (text.length + 1) text
  if head.isEmpty && bytes.isEmpty then none
  else return (String.ofList (head.drop 1) ++ addressText bytes, rest)

/-- A handle: an exclamation mark, word characters, and perhaps a second exclamation mark. -/
def readHandle : List Char → Option (List Char × List Char)
  | '!' :: rest =>
    let name := rest.takeWhile isWord
    match rest.dropWhile isWord with
    | '!' :: after => some ('!' :: name ++ ['!'], after)
    | after => some ('!' :: name, after)
  | _ => none

/-- A tag. What looks like a handle without its second exclamation mark is the beginning of the
address of the primary handle; a single exclamation mark is the tag `!` itself. -/
def readTag (text : List Char) : Option (TagName × List Char) :=
  match text with
  | '!' :: '<' :: rest => do
    let (suffix, rest) ← readTagAddress true [] rest
    match rest with
    | '>' :: rest => return (⟨"", suffix⟩, rest)
    | _ => none
  | _ => do
    let (handle, rest) ← readHandle text
    if 1 < handle.length ∧ handle.getLast? = some '!' then
      let (suffix, rest) ← readTagAddress false [] rest
      return (⟨String.ofList handle, suffix⟩, rest)
    else
      let (suffix, rest) ← readTagAddress false handle rest
      return (if suffix.isEmpty then ⟨"", "!"⟩ else ⟨"!", suffix⟩, rest)

def skipBlanks (text : List Char) : List Char := text.dropWhile isBlank

/-- A part of a version number, of at most nine digits. -/
def readVersionNumber (text : List Char) : Option (Nat × List Char) :=
  let digits := text.takeWhile isDigit
  if digits.isEmpty || 9 < digits.length then none
  else some (digits.foldl (fun n c => n * 10 + (c.toNat - 48)) 0, text.dropWhile isDigit)

/-- A directive, after its percent sign, up to its last character. -/
def readDirective (text : List Char) : Option (Token × List Char) := do
  let name := String.ofList (text.takeWhile isWord)
  let rest := text.dropWhile isWord
  if !endsWord rest then none
  else if name = "YAML" then
    let (major, rest) ← readVersionNumber (skipBlanks rest)
    match rest with
    | '.' :: rest =>
      let (minor, rest) ← readVersionNumber rest
      return (.version major minor, rest)
    | _ => none
  else if name = "TAG" then
    let (handle, rest) ← readHandle (skipBlanks rest)
    if handle ≠ ['!'] ∧ handle.getLast? ≠ some '!' then none
    else if !(rest.head?.map isBlank).getD false then none
    else
      let (expansion, rest) ← readTagAddress true [] (skipBlanks rest)
      if endsWord rest then return (.tagHandle (String.ofList handle) expansion, rest) else none
  else none

end Rollout.Yaml
