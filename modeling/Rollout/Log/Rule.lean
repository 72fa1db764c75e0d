import Rollout.Binary64.Decimal
import Rollout.Log.Level
import Rollout.Log.Pattern
import Rollout.Text.Pieces

/-!
The rules of log filters. A rule is a level, or a target that may be followed by a scope in square
brackets and by an equals sign and a level; the scope names a span of work, a detail of the entries,
or a detail and a pattern for its value. Without a level a rule lets everything pass.
-/

namespace Rollout.Log

/-- A detail of log entries, perhaps with the value that it has to have. -/
structure Detail where
  name : String
  value : Option String := none
deriving DecidableEq

/-- How urgent certain entries have to be. -/
structure Rule where
  /-- What the name of the entries' part of the program begins with. -/
  target : String := ""
  /-- The span of work that the entries belong to. -/
  span : Option String := none
  /-- What the entries have to tell. -/
  detail : Option Detail := none
  threshold : Threshold := some .trace
deriving DecidableEq

/-- Whether a text is a value: a number or a pattern. Numbers are patterns too, except after a plus
sign. -/
def Detail.isValue (text : List Char) : Bool :=
  Pattern.isPattern text ||
    match text with
    | '+' :: number =>
      (Binary64.literal? number).isSome ||
        ["inf", "infinity", "nan"].contains (String.ofList (number.map Char.toLower))
    | _ => false

/-- Reads a detail: a name, or a name and a value with an equals sign between them. What follows a
second equals sign is ignored. -/
def Detail.ofText? (text : String) : Option Detail :=
  match Text.pieces '=' text.toList with
  | name :: value :: _ =>
    if text.isEmpty || !isValue value then none
    else some ⟨String.ofList name, some (String.ofList value)⟩
  | _ => if text.isEmpty then none else some ⟨text, none⟩

namespace Rule

/-- Characters that a rule without a scope in front may begin with. -/
def isStart (c : Char) : Bool := Text.isAlphanumeric c || c = '-' || c = ':' || c = '_'

def byteLength (text : List Char) : Nat := (String.ofList text).utf8ByteSize

/-- The bytes from `start` up to `stop`, if they are whole characters. -/
def cut? (text : String) (start stop : Nat) : Option String :=
  String.fromUTF8? (text.toUTF8.extract start stop)

/-- The level that begins at a byte. -/
def thresholdAt? (text : String) (start : Nat) : Option Threshold := do
  let word ← cut? text start text.utf8ByteSize
  if word.isEmpty then some (some .trace) else Threshold.ofText? word

/-- What follows a scope at a byte: nothing, or a level. -/
def afterScope? (text : String) (start : Nat) : List Char → Option Threshold
  | [] => some (some .trace)
  | '=' :: _ => thresholdAt? text (start + 1)
  | _ => none

/-- A rule with a scope, given the form of the rule after the opening bracket and the byte that it
begins at. -/
def scoped? (text : String) (target : String) (start : Nat) (form : List Char) : Option Rule := do
  let name := form.takeWhile fun c => c ≠ ']' ∧ c ≠ '\x7b'
  let stop := start + byteLength name
  let span ← cut? text start stop
  match form.drop name.length with
  | ']' :: rest =>
    return { target, span := some span, threshold := ← afterScope? text (stop + 1) rest }
  | _ :: inner =>
    let detail := inner.takeWhile (· ≠ '\x7d')
    let last := stop + 1 + byteLength detail
    match inner.drop detail.length with
    | _ :: ']' :: rest =>
      return {
        target
        span := if span.isEmpty then none else some span
        detail := some (← Detail.ofText? (← cut? text (stop + 1) last))
        threshold := ← afterScope? text (last + 2) rest }
    | _ => none
  | [] => none

/-- Reads a rule. Its form is that of the text without the blanks around it, but its parts are cut
out of the text as it is, at the same distances from the start. -/
def ofText? (text : String) : Option Rule := do
  let form := Text.trim text.toList
  let name := form.takeWhile fun c => c ≠ '=' ∧ c ≠ '['
  let stop := byteLength name
  match name, form.drop name.length with
  | [], '[' :: rest => scoped? text "" 1 rest
  | first :: _, rest =>
    if !isStart first then none
    else
      match rest with
      | [] =>
        match Threshold.ofText? text with
        | some threshold => return { threshold }
        | none => return { target := text }
      | '=' :: _ =>
        return { target := ← cut? text 0 stop, threshold := ← thresholdAt? text (stop + 1) }
      | _ :: rest => scoped? text (← cut? text 0 stop) (stop + 1) rest
  | [], _ => none

end Rule

end Rollout.Log
