import Rollout.Text.Alphanumeric
import Rollout.Text.Encoding

/-!
Regular expressions that can be matched against the values of log entries. Only their form matters
here. Counted repetitions and properties with long names are written with braces, and a pattern in a
filter ends at the first closing brace, so neither can be complete. Boundaries of words are not
supported.
-/

namespace Rollout.Log.Pattern

/-- What an escape stands for. -/
inductive Escape where
  | character (c : Char)
  | set
  /-- A place between characters. -/
  | position

/-- The character of exactly `count` hexadecimal digits. -/
def hexCharacter? (count : Nat) (text : List Char) : Option Char := do
  let digits := text.take count
  let code ← digits.foldlM (fun value c => do return value * 16 + (← Text.Hex.value? c)) 0
  if digits.length = count ∧ code.isValidChar then some (Char.ofNat code) else none

/-- How many hexadecimal digits follow an escape letter. -/
def hexLength? (c : Char) : Option Nat :=
  if c = 'x' then some 2 else if c = 'u' then some 4 else if c = 'U' then some 8 else none

/-- The control characters written by a letter. -/
def controlCharacter? (c : Char) : Option Char :=
  match c with
  | 'a' => some '\x07'
  | 'f' => some '\x0c'
  | 't' => some '\t'
  | 'n' => some '\n'
  | 'r' => some '\r'
  | 'v' => some '\x0b'
  | _ => none

/-- An escape after its backslash, and the text after it. -/
def escape? : List Char → Option (Escape × List Char)
  | [] => none
  | c :: rest =>
    match hexLength? c with
    | some count => (hexCharacter? count rest).map fun read => (.character read, rest.drop count)
    | none =>
      if c = 'p' ∨ c = 'P' then
        match rest with
        | category :: rest =>
          if "CLMNPSZclmnpsz".toList.contains category then some (.set, rest) else none
        | [] => none
      else if "dswDSW".toList.contains c then some (.set, rest)
      else if c = 'A' ∨ c = 'z' then some (.position, rest)
      else if (controlCharacter? c).isSome then
        (controlCharacter? c).map fun control => (.character control, rest)
      else if c.toNat < 128 ∧ !c.isAlphanum ∧ c ≠ '<' ∧ c ≠ '>' then some (.character c, rest)
      else none

/-! ### Character sets -/

/-- The names of sets between `[:` and `:]`. -/
def setNames : List String :=
  ["alnum", "alpha", "ascii", "blank", "cntrl", "digit", "graph", "lower", "print", "punct",
    "space", "upper", "word", "xdigit"]

/-- The text after a named set, if one begins after an opened bracket. -/
def namedSet? : List Char → Option (List Char)
  | ':' :: text =>
    let text := if text.head? = some '^' then text.drop 1 else text
    match text.dropWhile (· ≠ ':') with
    | ':' :: ']' :: rest =>
      if setNames.contains (String.ofList (text.takeWhile (· ≠ ':'))) then some rest else none
    | _ => none
  | _ => none

/-- What follows an opened bracket and stands for itself there: hyphens, or one closing bracket,
perhaps after the sign of the complement. -/
def skipSetStart (text : List Char) : List Char :=
  let text := if text.head? = some '^' then text.drop 1 else text
  match text with
  | '-' :: rest => rest.dropWhile (· = '-')
  | ']' :: rest => rest
  | _ => text

/-- One member of a set: a character, or an escape. -/
def member? : List Char → Option (Escape × List Char)
  | [] => none
  | '\\' :: rest =>
    match escape? rest with
    | some (.position, _) => none
    | read => read
  | c :: rest => some (.character c, rest)

/-- A member, or a range between two characters in their order. -/
def memberOrRange? (text : List Char) : Option (List Char) := do
  let (first, rest) ← member? text
  match rest with
  | '-' :: after =>
    if after.head? = some ']' ∨ after.head? = some '-' then some rest
    else
      let (last, rest) ← member? after
      match first, last with
      | .character low, .character high => if low ≤ high then some rest else none
      | _, _ => none
  | _ => some rest

/-- The text after a set, inside of `depth` brackets. Between two members may stand the sign of an
intersection or a difference. -/
def set? : Nat → Nat → List Char → Option (List Char)
  | 0, _, _ => none
  | fuel + 1, depth, text =>
    match text with
    | [] => none
    | '[' :: rest =>
      match namedSet? rest with
      | some rest => set? fuel depth rest
      | none => set? fuel (depth + 1) (skipSetStart rest)
    | ']' :: rest => if depth ≤ 1 then some rest else set? fuel (depth - 1) rest
    | '&' :: '&' :: rest => set? fuel depth rest
    | '-' :: '-' :: rest => set? fuel depth rest
    | '~' :: '~' :: rest => set? fuel depth rest
    | text => do set? fuel depth (← memberOrRange? text)

/-! ### Groups -/

/-- Flags: letters, each at most once, and a minus sign before those that are switched off. -/
def areFlags (flags : List Char) : Bool :=
  let letters := flags.filter (· ≠ '-')
  letters.all ("imsUuxR".toList.contains ·) && letters.eraseDups.length == letters.length &&
    flags.length ≤ letters.length + 1 && flags.getLast? != some '-'

def isGroupName : List Char → Bool
  | [] => false
  | first :: rest =>
    (first = '_' || (Text.isAlphanumeric first && !first.isDigit)) &&
      rest.all fun c => Text.isAlphanumeric c || "_.[]".toList.contains c

/-- What an opening parenthesis begins. -/
inductive Opening where
  | group (name : Option String)
  /-- Flags for what follows. -/
  | flags

/-- A name, up to the bracket that closes it. -/
def groupName? (text : List Char) : Option (Opening × List Char) :=
  let name := text.takeWhile (· ≠ '>')
  match text.dropWhile (· ≠ '>') with
  | _ :: rest => if isGroupName name then some (.group (String.ofList name), rest) else none
  | [] => none

/-- What follows an opening parenthesis. -/
def opening? : List Char → Option (Opening × List Char)
  | '?' :: 'P' :: '<' :: text => groupName? text
  | '?' :: '<' :: text => groupName? text
  | '?' :: text =>
    let flags := text.takeWhile fun c => c ≠ ':' ∧ c ≠ ')'
    match text.drop flags.length with
    | ':' :: rest => if areFlags flags then some (.group none, rest) else none
    | _ :: rest => if areFlags flags ∧ !flags.isEmpty then some (.flags, rest) else none
    | [] => none
  | text => some (.group none, text)

/-- Whether a pattern can be completed, given the number of groups that are open, the names that
groups have, and whether something to repeat precedes. -/
def accepts : Nat → Nat → List String → Bool → List Char → Bool
  | 0, _, _, _, _ => false
  | fuel + 1, depth, names, repeatable, text =>
    match text with
    | [] => depth == 0
    | '(' :: rest =>
      match opening? rest with
      | some (.group none, rest) => accepts fuel (depth + 1) names false rest
      | some (.group (some name), rest) =>
        !names.contains name && accepts fuel (depth + 1) (name :: names) false rest
      | some (.flags, rest) => accepts fuel depth names false rest
      | none => false
    | ')' :: rest => depth != 0 && accepts fuel (depth - 1) names true rest
    | '|' :: rest => accepts fuel depth names false rest
    | '\x7b' :: _ => false
    | '[' :: rest =>
      match set? (rest.length + 1) 1 (skipSetStart rest) with
      | some rest => accepts fuel depth names true rest
      | none => false
    | '\\' :: rest =>
      match escape? rest with
      | some (_, rest) => accepts fuel depth names true rest
      | none => false
    | c :: rest =>
      if c = '*' ∨ c = '+' ∨ c = '?' then
        repeatable &&
          accepts fuel depth names true (if rest.head? = some '?' then rest.drop 1 else rest)
      else accepts fuel depth names true rest

/-- Whether a text is a regular expression. -/
def isPattern (text : List Char) : Bool := accepts (text.length + 1) 0 [] false text

end Rollout.Log.Pattern
