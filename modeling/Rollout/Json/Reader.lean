import Rollout.Json.Number
import Rollout.Text.Encoding

/-!
Reading JSON text. The grammar is the strict one: no comments, no trailing commas, no leading
zeros, no control characters inside strings. Strings are collected as bytes and decoded at their
closing quote, so that a string which is never looked at may hold anything.
-/

namespace Rollout.Json.Reader

def skipBlanks : List UInt8 → List UInt8
  | [] => []
  | b :: rest => if b = 32 ∨ b = 10 ∨ b = 13 ∨ b = 9 then skipBlanks rest else b :: rest

/-- The rest of a text after an ASCII word. -/
def after? (word : String) (text : List UInt8) : Option (List UInt8) :=
  let bytes := word.toUTF8.toList
  if bytes.isPrefixOf text then some (text.drop bytes.length) else none

def hexDigit? (b : UInt8) : Option Nat := Text.Hex.value? (Char.ofNat b.toNat)

/-- The four hexadecimal digits of an escape. -/
def hex4? : List UInt8 → Option (Nat × List UInt8)
  | a :: b :: c :: d :: rest => do
    let a ← hexDigit? a
    let b ← hexDigit? b
    let c ← hexDigit? c
    let d ← hexDigit? d
    return (((a * 16 + b) * 16 + c) * 16 + d, rest)
  | _ => none

/-- The part of a string read so far: its bytes, last first, while they denote a text. -/
abbrev Piece := Option (List UInt8)

def Piece.push (piece : Piece) (bytes : List UInt8) : Piece :=
  piece.map fun seen => bytes.reverse ++ seen

def Piece.pushChar (piece : Piece) (code : Nat) : Piece :=
  piece.push (String.singleton (Char.ofNat code)).toUTF8.toList

def Piece.text? (piece : Piece) : Option String :=
  piece.bind fun seen => String.fromUTF8? ⟨seen.reverse.toArray⟩

/-- The byte written by a one-letter escape. -/
def letterEscape? (b : UInt8) : Option UInt8 :=
  if b = 34 ∨ b = 92 ∨ b = 47 then some b
  else if b = 98 then some 8
  else if b = 102 then some 12
  else if b = 110 then some 10
  else if b = 114 then some 13
  else if b = 116 then some 9
  else none

/-- A surrogate pair joined with `high` first, when its second half follows. -/
def lowSurrogate? (high : Nat) : List UInt8 → Option (Nat × List UInt8)
  | 92 :: 117 :: rest => do
    let (low, rest) ← hex4? rest
    if 0xDC00 ≤ low ∧ low ≤ 0xDFFF then
      some (0x10000 + (high - 0xD800) * 1024 + (low - 0xDC00), rest)
    else none
  | _ => none

/-- The rest of a string after its opening quote. `none` inside the pair is a string without a
meaning. -/
def string? : Nat → Piece → List UInt8 → Option (Option String × List UInt8)
  | 0, _, _ => none
  | fuel + 1, piece, text =>
    match text with
    | [] => none
    | 34 :: rest => some (piece.text?, rest)
    | 92 :: 117 :: rest => do
      let (code, rest) ← hex4? rest
      if 0xD800 ≤ code ∧ code ≤ 0xDFFF then
        match if code < 0xDC00 then lowSurrogate? code rest else none with
        | some (joined, rest) => string? fuel (piece.pushChar joined) rest
        | none => string? fuel none rest
      else string? fuel (piece.pushChar code) rest
    | 92 :: letter :: rest => do
      let byte ← letterEscape? letter
      string? fuel (piece.push [byte]) rest
    | b :: rest => if b < 32 then none else string? fuel (piece.push [b]) rest

def isDigit (b : UInt8) : Bool := 48 ≤ b && b ≤ 57

def digits (text : List UInt8) : List UInt8 × List UInt8 := text.span isDigit

def natOfDigits (bytes : List UInt8) : Nat :=
  bytes.foldl (fun value digit => value * 10 + Number.digitValue digit) 0

/-- The digits after a decimal point, empty when there is no point. -/
def fraction? : List UInt8 → Option (List UInt8 × List UInt8)
  | 46 :: rest =>
    let (places, rest) := digits rest
    if places.isEmpty then none else some (places, rest)
  | text => some ([], text)

/-- The value of an exponent, none when there is no exponent. -/
def exponent? : List UInt8 → Option (Option Int × List UInt8)
  | b :: rest =>
    if b = 101 ∨ b = 69 then
      let (negative, rest) := match rest with
        | 43 :: rest => (false, rest)
        | 45 :: rest => (true, rest)
        | rest => (false, rest)
      let (places, rest) := digits rest
      if places.isEmpty then none
      else
        let value : Int := natOfDigits places
        some (some (if negative then -value else value), rest)
    else some (none, b :: rest)
  | [] => some (none, [])

/-- A number, after its sign. -/
def number? (negative : Bool) (text : List UInt8) : Option (Json × List UInt8) := do
  let (whole, rest) := digits text
  if whole.isEmpty || (whole.head? == some 48 && 1 < whole.length) then none
  else
    let (places, rest) ← fraction? rest
    let (exponent, rest) ← exponent? rest
    let number := Number.ofLiteral? negative whole places exponent
    return (match number with | some value => .number value | none => .unreadable, rest)

mutual

/-- One value and the text after it. -/
def value? : Nat → List UInt8 → Option (Json × List UInt8)
  | 0, _ => none
  | fuel + 1, text =>
    match skipBlanks text with
    | [] => none
    | 34 :: rest => do
      let (content, rest) ← string? (rest.length + 1) (some []) rest
      return (match content with | some s => .string s | none => .unreadable, rest)
    | 91 :: rest =>
      match skipBlanks rest with
      | 93 :: rest => some (.array [], rest)
      | rest => do
        let (items, rest) ← items? fuel rest
        return (.array items, rest)
    | 123 :: rest =>
      match skipBlanks rest with
      | 125 :: rest => some (.object [], rest)
      | rest => do
        let (entries, rest) ← entries? fuel rest
        return (match entries with | some list => .object list | none => .unreadable, rest)
    | 45 :: rest => number? true rest
    | b :: rest =>
      if isDigit b then number? false (b :: rest)
      else if b = 110 then (after? "null" (b :: rest)).map fun rest => (.null, rest)
      else if b = 116 then (after? "true" (b :: rest)).map fun rest => (.bool true, rest)
      else if b = 102 then (after? "false" (b :: rest)).map fun rest => (.bool false, rest)
      else none

/-- The items of an array up to its closing bracket. -/
def items? : Nat → List UInt8 → Option (List Json × List UInt8)
  | 0, _ => none
  | fuel + 1, text => do
    let (item, rest) ← value? fuel text
    match skipBlanks rest with
    | 44 :: rest => do
      let (others, rest) ← items? fuel rest
      return (item :: others, rest)
    | 93 :: rest => some ([item], rest)
    | _ => none

/-- The entries of an object up to its closing brace; `none` inside the pair when a key denotes no
text. -/
def entries? : Nat → List UInt8 → Option (Option (List (String × Json)) × List UInt8)
  | 0, _ => none
  | fuel + 1, text =>
    match skipBlanks text with
    | 34 :: rest => do
      let (key, rest) ← string? (rest.length + 1) (some []) rest
      match skipBlanks rest with
      | 58 :: rest => do
        let (value, rest) ← value? fuel rest
        match skipBlanks rest with
        | 44 :: rest => do
          let (others, rest) ← entries? fuel rest
          return (do return (← key, value) :: (← others), rest)
        | 125 :: rest => some (key.map fun k => [(k, value)], rest)
        | _ => none
      | _ => none
    | _ => none

end

end Rollout.Json.Reader

namespace Rollout.Json

/-- The value written in a text, as it stands. -/
def ofBytes? (bytes : ByteArray) : Option Json := do
  let text := bytes.toList
  let (value, rest) ← Reader.value? (2 * text.length + 2) text
  if (Reader.skipBlanks rest).isEmpty then some value else none

/-- The value denoted by a text. -/
def parse? (text : String) : Option Json := do
  (← ofBytes? text.toUTF8).canonical? nestingLimit

end Rollout.Json
