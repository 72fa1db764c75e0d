import Rollout.Binary64.Decimal
import Rollout.Text.Encoding

/-!
What plain scalars mean: null, truth values, whole numbers and floating-point numbers. The same
rules say how a scalar is read and which texts the printer has to quote.
-/

namespace Rollout.Yaml

def isNull (text : String) : Bool := text = "null" || text = "Null" || text = "NULL" || text = "~"

def truth? (text : String) : Option Bool :=
  if text = "true" ∨ text = "True" ∨ text = "TRUE" then some true
  else if text = "false" ∨ text = "False" ∨ text = "FALSE" then some false
  else none

/-- The number of a non-empty list of digits in a base up to sixteen. -/
def digitsValue? (base : Nat) (digits : List Char) : Option Nat :=
  if digits.isEmpty then none
  else digits.foldlM (fun value c => do
    let digit ← Text.Hex.value? c
    if digit < base then some (value * base + digit) else none) 0

/-- The base that a text of digits declares, and the digits. -/
def basedDigits : List Char → Nat × List Char
  | '0' :: 'x' :: rest => (16, rest)
  | '0' :: 'o' :: rest => (8, rest)
  | '0' :: 'b' :: rest => (2, rest)
  | text => (10, text)

/-- Decimal numbers have no leading zeros. -/
def hasLeadingZero : List Char → Bool
  | '0' :: _ :: _ => true
  | _ => false

/-- A whole number: an optional sign and digits, decimal or with a base mark. -/
def wholeNumber? (text : List Char) : Option Int :=
  let (negative, magnitude) := match text with
    | '-' :: rest => (true, rest)
    | '+' :: rest => (false, rest)
    | _ => (false, text)
  let (base, digits) := basedDigits magnitude
  if base = 10 ∧ hasLeadingZero digits then none
  else (digitsValue? base digits).map fun value => if negative then -(value : Int) else value

/-- Whether a text is a sign and then zeros before more digits, such as `007`. -/
def isPaddedNumber (text : List Char) : Bool :=
  let magnitude := match text with
    | '-' :: rest => rest
    | '+' :: rest => rest
    | _ => text
  hasLeadingZero magnitude && magnitude.all Char.isDigit

/-- A decimal number with an optional sign, in the range of doubles. -/
def real? (text : List Char) : Option Binary64 := do
  let (negative, magnitude) := match text with
    | '-' :: rest => (true, rest)
    | '+' :: rest => (false, rest)
    | _ => (false, text)
  let (digits, exponent) ← Binary64.literal? magnitude
  let value := Binary64.ofDecimal negative digits exponent
  if value.isFinite then some value else none

/-- Whether a text is a floating-point number: a decimal in the range of doubles, an infinity or
not-a-number. -/
def isFloat (text : List Char) : Bool :=
  let unsigned := match text with
    | '-' :: rest => rest
    | '+' :: rest => rest
    | _ => text
  let infinities := [".inf".toList, ".Inf".toList, ".INF".toList]
  let undefineds := [".nan".toList, ".NaN".toList, ".NAN".toList]
  infinities.contains unsigned || undefineds.contains text || (real? text).isSome

end Rollout.Yaml
