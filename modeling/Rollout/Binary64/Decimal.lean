import Rollout.Binary64

/-!
Decimals of double-precision numbers: literals, and the shortest decimals. Of all decimals that a
number is nearest to, the shortest one has the fewest digits, and of those it is the nearest to
the number.
-/

namespace Rollout.Binary64

def decimalValue (digits : List Char) : Nat :=
  digits.foldl (fun value digit => value * 10 + (digit.toNat - 48)) 0

/-- The digits and the exponent of a decimal number with an optional point. There is a digit before
or after the point. -/
def literal? (text : List Char) : Option (Nat × Int) :=
  let whole := text.takeWhile Char.isDigit
  let rest := text.dropWhile Char.isDigit
  let (places, rest) := match rest with
    | '.' :: after => (after.takeWhile Char.isDigit, after.dropWhile Char.isDigit)
    | _ => ([], rest)
  let digits := whole ++ places
  let scale : Int := -(places.length : Int)
  if digits.isEmpty then none
  else
    match rest with
    | [] => some (decimalValue digits, scale)
    | c :: rest =>
      let (negative, rest) := match rest with
        | '-' :: rest => (true, rest)
        | '+' :: rest => (false, rest)
        | _ => (false, rest)
      if (c = 'e' ∨ c = 'E') ∧ !rest.isEmpty ∧ rest.all Char.isDigit then
        let exponent : Int := decimalValue rest
        some (decimalValue digits, scale + if negative then -exponent else exponent)
      else none

end Rollout.Binary64

namespace Rollout.Binary64

/-- The decimals that round to a positive number lie between `low` and `high`, and the number is
`value`, all three in the same unit. The ends count when the significand is even. -/
structure Neighbourhood where
  low : Nat
  value : Nat
  high : Nat
  /-- The unit is one part in so many. -/
  parts : Nat
  closed : Bool

/-- A gap between neighbours is four units wide, except that the one below a power of two is half
as wide. -/
def neighbourhood (x : Binary64) : Neighbourhood :=
  let place := x.exponent - 2
  let below := if x.significand = 1 <<< 52 ∧ 1 < x.binade then 1 else 2
  let scale := if 0 ≤ place then 1 <<< place.natAbs else 1
  { low := (4 * x.significand - below) * scale
    value := 4 * x.significand * scale
    high := (4 * x.significand + 2) * scale
    parts := if 0 ≤ place then 1 else 1 <<< place.natAbs
    closed := x.significand % 2 == 0 }

/-- The neighbourhood in units of `10 ^ exponent` parts, so that a whole number of such units is
`parts` long. -/
def Neighbourhood.inTens (n : Neighbourhood) (exponent : Int) : Neighbourhood :=
  if 0 ≤ exponent then { n with parts := n.parts * Nat.pow 10 exponent.natAbs }
  else
    let scale := Nat.pow 10 exponent.natAbs
    { n with low := n.low * scale, value := n.value * scale, high := n.high * scale }

def Neighbourhood.holds (n : Neighbourhood) (digits : Nat) : Bool :=
  let place := digits * n.parts
  if n.closed then decide (n.low ≤ place ∧ place ≤ n.high)
  else decide (n.low < place ∧ place < n.high)

/-- The multiple of `10 ^ exponent` that is nearest to the number and rounds to it, if one does.
Halfway between two, the larger one is taken. -/
def Neighbourhood.multiple? (n : Neighbourhood) (exponent : Int) : Option Nat :=
  let n := n.inTens exponent
  let floor := n.value / n.parts
  if n.holds floor && (!n.holds (floor + 1) || decide (2 * (n.value % n.parts) < n.parts)) then
    some floor
  else if n.holds (floor + 1) then some (floor + 1)
  else none

/-- Tries the powers of ten from `10 ^ exponent` downwards. -/
def Neighbourhood.search (n : Neighbourhood) : Nat → Int → Nat × Int
  | 0, exponent => ((n.inTens exponent).value / (n.inTens exponent).parts, exponent)
  | fuel + 1, exponent =>
    match n.multiple? exponent with
    | some digits => (digits, exponent)
    | none => n.search fuel (exponent - 1)

/-- Digits and a power of ten whose product is the shortest decimal of a finite number without its
sign. The search begins above the number and goes down by the 17 digits that always suffice. -/
def shortest (x : Binary64) : Nat × Int :=
  if x.isZero then (0, 0)
  else
    let length : Int := (x.significand.log2 : Int) + 1 + x.exponent
    x.neighbourhood.search 24 ((length * 30103).fdiv 100000 + 2)

/-- Digits with a decimal point, or with zeros on the right, and without a power of ten. -/
def positional (digits : Nat) (exponent : Int) : List Char :=
  let text := (toString digits).toList
  let places := exponent.natAbs
  if 0 ≤ exponent then text ++ List.replicate (if digits = 0 then 0 else places) '0'
  else
    let padded := List.replicate (places + 1 - text.length) '0' ++ text
    padded.take (padded.length - places) ++ '.' :: padded.drop (padded.length - places)

/-- The shortest decimal of a finite number, with all zeros written out. -/
def toText (x : Binary64) : String :=
  let (digits, exponent) := x.shortest
  String.ofList ((if x.isNegative then ['-'] else []) ++ positional digits exponent)

end Rollout.Binary64
