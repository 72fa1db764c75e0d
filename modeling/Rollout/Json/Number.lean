import Rollout.Json

/-!
The numbers that literals denote. A literal without fraction and exponent is a whole number where
64 bits hold it. Any other literal is read in steps that each round: the digits that fit 64 bits
are gathered into a significand, which becomes a double and is scaled by a power of ten.
-/

namespace Rollout.Json.Number

/-- The value of an ASCII digit. -/
def digitValue (digit : UInt8) : Nat := digit.toNat - 48

/-- A significand with one more digit, if 64 bits hold it. -/
def extend? (significand : Nat) (digit : UInt8) : Option Nat :=
  let extended := significand * 10 + digitValue digit
  if extended < UInt64.size then some extended else none

/-- Gathers the digits before the point. From the first one that does not fit, they are counted
only. -/
def gatherWhole (significand : Nat) : List UInt8 → Nat × Nat
  | [] => (significand, 0)
  | digit :: rest =>
    match extend? significand digit with
    | some extended => gatherWhole extended rest
    | none => (significand, rest.length + 1)

/-- Gathers the digits after the point up to the first one that does not fit. Each of them lowers
the power of ten by one. -/
def gatherPlaces (significand : Nat) (exponent : Int) : List UInt8 → Nat × Int
  | [] => (significand, exponent)
  | digit :: rest =>
    match extend? significand digit with
    | some extended => gatherPlaces extended (exponent - 1) rest
    | none => (significand, exponent)

/-- A significand times a power of ten, if it is in the range of doubles. A power that is too small
for a double is applied in two steps; below those nothing is left of 64 bits. -/
def scale? (significand : Nat) (exponent : Int) : Option Binary64 :=
  let value := Binary64.ofNat significand
  if value.isZero ∨ exponent < -616 then some (.ofNat 0)
  else if exponent < -308 then
    some ((value.dividedBy (.powerOfTen 308)).dividedBy (.powerOfTen (exponent + 308).natAbs))
  else if exponent < 0 then some (value.dividedBy (.powerOfTen exponent.natAbs))
  else if 308 < exponent then none
  else
    let scaled := value.times (.powerOfTen exponent.natAbs)
    if scaled.isFinite then some scaled else none

/-- The number of a sign, the digits before and after the point, and the exponent; none when it is
out of the range of doubles. -/
def ofLiteral? (negative : Bool) (whole places : List UInt8) (exponent : Option Int) :
    Option Number :=
  let (significand, dropped) := gatherWhole 0 whole
  let isWhole := places.isEmpty && exponent.isNone && dropped == 0
  if isWhole && !negative then some (.integer significand)
  else if isWhole && 0 < significand && significand ≤ 0x8000000000000000 then
    some (.integer (-(significand : Int)))
  else
    let (significand, power) := gatherPlaces significand dropped places
    (scale? significand (power + exponent.getD 0)).map fun value =>
      .real (if negative then value.negate else value)

end Rollout.Json.Number
