/-!
Double-precision numbers as bit patterns. A number that stands for an exact value, given by a
decimal or by an operation on two numbers, is the nearest double, of two nearest the one with the
even significand, found with integer arithmetic alone.
-/

namespace Rollout

/-- A double-precision number, given by its bits. -/
structure Binary64 where
  bits : UInt64
deriving DecidableEq, Repr

namespace Binary64

def magnitude (x : Binary64) : UInt64 := x.bits &&& 0x7fffffffffffffff

def isNaN (x : Binary64) : Bool := 0x7ff0000000000000 < x.magnitude

def isFinite (x : Binary64) : Bool := x.magnitude < 0x7ff0000000000000

def isNegative (x : Binary64) : Bool := 0x8000000000000000 ≤ x.bits

def isZero (x : Binary64) : Bool := x.magnitude == 0

/-- The field of the binary exponent, zero for the numbers next to zero. -/
def binade (x : Binary64) : Nat := x.magnitude.toNat >>> 52

/-- A finite number is, but for its sign, its significand times two to the power of its
exponent. -/
def significand (x : Binary64) : Nat :=
  if x.binade = 0 then x.magnitude.toNat else (1 <<< 52) + x.magnitude.toNat % (1 <<< 52)

def exponent (x : Binary64) : Int := if x.binade = 0 then -1074 else x.binade - 1075

/-- Numeric equality: both zeros are equal, and a NaN equals nothing. -/
def same (x y : Binary64) : Bool :=
  !x.isNaN && !y.isNaN && (x.bits == y.bits || (x.isZero && y.isZero))

/-- `numerator / denominator` rounded to the nearest integer, a tie to the even one. -/
def roundQuotient (numerator denominator : Nat) : Nat :=
  let quotient := numerator / denominator
  let twice := 2 * (numerator % denominator)
  if twice < denominator then quotient
  else if denominator < twice then quotient + 1
  else quotient + quotient % 2

/-- The magnitude bits of the double nearest to `numerator / denominator`. A significand of 53
bits is cut at the last place `2 ^ place`, and no place lies below the subnormal one. -/
def ofQuotient (numerator denominator : Nat) : Nat :=
  let estimate : Int := (numerator.log2 : Int) - (denominator.log2 : Int)
  let scaled (place : Int) : Nat :=
    if place < 0 then roundQuotient (numerator <<< place.natAbs) denominator
    else roundQuotient numerator (denominator <<< place.natAbs)
  let place : Int := max (estimate - 53) (-1074)
  let significand := scaled place
  let place' := if 1 <<< 53 ≤ significand then max (place + 1) (-1074) else place
  let significand' := if 1 <<< 53 ≤ significand then scaled place' else significand
  if 1 <<< 53 < significand' then 0x7ff0000000000000
  else
    let carried := significand' = 1 <<< 53
    let last : Int := if carried then place' + 1 else place'
    let kept := if carried then 1 <<< 52 else significand'
    if kept < 1 <<< 52 then kept
    else if 971 < last then 0x7ff0000000000000
    else ((last + 1074).toNat <<< 52) + kept

/-- The magnitude bits of `digits * 10 ^ exponent`. Values far outside the range of doubles are
settled by their number of decimal digits. -/
def ofDigits (digits : Nat) (exponent : Int) : Nat :=
  if digits = 0 then 0
  else
    let top : Int := (Nat.toDigits 10 digits).length + exponent
    if 400 < top then 0x7ff0000000000000
    else if top < -400 then 0
    else if 0 ≤ exponent then ofQuotient (digits * Nat.pow 10 exponent.natAbs) 1
    else ofQuotient digits (Nat.pow 10 exponent.natAbs)

/-- The number of a sign and the bits of a magnitude. -/
def ofMagnitude (negative : Bool) (magnitude : Nat) : Binary64 :=
  ⟨UInt64.ofNat ((if negative then 0x8000000000000000 else 0) + magnitude)⟩

/-- The double nearest to `± digits * 10 ^ exponent`, an infinity when the value is out of
range. -/
def ofDecimal (negative : Bool) (digits : Nat) (exponent : Int) : Binary64 :=
  ofMagnitude negative (ofDigits digits exponent)

def ofNat (value : Nat) : Binary64 := ofDecimal false value 0

def powerOfTen (exponent : Nat) : Binary64 := ofDecimal false 1 exponent

def negate (x : Binary64) : Binary64 := ⟨x.bits ^^^ 0x8000000000000000⟩

/-- The magnitude of a finite number as a numerator and a denominator. -/
def ratio (x : Binary64) : Nat × Nat :=
  if 0 ≤ x.exponent then (x.significand <<< x.exponent.natAbs, 1)
  else (x.significand, 1 <<< x.exponent.natAbs)

/-- The product of two finite numbers. -/
def times (x y : Binary64) : Binary64 :=
  ofMagnitude (x.isNegative != y.isNegative)
    (ofQuotient (x.ratio.1 * y.ratio.1) (x.ratio.2 * y.ratio.2))

/-- The quotient of two finite numbers, the second of which is not zero. -/
def dividedBy (x y : Binary64) : Binary64 :=
  ofMagnitude (x.isNegative != y.isNegative)
    (ofQuotient (x.ratio.1 * y.ratio.2) (x.ratio.2 * y.ratio.1))

theorem same_comm (x y : Binary64) : x.same y = y.same x := by
  unfold same
  rw [Bool.and_comm (!x.isNaN), Bool.and_comm x.isZero, BEq.comm (a := x.bits)]

end Binary64

end Rollout
