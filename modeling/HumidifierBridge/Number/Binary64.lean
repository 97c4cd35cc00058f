/-!
# Double precision numbers

A `Binary64` is the 64-bit pattern of a double. Rounding goes through exact fractions: `ofRatio`
gives the double nearest to a fraction, ties to the even neighbour, and every other way of making a
number ends there. Equality of values is that of the format: a NaN differs from everything, itself
included, and the two zeros are equal.

Arithmetic is defined on finite operands only, which is all that reading decimal text needs.
-/

namespace HumidifierBridge

/-- A double precision number, as its bit pattern. -/
structure Binary64 where
  bits : UInt64
  deriving DecidableEq, Inhabited

namespace Binary64

/-- Positive zero. -/
def zero : Binary64 := ⟨0⟩

/-- One. -/
def one : Binary64 := ⟨0x3FF0000000000000⟩

/-- The pattern of positive infinity, the least magnitude that is not finite. -/
def infinityPattern : Nat := 0x7FF0000000000000

/-- The pattern of the usual NaN. -/
def quietPattern : Nat := 0x7FF8000000000000

/-- The pattern of negative zero, whose only bit is the sign. -/
def signBit : Nat := 0x8000000000000000

/-- The pattern of the least normal number. It is also what the leading bit of the significand of a
normal number counts for, a bit that the pattern leaves out. -/
def leadingBit : Nat := 0x0010000000000000

/-- Negative sign, that of a negative zero included. -/
def isNegative (x : Binary64) : Bool := signBit ≤ x.bits.toNat

/-- The pattern without its sign; it grows with the absolute value. -/
def magnitude (x : Binary64) : Nat := x.bits.toNat % signBit

/-- Not a number. -/
def isNaN (x : Binary64) : Bool := infinityPattern < x.magnitude

/-- An infinity of either sign. -/
def isInfinite (x : Binary64) : Bool := x.magnitude = infinityPattern

/-- Equality of the numbers that two patterns stand for. -/
def sameValue (x y : Binary64) : Bool :=
  !x.isNaN && !y.isNaN && (x.bits == y.bits || (x.magnitude == 0 && y.magnitude == 0))

/-- The integer significand of a finite number. -/
def significand (x : Binary64) : Nat :=
  if x.magnitude < leadingBit then x.magnitude else x.magnitude % leadingBit + leadingBit

/-- The power of two that scales the significand of a finite number. -/
def exponent (x : Binary64) : Int :=
  if x.magnitude < leadingBit then -1074 else (x.magnitude / leadingBit : Nat) - 1075

/-- The quotient of two naturals, rounded to the nearest integer, ties to even. -/
def roundDiv (num den : Nat) : Nat :=
  let q := num / den
  let r := num % den
  if 2 * r > den ∨ (2 * r = den ∧ q % 2 = 1) then q + 1 else q

/-- The greatest `l` with `2 ^ l ≤ num / den`, for positive arguments. -/
def floorLog2 (num den : Nat) : Int :=
  let l : Int := (Nat.log2 num : Int) - Nat.log2 den
  if num <<< (-l).toNat < den <<< l.toNat then l - 1 else l

/-- The magnitude pattern nearest to `num / den`, infinity where that is too large. -/
def roundRatio (num den : Nat) : Nat :=
  if num = 0 then 0
  else
    let e := max (floorLog2 num den - 52) (-1074)
    let q := roundDiv (num <<< (-e).toNat) (den <<< e.toNat)
    min ((e + 1074).toNat * leadingBit + q) infinityPattern

/-- A number from its sign and its magnitude pattern. -/
def ofMagnitude (negative : Bool) (pattern : Nat) : Binary64 :=
  ⟨UInt64.ofNat (if negative then signBit + pattern else pattern)⟩

/-- The double nearest to the fraction `num / den` with the given sign. -/
def ofRatio (negative : Bool) (num den : Nat) : Binary64 :=
  ofMagnitude negative (roundRatio num den)

/-- The double nearest to an integer. -/
def ofInt (n : Int) : Binary64 := ofRatio (n < 0) n.natAbs 1

/-- The double nearest to `digits * 10 ^ exponent` with the given sign. Far outside the range of
the format the answer is infinity or zero without the power being computed. -/
def ofDecimal (negative : Bool) (digits : Nat) (exponent : Int) : Binary64 :=
  let size : Int := (Nat.toDigits 10 digits).length + exponent
  if digits = 0 ∨ size < -330 then ofMagnitude negative 0
  else if size > 310 then ofMagnitude negative infinityPattern
  else ofRatio negative (digits * Nat.pow 10 exponent.toNat) (Nat.pow 10 (-exponent).toNat)

/-- The rounded product of two finite numbers. -/
def mul (x y : Binary64) : Binary64 :=
  let e := x.exponent + y.exponent
  ofRatio (x.isNegative != y.isNegative)
    ((x.significand * y.significand) <<< e.toNat) (1 <<< (-e).toNat)

/-- The rounded quotient of two finite numbers, the second not zero. -/
def div (x y : Binary64) : Binary64 :=
  let e := x.exponent - y.exponent
  ofRatio (x.isNegative != y.isNegative)
    (x.significand <<< e.toNat) (y.significand <<< (-e).toNat)

/-- The number with the opposite sign. -/
def neg (x : Binary64) : Binary64 := ofMagnitude (!x.isNegative) x.magnitude

/-- An integer brought into the range of the signed 64-bit integers. -/
def clampInt64 (n : Int) : Int := max (-9223372036854775808) (min n 9223372036854775807)

/-- The integer part, clamped to the signed 64-bit integers; zero for a NaN. -/
def toInt64 (x : Binary64) : Int :=
  if x.isNaN then 0
  else
    let whole := if x.isInfinite then UInt64.size
      else (x.significand <<< x.exponent.toNat) >>> (-x.exponent).toNat
    clampInt64 (if x.isNegative then -(whole : Int) else whole)

end Binary64

end HumidifierBridge
