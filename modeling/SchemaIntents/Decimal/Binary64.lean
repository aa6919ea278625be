/-!
Binary64 numbers as their 64-bit words, with exact conversions in natural numbers: a finite number
is a sign and `significand * 2 ^ exponent`, and a ratio goes to the nearest number, ties to the even
significand.
-/
namespace SchemaIntents

/-- A binary64 number, kept as its word. -/
structure Binary64 where
  bits : UInt64
  deriving DecidableEq, Repr, Inhabited

namespace Binary64

variable (x : Binary64)

/-- Whether the sign bit is set. -/
def negative : Bool :=
  Nat.pow 2 63 ≤ x.bits.toNat

/-- The eleven exponent bits. -/
def exponentField : Nat :=
  x.bits.toNat / Nat.pow 2 52 % Nat.pow 2 11

/-- The fifty-two fraction bits. -/
def fraction : Nat :=
  x.bits.toNat % Nat.pow 2 52

def isFinite : Bool :=
  x.exponentField != 2047

def isNaN : Bool :=
  x.exponentField == 2047 && x.fraction != 0

def isInfinite : Bool :=
  x.exponentField == 2047 && x.fraction == 0

/-- The significand of a finite number. -/
def significand : Nat :=
  if x.exponentField = 0 then x.fraction else Nat.pow 2 52 + x.fraction

/-- The power of two that a finite number's significand is scaled by. -/
def exponent : Int :=
  if x.exponentField = 0 then -1074 else (x.exponentField : Int) - 1075

/-- Zero of either sign. -/
def isZero : Bool :=
  x.isFinite && x.significand == 0

/-- Sets the sign bit on the word of a magnitude. -/
def ofMagnitude (negative : Bool) (word : Nat) : Binary64 :=
  ⟨UInt64.ofNat (word + if negative then Nat.pow 2 63 else 0)⟩

def infinity (negative : Bool) : Binary64 :=
  ofMagnitude negative (2047 * Nat.pow 2 52)

def nan : Binary64 :=
  ofMagnitude false (2047 * Nat.pow 2 52 + Nat.pow 2 51)

/-- One of many words that all stand for no number; each number gives another one. -/
def nanNumbered (n : Nat) : Binary64 :=
  ofMagnitude false (2047 * Nat.pow 2 52 + Nat.pow 2 51 + 1 + n % Nat.pow 2 50)

/-- The number of the other sign. -/
def negate : Binary64 :=
  ⟨x.bits ^^^ 0x8000000000000000⟩

/-- The nearest whole number to `num / den`, a half going to the even neighbour. -/
def roundDiv (num den : Nat) : Nat :=
  let floor := num / den
  let twice := 2 * (num % den)
  if twice < den then floor
  else if den < twice then floor + 1
  else floor + floor % 2

/-- `num / den * 2 ^ -q` as a pair of numerator and denominator. -/
def unscale (num den : Nat) (q : Int) : Nat × Nat :=
  if 0 ≤ q then (num, den * Nat.pow 2 q.toNat) else (num * Nat.pow 2 (-q).toNat, den)

/-- The exponent at which `num / den` has a significand of fifty-three bits, or the least one. -/
def fittingExponent (num den : Nat) : Int :=
  let e : Int := (num.log2 : Int) - den.log2
  let (n, d) := unscale num den e
  max (if n < d then e - 53 else e - 52) (-1074)

/-- The number nearest to `num / den`. A significand that rounds up to the next power of two
carries into the exponent bits. -/
def ofRatio (negative : Bool) (num den : Nat) : Binary64 :=
  if num = 0 then ofMagnitude negative 0
  else
    let q := fittingExponent num den
    let (n, d) := unscale num den q
    let word := (q + 1074).toNat * Nat.pow 2 52 + roundDiv n d
    if 2047 * Nat.pow 2 52 ≤ word then infinity negative else ofMagnitude negative word

/-- How many decimal digits a number has. -/
def digitCount (n : Nat) : Nat :=
  (Nat.toDigits 10 n).length

/-- The number nearest to `digits * 10 ^ power`. Powers far outside the range are settled by the
count of digits alone. -/
def ofDecimal (negative : Bool) (digits : Nat) (power : Int) : Binary64 :=
  let magnitude := (digitCount digits : Int) + power
  if digits = 0 ∨ magnitude < -330 then ofMagnitude negative 0
  else if 310 < magnitude then infinity negative
  else if 0 ≤ power then ofRatio negative (digits * Nat.pow 10 power.toNat) 1
  else ofRatio negative digits (Nat.pow 10 (-power).toNat)

/-- The number nearest to a whole number. -/
def ofInt (n : Int) : Binary64 :=
  ofRatio (n < 0) n.natAbs 1

/-- The whole number that a number equals, if it is finite and whole. -/
def toInt? : Option Int :=
  if !x.isFinite then none
  else
    let (n, d) := unscale x.significand 1 (-x.exponent)
    if n % d = 0 then
      some (if x.negative then -((n / d : Nat) : Int) else ((n / d : Nat) : Int))
    else none

/-- Compares a number with a whole number, exactly; nothing compares with NaN. -/
def compareInt? (n : Int) : Option Ordering :=
  if x.isNaN then none
  else if x.isInfinite then some (if x.negative then .lt else .gt)
  else
    let (m, d) := unscale x.significand 1 (-x.exponent)
    some (compare (if x.negative then -(m : Int) else (m : Int)) (n * d))

/-- A whole number that grows with the number, the same for both zeros. -/
def rank : Int :=
  let size := x.bits.toNat % Nat.pow 2 63
  if x.negative then -(size : Int) else (size : Int)

/-- Whether a number is less than another; nothing compares with NaN. -/
def isBelow (y : Binary64) : Bool :=
  !x.isNaN && !y.isNaN && x.rank < y.rank

end Binary64
end SchemaIntents
