import SchemaIntents.Decimal.Binary64

/-!
The shortest decimal of a binary64 number: of all decimals that read back as the number, one with
the fewest digits, and of those the nearest to it.
-/
namespace SchemaIntents.Binary64

/-- `digits * 10 ^ power`, with no zero at the end of `digits`. -/
structure Decimal where
  digits : Nat
  power : Int
  deriving DecidableEq, Repr

/-- The reals that round to a number, as numerators over one denominator. -/
structure Interval where
  low : Nat
  value : Nat
  high : Nat
  den : Nat
  closed : Bool

/-- The rounding interval of a finite number above zero. Its lower half is narrower when the
significand is the least of its exponent; its ends belong to it when the significand is even. -/
def interval (x : Binary64) : Interval :=
  let m := x.significand
  let narrow := x.fraction = 0 ∧ 1 < x.exponentField
  let scale := Nat.pow 2 (x.exponent - 2).toNat
  { low := (4 * m - if narrow then 1 else 2) * scale
    value := 4 * m * scale
    high := (4 * m + 2) * scale
    den := Nat.pow 2 (2 - x.exponent).toNat
    closed := m % 2 = 0 }

namespace Interval

variable (i : Interval)

/-- The interval measured in steps of `10 ^ power`. -/
def inSteps (power : Int) : Interval :=
  let up := Nat.pow 10 (-power).toNat
  { i with
    low := i.low * up
    value := i.value * up
    high := i.high * up
    den := i.den * Nat.pow 10 power.toNat }

/-- Whether a whole number of steps lies in the interval. -/
def holds (k : Nat) : Bool :=
  if i.closed then i.low ≤ k * i.den && k * i.den ≤ i.high
  else i.low < k * i.den && k * i.den < i.high

/-- The neighbour of the value on the grid that lies in the interval, the nearer one if both do,
the even one if both are equally near. -/
def gridPoint? : Option Nat :=
  let k := i.value / i.den
  let below := i.value - k * i.den
  let above := (k + 1) * i.den - i.value
  match i.holds k, i.holds (k + 1) with
  | false, false => none
  | true, false => some k
  | false, true => some (k + 1)
  | true, true =>
    some (if below < above then k else if above < below then k + 1 else k + k % 2)

/-- The power of ten of the value's first digit. -/
def firstPower : Int :=
  let bits : Int := (i.value.log2 : Int) - i.den.log2
  let guess := bits * 30103 / 100000
  let reaches (p : Int) : Bool := i.den * Nat.pow 10 p.toNat ≤ i.value * Nat.pow 10 (-p).toNat
  if reaches (guess + 1) then guess + 1
  else if reaches guess then guess
  else guess - 1

/-- The first grid point found on grids of more and more digits. -/
def search (i : Interval) (first : Int) : Nat → Nat → Option (Nat × Int)
  | 0, _ => none
  | tries + 1, digits =>
    let power := first - digits
    match (i.inSteps power).gridPoint? with
    | some k => some (k, power)
    | none => search i first tries (digits + 1)

end Interval

/-- Moves zeros at the end of the digits into the power. -/
def stripZeros : Nat → Nat → Int → Decimal
  | 0, digits, power => ⟨digits, power⟩
  | fuel + 1, digits, power =>
    if digits % 10 = 0 ∧ digits ≠ 0 then stripZeros fuel (digits / 10) (power + 1)
    else ⟨digits, power⟩

/-- The shortest decimal of the magnitude of a finite number. Seventeen digits always suffice. -/
def shortest (x : Binary64) : Decimal :=
  if x.significand = 0 then ⟨0, 0⟩
  else
    let i := x.interval
    match i.search i.firstPower 17 0 with
    | some (k, power) => stripZeros 20 k power
    | none => ⟨0, 0⟩

end SchemaIntents.Binary64
