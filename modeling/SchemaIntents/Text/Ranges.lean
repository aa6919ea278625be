/-!
Sets and shifts of code points, given as closed ranges in increasing order.
-/
namespace SchemaIntents.Text

/-- Whether a character lies in one of the closed ranges. -/
def inRanges (ranges : List (Nat × Nat)) (c : Char) : Bool :=
  ranges.any fun r => r.1 ≤ c.toNat && c.toNat ≤ r.2

/-- Every `step`-th code point from `first` to `last`, each moved by `shift`. -/
structure Run where
  first : Nat
  last : Nat
  step : Nat
  shift : Int

namespace Run

/-- Whether the run moves the character. -/
def covers (r : Run) (c : Char) : Bool :=
  r.first ≤ c.toNat && c.toNat ≤ r.last && (c.toNat - r.first) % r.step == 0

/-- The character that the first covering run puts in the place of `c`. -/
def moved? (runs : List Run) (c : Char) : Option Char :=
  (runs.find? (·.covers c)).map fun r => Char.ofNat ((c.toNat : Int) + r.shift).toNat

end Run
end SchemaIntents.Text
