import SchemaIntents.Decimal.Numeral
import SchemaIntents.Text.Quoted

/-!
Forms in which log lines show the fields of records: as text, in quotes, as a character, or as a
number in some notation, each with a least width.
-/
namespace SchemaIntents.Log

/-- What a field of a record holds: a text, a number, or a word that stands for nothing. -/
inductive FieldValue where
  | text (s : String)
  | number (n : Nat)
  | word (s : String)
  deriving DecidableEq, Repr

/-- The form of a field: its letter, its flags, its least width, and its precision. -/
structure Form where
  letter : Char
  flags : List Char := []
  width : Nat := 0
  precision : Option Nat := none
  deriving DecidableEq, Repr

namespace Form

/-- The letters of forms. -/
def letters : List Char :=
  "diouxXeEfFgGcrsa".toList

/-- The greatest width that a line can be given. -/
def widthLimit : Nat :=
  10000000

/-- The greatest precision that a form may have. -/
def precisionLimit : Nat :=
  Nat.pow 2 31 - 1

/-- Characters made as long as a width, on the right of it unless they are to stand on the left. -/
def filled (left : Bool) (width : Nat) (cs : List Char) : List Char :=
  let gap := List.replicate (width - Text.size cs) ' '
  if left then cs ++ gap else gap ++ cs

/-- A sign and digits made as long as a width; zeros go between them, blanks around both. -/
def aligned (f : Form) (sign digits : List Char) : List Char :=
  if f.flags.contains '0' && !f.flags.contains '-' then
    sign ++ List.replicate (f.width - sign.length - digits.length) '0' ++ digits
  else filled (f.flags.contains '-') f.width (sign ++ digits)

/-- The sign of a number that is not negative. -/
def sign (f : Form) : List Char :=
  if f.flags.contains '+' then ['+'] else if f.flags.contains ' ' then [' '] else []

/-- The base of the digits of a whole number and the letters in front of them. -/
def baseOf? (letter : Char) : Option (Nat × List Char) :=
  match letter with
  | 'd' => some (10, [])
  | 'i' => some (10, [])
  | 'u' => some (10, [])
  | 'o' => some (8, ['0', 'o'])
  | 'x' => some (16, ['0', 'x'])
  | 'X' => some (16, ['0', 'X'])
  | _ => none

/-- A whole number in digits, at least as many as the precision asks for. -/
def whole (f : Form) (base : Nat) (mark : List Char) (n : Nat) : List Char :=
  let ds := Nat.toDigits base n
  let ds := if f.letter = 'X' then ds.map Char.toUpper else ds
  let ds := List.replicate ((f.precision.getD 0) - ds.length) '0' ++ ds
  f.aligned (f.sign ++ if f.flags.contains '#' then mark else []) ds

/-- The point before the places after it; none before no places unless the flags ask for it. -/
def point (f : Form) (places : List Char) : List Char :=
  if places.isEmpty && !f.flags.contains '#' then [] else '.' :: places

/-- The first digit of a number, a count of places after it, and its exponent. -/
def scientific (n places : Nat) : Char × List Char × Nat :=
  let exponent := (Nat.toDigits 10 n).length - 1
  let scaled := if places < exponent then Binary64.roundDiv n (Nat.pow 10 (exponent - places))
    else n * Nat.pow 10 (places - exponent)
  let ds := Nat.toDigits 10 scaled
  (ds.headD '0', (ds.drop 1 ++ List.replicate places '0').take places,
    exponent + (ds.length - 1 - places))

/-- Places without the zeros at their end, which stay if the flags ask for it. -/
def trimmed (f : Form) (places : List Char) : List Char :=
  if f.flags.contains '#' then places else (places.reverse.dropWhile (· == '0')).reverse

/-- A number with places after the point, with an exponent, or in the shorter of both ways. -/
def real (f : Form) (n : Nat) : List Char :=
  let upper := f.letter.isUpper
  let power (e : Nat) : List Char := (if upper then 'E' else 'e') :: '+' :: (padded 2 e).toList
  let places := f.precision.getD 6
  let body := match f.letter.toLower with
    | 'f' => Nat.toDigits 10 n ++ f.point (List.replicate places '0')
    | 'e' =>
      let (d, ds, e) := scientific n places
      d :: f.point ds ++ power e
    | _ =>
      let (d, ds, e) := scientific n (max 1 places - 1)
      if e < max 1 places then d :: ds.take e ++ f.point (f.trimmed (ds.drop e))
      else d :: f.point (f.trimmed ds) ++ power e
  f.aligned f.sign body

/-- A text as long as the precision lets it be, in its width. -/
def cut (f : Form) (cs : List Char) : List Char :=
  let most (n : Nat) := ((Text.points cs).take n).flatMap Text.Point.held
  filled (f.flags.contains '-') f.width ((f.precision.map most).getD cs)

/-- A value in a form that shows texts. -/
def plain (quote : String → String) : FieldValue → List Char
  | .text s => (quote s).toList
  | .number n => Nat.toDigits 10 n
  | .word s => s.toList

/-- The one code point that a value stands for. -/
def point? : FieldValue → Option Text.Point
  | .text s =>
    match Text.points s.toList with
    | [p] => some p
    | _ => none
  | .number n => if n < 0x110000 then some (.ofNat n) else none
  | .word _ => none

/-- A value in a form; none if it has no such form. -/
def show? (f : Form) (v : FieldValue) : Option (List Char) :=
  if widthLimit < f.width || precisionLimit < f.precision.getD 0 then none
  else match f.letter with
    | 's' => some (f.cut (plain id v))
    | 'r' => some (f.cut (plain Text.Quoted.encode v))
    | 'a' => some (f.cut (plain Text.Quoted.encodeAscii v))
    | 'c' => (point? v).map fun p => filled (f.flags.contains '-') f.width p.held
    | letter =>
      match v with
      | .number n =>
        if widthLimit < f.precision.getD 0 then none
        else match baseOf? letter with
          | some (base, mark) => some (f.whole base mark n)
          | none => some (f.real n)
      | _ => none

end Form
end SchemaIntents.Log
