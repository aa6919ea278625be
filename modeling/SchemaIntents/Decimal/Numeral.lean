import SchemaIntents.Decimal.Shortest

/-!
Numbers as texts: how a number is written, and how decimal numerals are read.
-/
namespace SchemaIntents

/-- The decimal digits of a natural number, padded with zeros on the left. -/
def padded (width n : Nat) : String :=
  let ds := Nat.toDigits 10 n
  String.ofList (List.replicate (width - ds.length) '0' ++ ds)

namespace Binary64

/-- Where a written number turns from positional to exponent form: decimal exponents from `least`
up to but not including `limit` are written out. The exponent has a sign and at least
`exponentWidth` digits. -/
structure Style where
  least : Int
  limit : Int
  exponentWidth : Nat

/-- The style of every number the library writes. -/
def style : Style :=
  ⟨-4, 16, 2⟩

/-- The digits with a point after the first `whole` of them; there is always a digit on either side
of the point. -/
def positional (digits : List Char) (whole : Int) : List Char :=
  if whole ≤ 0 then '0' :: '.' :: (List.replicate (-whole).toNat '0' ++ digits)
  else
    let n := whole.toNat
    if digits.length ≤ n then digits ++ List.replicate (n - digits.length) '0' ++ ['.', '0']
    else digits.take n ++ '.' :: digits.drop n

/-- A decimal in exponent form: a point only if there is more than one digit. -/
def exponential (digits : List Char) (exponent : Int) : List Char :=
  let lead := match digits with
    | [] => ['0']
    | [d] => [d]
    | d :: ds => d :: '.' :: ds
  let sign := if exponent < 0 then '-' else '+'
  lead ++ 'e' :: sign :: (padded style.exponentWidth exponent.natAbs).toList

/-- The text of a finite number: its shortest decimal in the library's style. -/
def finiteText (x : Binary64) : String :=
  let d := x.shortest
  let digits := Nat.toDigits 10 d.digits
  let exponent := d.power + digits.length - 1
  let body :=
    if style.least ≤ exponent ∧ exponent < style.limit then positional digits (exponent + 1)
    else exponential digits exponent
  String.ofList (if x.negative then '-' :: body else body)

/-- The text of a number, given the words for infinity and for no number. -/
def text (infinityWord nanWord : String) (x : Binary64) : String :=
  if x.isNaN then nanWord
  else if x.isInfinite then (if x.negative then "-" ++ infinityWord else infinityWord)
  else x.finiteText

end Binary64

namespace Numeral

/-- The value of an ASCII digit. -/
def digit? (c : Char) : Option Nat :=
  if c.isDigit then some (c.toNat - '0'.toNat) else none

/-- The natural number that digits of a base spell; letters stand for ten and up. -/
def ofDigits (base : Nat) (cs : List Char) : Nat :=
  cs.foldl (fun n c =>
    let d := if c.isDigit then c.toNat - 48 else if c.isLower then c.toNat - 87 else c.toNat - 55
    n * base + d) 0

/-- A numeral in parts: sign, digits before and after the point, exponent. -/
structure Parts where
  negative : Bool
  whole : List Char
  fraction : List Char
  exponent : Int

/-- The number nearest to a numeral. -/
def Parts.toBinary64 (p : Parts) : Binary64 :=
  .ofDecimal p.negative (ofDigits 10 (p.whole ++ p.fraction)) (p.exponent - p.fraction.length)

/-- A sign and the text after it. -/
def sign : List Char → Bool × List Char
  | '-' :: cs => (true, cs)
  | '+' :: cs => (false, cs)
  | cs => (false, cs)

/-- The digits that open a text, and the rest. -/
def digits (cs : List Char) : List Char × List Char :=
  (cs.takeWhile Char.isDigit, cs.dropWhile Char.isDigit)

/-- An exponent mark with its number, or no exponent; `none` if the mark has no digits. -/
def exponent? : List Char → Option (Int × List Char)
  | [] => some (0, [])
  | c :: cs =>
    if c = 'e' ∨ c = 'E' then
      let (negative, rest) := sign cs
      let (ds, rest) := digits rest
      if ds.isEmpty then none
      else
        let n : Int := ofDigits 10 ds
        some (if negative then -n else n, rest)
    else some (0, c :: cs)

/-- The parts of a numeral that takes up the whole text: optional sign, digits with an optional
point and at least one digit on one side of it, optional exponent. -/
def parts? (cs : List Char) : Option Parts := do
  let (negative, rest) := sign cs
  let (whole, rest) := digits rest
  let (fraction, rest) := match rest with
    | '.' :: more => digits more
    | _ => ([], rest)
  if whole.isEmpty && fraction.isEmpty then none
  let (exponent, rest) ← exponent? rest
  if rest.isEmpty then some ⟨negative, whole, fraction, exponent⟩ else none

end Numeral
end SchemaIntents
