import SchemaIntents.Text.Point
import SchemaIntents.Text.Printable

/-!
Quoted texts as messages show them: in single quotes unless only double quotes avoid an escape,
with escapes for backslash, quote, line and tab controls and all that is not printable.
-/
namespace SchemaIntents.Text.Quoted

/-- The hexadecimal digits of a number, padded with zeros on the left. -/
def hex (width n : Nat) : List Char :=
  let ds := Nat.toDigits 16 n
  List.replicate (width - ds.length) '0' ++ ds

/-- Double quotes are used when the text holds a single quote and no double quote. -/
def quoteFor (cs : List Char) : Char :=
  if cs.contains '\'' && !cs.contains '"' then '"' else '\''

/-- A character by its number, in as many hexadecimal digits as it needs. -/
def escapeCode (c : Char) : List Char :=
  if c.toNat < 0x100 then '\\' :: 'x' :: hex 2 c.toNat
  else if c.toNat < 0x10000 then '\\' :: 'u' :: hex 4 c.toNat
  else '\\' :: 'U' :: hex 8 c.toNat

/-- One character inside the quotes. -/
def escape (quote c : Char) : List Char :=
  if c = '\\' ∨ c = quote then ['\\', c]
  else if c = '\n' then ['\\', 'n']
  else if c = '\r' then ['\\', 'r']
  else if c = '\t' then ['\\', 't']
  else if isPrintable c then [c]
  else escapeCode c

/-- Half of a pair by its number. -/
def escapeHalf (h : Fin 2048) : List Char :=
  '\\' :: 'u' :: hex 4 (0xD800 + h)

/-- One code point inside the quotes. -/
def escapePoint (quote : Char) : Point → List Char
  | .char c => escape quote c
  | .half h => escapeHalf h

/-- A text with its halves of pairs written by their numbers. -/
def withoutHalves (s : String) : String :=
  String.ofList <| (points s.toList).flatMap fun
    | .char c => (Point.char c).held
    | .half h => escapeHalf h

/-- A text in quotes. -/
def encode (s : String) : String :=
  let cs := s.toList
  let quote := quoteFor cs
  String.ofList (quote :: (points cs).flatMap (escapePoint quote) ++ [quote])

/-- A text in quotes with all but ASCII escaped. -/
def encodeAscii (s : String) : String :=
  String.ofList ((encode s).toList.flatMap fun c => if c.toNat < 0x80 then [c] else escapeCode c)

end SchemaIntents.Text.Quoted
