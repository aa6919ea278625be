/-!
Texts and the strings that hold them. Among the code points of a text may be halves of pairs
(surrogates), which are no characters. In a string two characters are marks: after `halfMark` stands
the sign of a half, after `ownMark` that of a mark which the text has itself. All other characters
stand for themselves, so that strings are put together, searched and ordered as the texts are that
they hold.
-/
namespace SchemaIntents.Text

/-- A code point of a text: a character, or half of a pair. -/
inductive Point where
  | char (c : Char)
  | half (h : Fin 2048)
  deriving DecidableEq, Repr

/-- The mark of a half. The code points above it come after all halves. -/
def halfMark : Char :=
  '\uE000'

/-- The mark of a mark. -/
def ownMark : Char :=
  '\uE001'

def isMark (c : Char) : Bool :=
  c == halfMark || c == ownMark

/-- The sign that stands for a number after a mark. That of 0 has a number that 2048 divides. -/
def sign (n : Nat) : Char :=
  Char.ofNat (0xF0000 + n)

namespace Point

/-- The code point of a number. The first half has a number that 2048 divides. -/
def ofNat (n : Nat) : Point :=
  if 0xD800 ≤ n ∧ n < 0xE000 then half (Fin.ofNat 2048 n) else char (Char.ofNat n)

/-- The characters that hold a code point. -/
def held : Point → List Char
  | char c => if isMark c then [ownMark, sign (if c = halfMark then 0 else 1)] else [c]
  | half h => [halfMark, sign h]

/-- The code point that a mark and a sign hold. -/
def ofPair? (mark s : Char) : Option Point :=
  let h := Fin.ofNat 2048 s.toNat
  if s ≠ sign h then none
  else if mark = halfMark then some (half h)
  else if mark = ownMark ∧ h < 2 then some (char (if h = 0 then halfMark else ownMark))
  else none

/-- The character that a code point is. -/
def char? : Point → Option Char
  | char c => some c
  | half _ => none

end Point

/-- The code points of a text. -/
def points : List Char → List Point
  | [] => []
  | [c] => [.char c]
  | c :: s :: rest =>
    match Point.ofPair? c s with
    | some p => p :: points rest
    | none => .char c :: points (s :: rest)

/-- The characters that hold a text without halves. -/
def hold (cs : List Char) : List Char :=
  cs.flatMap fun c => (Point.char c).held

/-- The characters of a text, with the replacement character for each half. -/
def release (cs : List Char) : List Char :=
  (points cs).map fun p => p.char?.getD '\uFFFD'

/-- The characters of a text without halves. -/
def release? (cs : List Char) : Option (List Char) :=
  if hold (release cs) = cs then some (release cs) else none

/-- Whether a text has a half. -/
def isTorn (s : String) : Bool :=
  s.toList.contains halfMark

/-- How many code points a text has. -/
def size (cs : List Char) : Nat :=
  (points cs).length

/-- The code points of a text, each as a text. -/
def letters (s : String) : List String :=
  (points s.toList).map fun p => String.ofList p.held

/-- Characters with three replacement characters for each mark of a half and its sign. -/
def mendedFrom (marked : Bool) : List Char → List Char
  | [] => []
  | c :: rest =>
    if marked then mendedFrom false rest
    else if c = halfMark then '\uFFFD' :: '\uFFFD' :: '\uFFFD' :: mendedFrom true rest
    else c :: mendedFrom false rest

/-- A text with three replacement characters for each half. -/
def mended (s : String) : String :=
  String.ofList (mendedFrom false s.toList)

end SchemaIntents.Text
