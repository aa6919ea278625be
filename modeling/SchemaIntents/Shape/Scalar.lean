import SchemaIntents.Shape.Issue
import SchemaIntents.Text.Blank
import SchemaIntents.Text.Casing
import SchemaIntents.Text.Utf8

/-!
Reading scalars leniently: truth values, whole numbers and real numbers may also be written in a
few other ways. Texts are never made from anything else but bytes.
-/
namespace SchemaIntents.Scalar

open Text

/-- The words for truth values, in any case. -/
def flagWords : List (String × Bool) := [
  ("0", false), ("off", false), ("f", false), ("false", false), ("n", false), ("no", false),
  ("1", true), ("on", true), ("t", true), ("true", true), ("y", true), ("yes", true)]

/-- A truth value from a whole number: only 0 and 1 count. -/
def flagOfInt (n : Int) : Except Cause Bool :=
  if n = 0 then .ok false else if n = 1 then .ok true else .error .unreadableFlag

/-- A truth value from a word. -/
def flagOfWord (s : String) : Except Cause Bool :=
  match flagWords.lookup (String.ofList (s.toList.map Char.toLower)) with
  | some b => .ok b
  | none => .error .unreadableFlag

/-- Numbers up to this size are machine words. -/
def wordLimit : Int :=
  Nat.pow 2 63

/-- The whole number that a number of machine size equals. -/
def machineInt? (x : Binary64) : Option Int :=
  match x.toInt? with
  | some n => if -wordLimit < n ∧ n < wordLimit then some n else none
  | none => none

/-- The text that bytes encode. -/
def textOfBytes (bs : List UInt8) (otherwise : Cause) : Except Cause String :=
  match Utf8.read bs with
  | .ok cs => .ok (String.ofList cs)
  | .error _ => .error otherwise

/-- A text that is read as something else. Halves of pairs do not allow that. -/
def untorn (s : String) : Except Cause String :=
  if isTorn s then .error .undecodableText else .ok s

def readText : Value → Except Cause String
  | .str s => .ok s
  | .bytes bs => textOfBytes bs .undecodableText
  | _ => .error .notText

def readFlag : Value → Except Cause Bool
  | .bool b => .ok b
  | .int n => if -wordLimit ≤ n ∧ n < wordLimit then flagOfInt n else .error .notFlag
  | .float x => match machineInt? x with
    | some n => flagOfInt n
    | none => .error .notFlag
  | .str s => do flagOfWord (← untorn s)
  | .bytes bs => do flagOfWord (← textOfBytes bs .unreadableFlag)
  | _ => .error .notFlag

/-- Drops the part after a point if it is one or more zeros. -/
def dropZeroFraction (cs : List Char) : List Char :=
  match cs.dropWhile (· != '.') with
  | '.' :: z :: zeros =>
    if (z :: zeros).all (· == '0') then cs.takeWhile (· != '.') else cs
  | _ => cs

/-- The text without underscores, if each stands between two other characters. -/
def dropUnderscores? : List Char → Option (List Char)
  | [] => some []
  | ['_'] => none
  | '_' :: '_' :: _ => none
  | '_' :: rest => dropUnderscores? rest
  | c :: rest => (dropUnderscores? rest).map (c :: ·)

/-- What follows zeros and underscores at the front of a number: digits or a sign. The last
character before a point or the end stays; `last` is the one before the text. -/
def afterZeros? (last : Char) : List Char → Option (List Char)
  | [] => some [last]
  | c :: rest =>
    if c == '0' || c == '_' then afterZeros? c rest
    else if c == '.' then some (last :: c :: rest)
    else if c.isDigit || c == '-' then some (c :: rest)
    else none

/-- A number without the zeros at its front; it has to start with a digit. -/
def dropLeadingZeros? : List Char → Option (List Char)
  | '0' :: rest => afterZeros? '0' rest
  | c :: rest => if c.isDigit then some (c :: rest) else none
  | [] => none

/-- A number without a plus sign and the zeros at its front. -/
def dropFront? : List Char → Option (List Char)
  | '+' :: rest => dropLeadingZeros? rest
  | '-' :: rest => (dropLeadingZeros? rest).map ('-' :: ·)
  | cs => dropLeadingZeros? cs

/-- A whole number in a lenient spelling brought into the plain one: blanks around it, a plus sign,
zeros at its front, a fraction of zeros and underscores between digits are dropped. -/
def plainSpelling? (cs : List Char) : Option (List Char) := do
  let body ← dropFront? (trimWith isWhiteSpace cs)
  match dropZeroFraction body with
  | '_' :: _ => none
  | body => dropUnderscores? body

/-- The most digits that a whole number in a text may have. The limit is that of pydantic 2.14,
where a minus sign is no digit; release 2.13 counts it too. -/
def digitLimit : Nat :=
  4300

/-- A whole number in plain spelling: an optional minus sign and digits without a zero at their
front. One that goes on for too long is told from what is no number. -/
def wholeOfPlain (cs : List Char) : Except Cause Int :=
  let (negative, ds) := match cs with
    | '-' :: rest => (true, rest)
    | cs => (false, cs)
  match ds.takeWhile Char.isDigit with
  | [] => .error .unreadableWhole
  | '0' :: _ :: _ => .error .unreadableWhole
  | run =>
    if digitLimit < run.length then .error .oversizedWhole
    else if run.length < ds.length then .error .unreadableWhole
    else
      let n : Int := Numeral.ofDigits 10 ds
      .ok (if negative then -n else n)

/-- A whole number from a text. Only one that is too long as it stands is said to be so. -/
def wholeOfText (s : String) : Except Cause Int :=
  match wholeOfPlain s.toList with
  | .error .unreadableWhole =>
    match plainSpelling? s.toList with
    | none => .error .unreadableWhole
    | some cs => (wholeOfPlain cs).mapError fun _ => .unreadableWhole
  | outcome => outcome

def readWhole : Value → Except Cause Int
  | .int n => .ok n
  | .bool b => .ok (if b then 1 else 0)
  | .float x =>
    if !x.isFinite then .error .infinite
    else match x.toInt? with
      | none => .error .fractionalWhole
      | some n => if -wordLimit < n ∧ n < wordLimit then .ok n else .error .oversizedWhole
  | .str s => do wholeOfText (← untorn s)
  | .bytes bs => do wholeOfText (← textOfBytes bs .unreadableWhole)
  | _ => .error .notWhole

/-- The words for numbers that are not finite. -/
def realWords : List (String × Binary64) := [
  ("inf", .infinity false), ("infinity", .infinity false), ("nan", .nan)]

/-- A real number from characters: a numeral, or a word for a number that is not finite. -/
def realOfChars? (cs : List Char) : Option Binary64 :=
  match Numeral.parts? cs with
  | some p => some p.toBinary64
  | none =>
    let (negative, word) := Numeral.sign cs
    match realWords.lookup (String.ofList (word.map Char.toLower)) with
    | some x => some (if negative && x.isInfinite then .infinity true else x)
    | none => none

/-- A real number from a text. -/
def realOfText (s : String) : Except Cause Binary64 :=
  match realOfChars? (trimWith isWhiteSpace s.toList) with
  | some x => .ok x
  | none =>
    let cs := s.toList
    if cs.head? == some '_' then .error .unreadableReal
    else match (dropUnderscores? cs).bind realOfChars? with
      | some x => .ok x
      | none => .error .unreadableReal

def readReal : Value → Except Cause Binary64
  | .float x => .ok x
  | .int n =>
    let x := Binary64.ofInt n
    if x.isFinite then .ok x else .error .notReal
  | .bool b => .ok (.ofInt (if b then 1 else 0))
  | .str s => do realOfText (← untorn s)
  | .bytes bs => do realOfText (← textOfBytes bs .unreadableReal)
  | _ => .error .notReal

end SchemaIntents.Scalar
