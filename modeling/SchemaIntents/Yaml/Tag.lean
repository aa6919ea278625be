import SchemaIntents.Decimal.Numeral

/-!
The types of scalars and collections: what tags name, and what plain scalars show by their form.
-/
namespace SchemaIntents.Yaml

/-- The type that a node is read as. -/
inductive Tag where
  | null
  | flag
  | whole
  | real
  | timestamp
  | text
  | binary
  | sequence
  | mapping
  | set
  | orderedMapping
  | pairs
  /-- The key that merges another mapping into its own. -/
  | merge
  /-- The key whose value stands for its mapping. -/
  | default
  | unknown
  deriving DecidableEq, Repr

namespace Tag

/-- What the tags of the standard start with. -/
def standard : String :=
  "tag:yaml.org,2002:"

/-- The tags of the standard by the words after their start. -/
def standardTags : List (String × Tag) := [
  ("null", null), ("bool", flag), ("int", whole), ("float", real), ("timestamp", timestamp),
  ("str", text), ("binary", binary), ("seq", sequence), ("map", mapping), ("set", set),
  ("omap", orderedMapping), ("pairs", pairs), ("merge", merge), ("value", default)]

/-- The type that a full tag names. -/
def ofName (name : String) : Tag :=
  match standardTags.find? fun t => standard ++ t.1 == name with
  | some (_, t) => t
  | none => unknown

/-- The words for truth values. -/
def flagWords : List (String × Bool) := [
  ("yes", true), ("no", false), ("true", true), ("false", false), ("on", true), ("off", false)]

/-- A word in small letters, with a capital at the front, or in capitals. -/
def isSpelling (word s : String) : Bool :=
  s == word || s == word.capitalize || s == word.map Char.toUpper

def isFlag (s : String) : Bool :=
  flagWords.any fun w => isSpelling w.1 s

def isNull (s : String) : Bool :=
  s == "" || s == "~" || isSpelling "null" s

def isDigitOrLine (c : Char) : Bool :=
  c.isDigit || c == '_'

/-- A text without the sign at its front. -/
def unsigned (cs : List Char) : List Char :=
  (Numeral.sign cs).2

/-- Whether a text is one or more numbers below sixty, each after a colon, and what follows them is
accepted. -/
def sixties (accept : List Char → Bool) : List Char → Bool
  | ':' :: a :: b :: rest =>
    if b.isDigit then
      (a.isDigit && a < '6') && (accept rest || sixties accept rest)
    else a.isDigit && (accept (b :: rest) || sixties accept (b :: rest))
  | [':', a] => a.isDigit && accept []
  | _ => false

/-- Whether a whole number is spelled: in base two, eight, ten or sixteen, or in sixties. -/
def isWhole (cs : List Char) : Bool :=
  match unsigned cs with
  | '0' :: 'b' :: d :: ds => (d :: ds).all fun c => c == '0' || c == '1' || c == '_'
  | '0' :: 'x' :: d :: ds => (d :: ds).all fun c =>
      c.isDigit || ('a' ≤ c && c ≤ 'f') || ('A' ≤ c && c ≤ 'F') || c == '_'
  | ['0'] => true
  | '0' :: ds => ds.all fun c => ('0' ≤ c && c ≤ '7') || c == '_'
  | d :: ds =>
    let rest := ds.dropWhile isDigitOrLine
    d.isDigit && (rest.isEmpty || sixties List.isEmpty rest)
  | [] => false

/-- Whether an exponent with a sign is spelled, or nothing. -/
def isExponent (cs : List Char) : Bool :=
  match cs with
  | [] => true
  | e :: s :: ds =>
    (e == 'e' || e == 'E') && (s == '+' || s == '-') && !ds.isEmpty && ds.all Char.isDigit
  | _ => false

/-- Whether digits with underscores are all that is left. -/
def isFraction (cs : List Char) : Bool :=
  match cs with
  | '.' :: ds => ds.all isDigitOrLine
  | _ => false

/-- Whether a real number is spelled: with a point, in sixties, or as a word after a point. -/
def isReal (cs : List Char) : Bool :=
  let word (w : String) (rest : List Char) : Bool := rest == w.toList
  let infinite (rest : List Char) : Bool :=
    word ".inf" rest || word ".Inf" rest || word ".INF" rest
  match cs with
  | '.' :: rest =>
    (match rest with
      | d :: ds => d.isDigit && isExponent (ds.dropWhile isDigitOrLine)
      | [] => false) ||
      infinite cs || word ".nan" cs || word ".NaN" cs || word ".NAN" cs
  | _ =>
    match unsigned cs with
    | d :: ds =>
      if d.isDigit then
        match ds.dropWhile isDigitOrLine with
        | '.' :: more => isExponent (more.dropWhile isDigitOrLine)
        | ':' :: more => sixties isFraction (':' :: more)
        | _ => false
      else infinite (d :: ds)
    | [] => false

/-- Whether a tag stands for a single value and not for a collection. -/
def isScalar : Tag → Bool
  | null => true
  | flag => true
  | whole => true
  | real => true
  | timestamp => true
  | text => true
  | binary => true
  | _ => false

/-- Whether a tag stands for a collection. -/
def isCollection : Tag → Bool
  | sequence => true
  | mapping => true
  | set => true
  | orderedMapping => true
  | pairs => true
  | _ => false

end Tag

/-- The parts of a day and a time of day as they are spelled. -/
structure Stamp where
  year : Nat
  month : Nat
  day : Nat
  clock : Option (Nat × Nat × Nat × List Char × Option Int)

namespace Stamp

/-- A number of digits from a least to a most number of them. -/
def number? (least most : Nat) (cs : List Char) : Option (Nat × List Char) :=
  let ds := (cs.take most).takeWhile Char.isDigit
  if ds.length < least then none else some (Numeral.ofDigits 10 ds, cs.drop ds.length)

/-- What follows a character that has to be there. -/
def after? (c : Char) : List Char → Option (List Char)
  | d :: rest => if d = c then some rest else none
  | [] => none

def isBlank (c : Char) : Bool :=
  c == ' ' || c == '\t'

/-- The minutes of a zone that takes up the rest of a text: none at all, `Z`, or an offset. -/
def zone? (cs : List Char) : Option (Option Int) :=
  match cs.dropWhile isBlank with
  | [] => if cs.isEmpty then some none else none
  | ['Z'] => some (some 0)
  | s :: rest =>
    if s = '+' ∨ s = '-' then do
      let (hours, rest) ← number? 1 2 rest
      let (minutes, rest) ← match rest with
        | ':' :: rest => number? 2 2 rest
        | rest => some (0, rest)
      if !rest.isEmpty then none
      let total : Int := hours * 60 + minutes
      some (some (if s = '-' then -total else total))
    else none

/-- The time of day and zone that take up the rest of a text. -/
def clock? (cs : List Char) : Option (Nat × Nat × Nat × List Char × Option Int) := do
  let cs ← match cs with
    | 'T' :: rest => some rest
    | 't' :: rest => some rest
    | c :: rest => if isBlank c then some (rest.dropWhile isBlank) else none
    | [] => none
  let (hour, cs) ← number? 1 2 cs
  let (minute, cs) ← number? 2 2 (← after? ':' cs)
  let (second, cs) ← number? 2 2 (← after? ':' cs)
  let (fraction, cs) := match cs with
    | '.' :: rest => (rest.takeWhile Char.isDigit, rest.dropWhile Char.isDigit)
    | cs => ([], cs)
  let zone ← zone? cs
  some (hour, minute, second, fraction, zone)

/-- The parts of a text that spells a day, with a time of day or without one. -/
def ofChars? (cs : List Char) : Option Stamp := do
  let (year, cs) ← number? 4 4 cs
  let (month, cs) ← number? 1 2 (← after? '-' cs)
  let (day, cs) ← number? 1 2 (← after? '-' cs)
  if cs.isEmpty then some ⟨year, month, day, none⟩
  else some ⟨year, month, day, some (← clock? cs)⟩

/-- Whether a plain scalar shows a stamp: a day alone needs two digits for month and day. -/
def isPlain (cs : List Char) : Bool :=
  match ofChars? cs with
  | some s => s.clock.isSome || cs.length == 10
  | none => false

end Stamp

/-- A text without the one line break that may stand at its end. -/
def Tag.withoutBreak (cs : List Char) : List Char :=
  if cs.getLast? == some '\n' then cs.dropLast else cs

/-- The type that a text shows by its form. One line break at its end does not count, unless there
is nothing else. -/
def Tag.ofPlain (s : String) : Tag :=
  let cs := withoutBreak s.toList
  let form := String.ofList cs
  if s == "\n" then text
  else if isFlag form then flag
  else if isReal cs then real
  else if isWhole cs then whole
  else if form == "<<" then merge
  else if isNull form then null
  else if Stamp.isPlain cs then timestamp
  else if form == "=" then default
  else if form == "!" || form == "&" || form == "*" then unknown
  else text

end SchemaIntents.Yaml
