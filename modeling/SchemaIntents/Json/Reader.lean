import SchemaIntents.Text.Point
import SchemaIntents.Value

/-!
Reading JSON texts. Besides the standard the words `NaN`, `Infinity` and `-Infinity` are read as
numbers; of two entries with one key the later value stays. A fault names the place in the text.
-/
namespace SchemaIntents.Json

/-- What a text lacks where the reader stopped. -/
inductive Problem where
  | byteOrderMark
  | value
  | propertyName
  | colon
  | comma
  | extraData
  | unterminated
  | escape
  | unicodeEscape
  | control
  deriving DecidableEq, Repr

def Problem.message : Problem → String
  | .byteOrderMark => "Unexpected UTF-8 BOM (decode using utf-8-sig)"
  | .value => "Expecting value"
  | .propertyName => "Expecting property name enclosed in double quotes"
  | .colon => "Expecting ':' delimiter"
  | .comma => "Expecting ',' delimiter"
  | .extraData => "Extra data"
  | .unterminated => "Unterminated string starting at"
  | .escape => "Invalid \\escape"
  | .unicodeEscape => "Invalid \\uXXXX escape"
  | .control => "Invalid control character at"

/-- A list or a mapping. -/
inductive Bracket where
  | array
  | object
  deriving DecidableEq, Repr

def Bracket.name : Bracket → String
  | .array => "array"
  | .object => "object"

/-- Why a text cannot be read: it is no JSON from an offset on, a whole number has more digits than
are read, or a list or mapping stands inside too many others. -/
inductive ReadFault where
  | malformed (problem : Problem) (line column offset : Nat)
  | tooManyDigits (count : Nat)
  | tooDeep (b : Bracket)
  deriving DecidableEq, Repr

/-- How many lists and mappings may stand inside each other. -/
def depthLimit : Nat :=
  990

/-- The most digits that a whole number may have. -/
def digitLimit : Nat :=
  4300

/-- What is said of a whole number with too many digits. -/
def tooManyDigitsMessage (count : Nat) : String :=
  s!"Exceeds the limit ({digitLimit} digits) for integer string conversion: value has {count} " ++
    "digits; use sys.set_int_max_str_digits() to increase the limit"

/-- What is said of a list or mapping inside too many others. -/
def tooDeepMessage (b : Bracket) : String :=
  "maximum recursion depth exceeded while decoding a JSON " ++ b.name ++ " from a unicode string"

def ReadFault.message : ReadFault → String
  | .malformed p line column offset =>
    p.message ++ s!": line {line} column {column} (char {offset})"
  | .tooManyDigits n => tooManyDigitsMessage n
  | .tooDeep b => tooDeepMessage b

/-- A fault while reading: the problem with the length of the text from its place on. -/
inductive Stop where
  | at (problem : Problem) (left : Nat)
  | tooManyDigits (count : Nat)
  | tooDeep (b : Bracket)

/-- Stops before the rest of the text. -/
def stop {α : Type} (problem : Problem) (rest : List Char) : Except Stop α :=
  .error (.at problem rest.length)

def isSpace (c : Char) : Bool :=
  c == ' ' || c == '\t' || c == '\n' || c == '\r'

def skipSpace (cs : List Char) : List Char :=
  cs.dropWhile isSpace

/-- The value of a hexadecimal digit. -/
def hexDigit? (c : Char) : Option Nat :=
  if c.isDigit then some (c.toNat - 48)
  else if 'a' ≤ c ∧ c ≤ 'f' then some (c.toNat - 87)
  else if 'A' ≤ c ∧ c ≤ 'F' then some (c.toNat - 55)
  else none

/-- The number that four hexadecimal digits spell. -/
def hex4? (a b c d : Char) : Option Nat := do
  let a ← hexDigit? a
  let b ← hexDigit? b
  let c ← hexDigit? c
  let d ← hexDigit? d
  return ((a * 16 + b) * 16 + c) * 16 + d

/-- The character of a short escape. -/
def shortEscape? (c : Char) : Option Char :=
  if c = '"' ∨ c = '\\' ∨ c = '/' then some c
  else if c = 'b' then some '\x08'
  else if c = 'f' then some '\x0c'
  else if c = 'n' then some '\n'
  else if c = 'r' then some '\r'
  else if c = 't' then some '\t'
  else none

def isHighSurrogate (n : Nat) : Bool :=
  0xD800 ≤ n && n < 0xDC00

def isLowSurrogate (n : Nat) : Bool :=
  0xDC00 ≤ n && n < 0xE000

/-- A part of a text: a character as it is, or an escaped code unit. -/
inductive Piece where
  | char (c : Char)
  | unit (n : Nat)

/-- The number of the character that two halves of a pair make. -/
def pairNumber (high low : Nat) : Nat :=
  0x10000 + (high - 0xD800) * 0x400 + (low - 0xDC00)

/-- The characters of a text. The two escaped halves of a pair give one code point, a half on its
own is one itself. -/
def joinPieces : List Piece → List Char
  | [] => []
  | .char c :: rest => c :: joinPieces rest
  | [.unit n] => (Text.Point.ofNat n).held
  | .unit n :: .char c :: rest => (Text.Point.ofNat n).held ++ c :: joinPieces rest
  | .unit n :: .unit m :: rest =>
    if isHighSurrogate n && isLowSurrogate m then
      (Text.Point.ofNat (pairNumber n m)).held ++ joinPieces rest
    else (Text.Point.ofNat n).held ++ joinPieces (.unit m :: rest)

/-- Reads a text up to its closing quote. `opening` is the length of the text from the opening quote
on, `pieces` what was read so far in reverse. -/
def readString (opening : Nat) (pieces : List Piece) :
    List Char → Except Stop (String × List Char)
  | [] => .error (.at .unterminated opening)
  | '"' :: rest => .ok (String.ofList (joinPieces pieces.reverse), rest)
  | ['\\'] => .error (.at .unterminated opening)
  | '\\' :: 'u' :: a :: b :: c :: d :: rest =>
    match hex4? a b c d with
    | some n =>
      if rest.isEmpty then stop .unicodeEscape ('u' :: a :: b :: c :: d :: rest)
      else readString opening (.unit n :: pieces) rest
    | none => stop .unicodeEscape ('u' :: a :: b :: c :: d :: rest)
  | '\\' :: c :: rest =>
    if c = 'u' then stop .unicodeEscape (c :: rest)
    else match shortEscape? c with
      | some e => readString opening (.char e :: pieces) rest
      | none => stop .escape ('\\' :: c :: rest)
  | c :: rest =>
    if c.toNat < 0x20 then stop .control (c :: rest)
    else readString opening (.char c :: pieces) rest

/-- The fraction that opens a text: a point and at least one digit. -/
def readFraction : List Char → List Char × List Char
  | '.' :: rest =>
    let (ds, more) := Numeral.digits rest
    if ds.isEmpty then ([], '.' :: rest) else (ds, more)
  | rest => ([], rest)

/-- The exponent that opens a text, if it has at least one digit. -/
def readExponent (cs : List Char) : Option Int × List Char :=
  match cs with
  | c :: _ =>
    if c = 'e' ∨ c = 'E' then
      match Numeral.exponent? cs with
      | some (n, rest) => (some n, rest)
      | none => (none, cs)
    else (none, cs)
  | [] => (none, cs)

/-- Reads a number: whole digits without a leading zero, then what fraction and exponent there
is. -/
def readNumber (start : List Char) : Except Stop (Value × List Char) :=
  let (negative, cs) := match start with
    | '-' :: rest => (true, rest)
    | cs => (false, cs)
  let (whole, rest) := match cs with
    | '0' :: rest => (['0'], rest)
    | cs => Numeral.digits cs
  if whole.isEmpty then stop .value start
  else
    let (fraction, rest) := readFraction rest
    let (exponent, rest) := readExponent rest
    if fraction.isEmpty && exponent.isNone then
      if digitLimit < whole.length then .error (.tooManyDigits whole.length)
      else
        let n : Int := Numeral.ofDigits 10 whole
        .ok (.int (if negative then -n else n), rest)
    else
      let parts : Numeral.Parts := ⟨negative, whole, fraction, exponent.getD 0⟩
      .ok (.float parts.toBinary64, rest)

/-- The words that stand for values. -/
def words : List (String × Value) := [
  ("null", .null), ("true", .bool true), ("false", .bool false), ("NaN", .float .nan),
  ("Infinity", .float (.infinity false)), ("-Infinity", .float (.infinity true))]

/-- The word that opens a text. -/
def readWord? (cs : List Char) : Option (Value × List Char) :=
  words.findSome? fun w =>
    if w.1.toList.isPrefixOf cs then some (w.2, cs.drop w.1.length) else none

mutual

/-- Reads a value that starts at the head of the text. `room` is how many more lists and mappings
may be opened. -/
def readValue : Nat → Nat → List Char → Except Stop (Value × List Char)
  | 0, _, cs => stop .value cs
  | fuel + 1, room, cs =>
    match cs with
    | '"' :: rest => do
      let (s, rest) ← readString cs.length [] rest
      return (.str s, rest)
    | '[' :: rest =>
      if room = 0 then .error (.tooDeep .array)
      else match skipSpace rest with
        | ']' :: rest => .ok (.list [], rest)
        | rest => readItems fuel (room - 1) [] rest
    | '\x7b' :: rest =>
      if room = 0 then .error (.tooDeep .object)
      else match skipSpace rest with
        | '\x7d' :: rest => .ok (.obj [], rest)
        | rest => readEntries fuel (room - 1) [] rest
    | cs =>
      match readWord? cs with
      | some found => .ok found
      | none => readNumber cs

/-- Reads the items of a list up to its end; `items` holds those read, in reverse. -/
def readItems : Nat → Nat → List Value → List Char → Except Stop (Value × List Char)
  | 0, _, _, cs => stop .value cs
  | fuel + 1, room, items, cs => do
    let (v, rest) ← readValue fuel room cs
    match skipSpace rest with
    | ']' :: rest => return (.list (v :: items).reverse, rest)
    | ',' :: rest => readItems fuel room (v :: items) (skipSpace rest)
    | rest => stop .comma rest

/-- Reads the entries of a mapping up to its end. -/
def readEntries : Nat → Nat → List (String × Value) → List Char → Except Stop (Value × List Char)
  | 0, _, _, cs => stop .value cs
  | fuel + 1, room, entries, cs =>
    match cs with
    | '"' :: rest => do
      let (key, rest) ← readString cs.length [] rest
      match skipSpace rest with
      | ':' :: rest =>
        let (v, rest) ← readValue fuel room (skipSpace rest)
        let entries := Value.put key v entries
        match skipSpace rest with
        | '\x7d' :: rest => return (.obj entries, rest)
        | ',' :: rest => readEntries fuel room entries (skipSpace rest)
        | rest => stop .comma rest
      | rest => stop .colon rest
    | cs => stop .propertyName cs

end

/-- Reads a value that takes up the whole text. -/
def readWhole (cs : List Char) : Except Stop Value := do
  if cs.head? = some '\uFEFF' then stop .byteOrderMark cs
  let (v, rest) ← readValue (2 * cs.length + 2) depthLimit (skipSpace cs)
  match skipSpace rest with
  | [] => return v
  | rest => stop .extraData rest

/-- Line, column and offset of the place that many characters before the end. -/
def place (cs : List Char) (left : Nat) : Nat × Nat × Nat :=
  let before := cs.take (cs.length - left)
  let column := Text.size (before.reverse.takeWhile (· != '\n')).reverse + 1
  (before.count '\n' + 1, column, Text.size before)

/-- The value of a JSON text. -/
def read (s : String) : Except ReadFault Value :=
  let cs := s.toList
  match readWhole cs with
  | .ok v => .ok v
  | .error (.tooManyDigits n) => .error (.tooManyDigits n)
  | .error (.tooDeep b) => .error (.tooDeep b)
  | .error (.at problem left) =>
    let (line, column, offset) := place cs left
    .error (.malformed problem line column offset)

end SchemaIntents.Json
