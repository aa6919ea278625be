import SchemaIntents.Json.Reader
import SchemaIntents.Shape.Scalar
import SchemaIntents.Text.Digit
import SchemaIntents.Value
import SchemaIntents.Yaml.Fault
import SchemaIntents.Yaml.Tag

/-!
The values of scalars: what a text spells where its type is known.
-/
namespace SchemaIntents.Yaml

namespace Scalar

def fault {α : Type} (f : ScalarFault) : Except Fault α :=
  .error (.scalar f)

/-- The value of a digit in bases up to sixteen, in any script. -/
def digit? (base : Nat) (c : Char) : Option Nat :=
  let value :=
    if Text.isDecimal c then some (Text.decimalValue c)
    else if 'a' ≤ c ∧ c ≤ 'f' then some (c.toNat - 87)
    else if 'A' ≤ c ∧ c ≤ 'F' then some (c.toNat - 55)
    else none
  value.filter (· < base)

/-- The letter that may stand after a zero in front of the digits of a base. -/
def baseLetter? (base : Nat) : Option Char :=
  match base with
  | 2 => some 'b'
  | 8 => some 'o'
  | 16 => some 'x'
  | _ => none

/-- Digits without the mark of their base. -/
def unmarked (base : Nat) (cs : List Char) : List Char :=
  match cs with
  | '0' :: c :: ds => if baseLetter? base == some c.toLower then ds else cs
  | cs => cs

/-- A whole number in digits of a base, with blanks around it and a sign. -/
def wholeIn (base : Nat) (cs : List Char) : Except Fault Int :=
  let s := String.ofList cs
  let (negative, ds) := Numeral.sign (Text.trimWith Text.isBlank cs)
  match (unmarked base ds).mapM (digit? base) with
  | none => fault (.noWhole base s)
  | some [] => fault (.noWhole base s)
  | some values =>
    if base = 10 ∧ Json.digitLimit < values.length then fault (.tooManyDigits values.length)
    else
      let n : Nat := values.foldl (fun n d => n * base + d) 0
      .ok (if negative then -(n : Int) else n)

/-- The parts of a text between colons. -/
def parts : List Char → List (List Char)
  | [] => [[]]
  | ':' :: rest => [] :: parts rest
  | c :: rest =>
    match parts rest with
    | [] => [[c]]
    | p :: ps => (c :: p) :: ps

/-- A text without underscores. -/
def compact (s : String) : List Char :=
  s.toList.filter (· != '_')

/-- A whole number: in base two, eight, ten or sixteen, or in sixties. -/
def whole (s : String) : Except Fault Int := do
  let (negative, cs) := Numeral.sign (compact s)
  let n ← match cs with
    | [] => fault .noNumeral
    | ['0'] => .ok 0
    | '0' :: 'b' :: ds => wholeIn 2 ds
    | '0' :: 'x' :: ds => wholeIn 16 ds
    | '0' :: ds => wholeIn 8 ('0' :: ds)
    | cs =>
      if cs.contains ':' then do
        let ps ← (parts cs).mapM (wholeIn 10)
        .ok (ps.foldl (fun n d => n * 60 + d) 0)
      else wholeIn 10 cs
  return if negative then -n else n

/-- The ASCII digit of the same value, for a digit of any script. -/
def plainDigit (c : Char) : Char :=
  if Text.isDecimal c then Char.ofNat (48 + Text.decimalValue c) else c

/-- A real number in decimal digits. -/
def decimal (cs : List Char) : Except Fault Binary64 :=
  match Scalar.realOfChars? ((Text.trimWith Text.isBlank cs).map plainDigit) with
  | some x => .ok x
  | none => fault (.noReal (String.ofList cs))

/-- A sum with one more number, which counts `unit` times. -/
def addSixties (acc : Float × Nat) (x : Binary64) : Except Fault (Float × Nat) :=
  let unit := Binary64.ofInt acc.2
  if unit.isFinite then
    .ok (acc.1 + Float.ofBits x.bits * Float.ofBits unit.bits, acc.2 * 60)
  else fault .largeReal

/-- The sum of numbers in sixties, the last of them counted once. -/
def sixties (xs : List Binary64) : Except Fault Binary64 :=
  (xs.reverse.foldlM addSixties (0, 1)).map fun acc => ⟨acc.1.toBits⟩

/-- A real number: decimal, in sixties, or one of the words for numbers that are not finite. What is
no number otherwise is the given one, so that it equals no other. -/
def real (noNumber : Binary64) (s : String) : Except Fault Binary64 := do
  let small := (Text.lower (String.ofList (compact s))).toList
  if small.isEmpty then fault .noNumeral
  let (negative, cs) := Numeral.sign small
  if cs = ".nan".toList then return .nan
  let x ←
    if cs = ".inf".toList then .ok (.infinity false)
    else if cs.contains ':' then do sixties (← (parts cs).mapM decimal)
    else decimal cs
  return if x.isNaN then noNumber else if negative then x.negate else x

/-- A fraction of a second in microseconds; more digits than six are cut off. -/
def microseconds (ds : List Char) : Nat :=
  let six := ds.take 6
  Numeral.ofDigits 10 six * Nat.pow 10 (6 - six.length)

/-- A day or a moment. -/
def timestamp (s : String) : Except Fault Value :=
  let wrong (e : CalendarError) : Fault := .scalar (.noMoment e)
  match Stamp.ofChars? (Tag.withoutBreak s.toList) with
  | none => fault .noStamp
  | some t =>
    let date := Date.of t.year t.month t.day
    match t.clock with
    | none => (date.mapError wrong).map .date
    | some (hour, minute, second, fraction, zone) =>
      ((DateTime.of date hour minute second (microseconds fraction) zone).mapError wrong).map
        .dateTime

/-- The six bits of a character in base 64. -/
def sextet? (c : Char) : Option Nat :=
  if 'A' ≤ c ∧ c ≤ 'Z' then some (c.toNat - 65)
  else if 'a' ≤ c ∧ c ≤ 'z' then some (c.toNat - 71)
  else if c.isDigit then some (c.toNat + 4)
  else if c = '+' then some 62
  else if c = '/' then some 63
  else none

/-- Bytes in base 64. `held` are the sextets of the group under way, latest first, and `pads` the
padding seen in it. Other characters are passed over, and a group that padding ends is the last. -/
def bytesFrom (held : List Nat) (pads : Nat) : List Char → Option (List UInt8)
  | [] => if held.isEmpty then some [] else none
  | c :: rest =>
    if c = '=' then
      match held with
      | [b, a] =>
        if pads = 1 then some [UInt8.ofNat (a * 4 + b / 16)] else bytesFrom held (pads + 1) rest
      | [d, b, a] => some [UInt8.ofNat (a * 4 + b / 16), UInt8.ofNat (b % 16 * 16 + d / 4)]
      | _ => bytesFrom held pads rest
    else
      match sextet? c with
      | none => bytesFrom held pads rest
      | some n =>
        match held with
        | [d, b, a] =>
          (bytesFrom [] 0 rest).map fun more =>
            UInt8.ofNat (a * 4 + b / 16) :: UInt8.ofNat (b % 16 * 16 + d / 4) ::
              UInt8.ofNat (d % 4 * 64 + n) :: more
        | held => bytesFrom (n :: held) 0 rest

/-- Bytes in base 64; the text has to be ASCII. -/
def binary (s : String) : Except Fault Value :=
  if s.toList.all fun c => c.toNat < 0x80 then
    match bytesFrom [] 0 s.toList with
    | some bs => .ok (.bytes bs)
    | none => .error .malformed
  else .error .malformed

/-- A truth value by its word. -/
def flag (s : String) : Except Fault Value :=
  let word := Text.lower s
  match Tag.flagWords.lookup word with
  | some b => .ok (.bool b)
  | none => fault (.noFlag word)

/-- The value of a scalar, given the number that stands for no number. -/
def value (noNumber : Binary64) (t : Tag) (s : String) : Except Fault Value :=
  match t with
  | .null => .ok .null
  | .flag => flag s
  | .whole => (whole s).map .int
  | .real => (real noNumber s).map .float
  | .timestamp => timestamp s
  | .text => .ok (.str s)
  | .binary => binary s
  | _ => .error .malformed

end Scalar

end SchemaIntents.Yaml
