import SchemaIntents.Text.Point

/-!
UTF-8. A fault of decoding names the bytes that cannot be decoded: a byte that starts no character,
a character whose next byte does not continue it, or one that the end of the data cuts off. A fault
of encoding names halves of pairs, which have no bytes.
-/
namespace SchemaIntents.Text.Utf8

/-- Why bytes are no UTF-8. -/
inductive Problem where
  | invalidStart
  | invalidContinuation
  | unexpectedEnd
  /-- Any of the others, where they are not told apart. -/
  | invalid
  deriving DecidableEq, Repr

def Problem.message : Problem → String
  | .invalidStart => "invalid start byte"
  | .invalidContinuation => "invalid continuation byte"
  | .unexpectedEnd => "unexpected end of data"
  | .invalid => "invalid utf-8"

/-- The first bytes that cannot be decoded: the first of them, their position and their number. -/
structure Fault where
  problem : Problem
  byte : UInt8
  position : Nat
  count : Nat
  deriving DecidableEq, Repr

def Fault.message (f : Fault) : String :=
  let digits := Nat.toDigits 16 f.byte.toNat
  let hex := String.ofList (if digits.length < 2 then '0' :: digits else digits)
  let place :=
    if f.count = 1 then "byte 0x" ++ hex ++ s!" in position {f.position}"
    else s!"bytes in position {f.position}-{f.position + f.count - 1}"
  "'utf-8' codec can't decode " ++ place ++ ": " ++ f.problem.message

/-- The fault at its first byte alone, its problem not told. -/
def Fault.general (f : Fault) : Fault :=
  { f with problem := .invalid, count := 1 }

/-- The range that the byte after a lead byte must lie in, and how many bytes follow the lead. -/
def follow? (lead : Nat) : Option (Nat × Nat × Nat) :=
  if 0xC2 ≤ lead ∧ lead < 0xE0 then some (0x80, 0xBF, 1)
  else if lead = 0xE0 then some (0xA0, 0xBF, 2)
  else if lead = 0xED then some (0x80, 0x9F, 2)
  else if 0xE1 ≤ lead ∧ lead < 0xF0 then some (0x80, 0xBF, 2)
  else if lead = 0xF0 then some (0x90, 0xBF, 3)
  else if lead = 0xF4 then some (0x80, 0x8F, 3)
  else if 0xF1 ≤ lead ∧ lead < 0xF4 then some (0x80, 0xBF, 3)
  else none

/-- The bits of the lead byte that belong to the character. -/
def leadBits (lead : Nat) : Nat :=
  if lead < 0xE0 then lead % 0x20 else if lead < 0xF0 then lead % 0x10 else lead % 0x08

/-- The state between two bytes: nothing pending, or a character under way with its lead byte, the
bytes read of it, its bits so far, the range of the next byte and the bytes to come. -/
inductive Pending where
  | none
  | char (lead : UInt8) (seen bits low high left : Nat)

/-- Decodes the rest of the data; `position` is that of its first byte. -/
def decodeFrom (position : Nat) (pending : Pending) : List UInt8 → Except Fault (List Char)
  | [] => match pending with
    | .none => .ok []
    | .char lead seen _ _ _ _ => .error ⟨.unexpectedEnd, lead, position - seen, seen⟩
  | b :: rest =>
    let n := b.toNat
    match pending with
    | .none =>
      if n < 0x80 then (decodeFrom (position + 1) .none rest).map (Char.ofNat n :: ·)
      else match follow? n with
        | some (low, high, left) =>
          decodeFrom (position + 1) (.char b 1 (leadBits n) low high left) rest
        | none => .error ⟨.invalidStart, b, position, 1⟩
    | .char lead seen bits low high left =>
      if low ≤ n ∧ n ≤ high then
        let bits := bits * 0x40 + n % 0x40
        if left = 1 then (decodeFrom (position + 1) .none rest).map (Char.ofNat bits :: ·)
        else decodeFrom (position + 1) (.char lead (seen + 1) bits 0x80 0xBF (left - 1)) rest
      else .error ⟨.invalidContinuation, lead, position - seen, seen⟩

/-- The characters that bytes encode. -/
def decode (bytes : List UInt8) : Except Fault (List Char) :=
  decodeFrom 0 .none bytes

/-- The text that bytes encode. -/
def read (bytes : List UInt8) : Except Fault (List Char) :=
  (decode bytes).map hold

/-- The first halves of pairs in a text: the first of them, its position, and how many stand
there. -/
structure HalfFault where
  half : Fin 2048
  position : Nat
  count : Nat
  deriving DecidableEq, Repr

def HalfFault.message (f : HalfFault) : String :=
  let place :=
    if f.count = 1 then
      "character '\\u" ++ String.ofList (Nat.toDigits 16 (0xD800 + f.half)) ++
        s!"' in position {f.position}"
    else s!"characters in position {f.position}-{f.position + f.count - 1}"
  "'utf-8' codec can't encode " ++ place ++ ": surrogates not allowed"

/-- The first halves among code points that stand in a text from a position on. -/
def halfFaultFrom (position : Nat) : List Point → HalfFault
  | [] => ⟨0, position, 0⟩
  | .half h :: rest => ⟨h, position, 1 + (rest.takeWhile fun p => p.char?.isNone).length⟩
  | .char _ :: rest => halfFaultFrom (position + 1) rest

/-- The first halves in a text. -/
def halfFault (cs : List Char) : HalfFault :=
  halfFaultFrom 0 (points cs)

/-- The bytes of a text without halves. -/
def write (cs : List Char) : Except HalfFault (List UInt8) :=
  match release? cs with
  | some text => .ok (String.ofList text).toUTF8.toList
  | none => .error (halfFault cs)

/-- How many bytes a text takes. -/
def size (s : String) : Nat :=
  (String.ofList (release s.toList)).utf8ByteSize

/-- Line breaks in any of three spellings become the one. -/
def unifyBreaks : List Char → List Char
  | '\r' :: '\n' :: rest => '\n' :: unifyBreaks rest
  | '\r' :: rest => '\n' :: unifyBreaks rest
  | c :: rest => c :: unifyBreaks rest
  | [] => []

end SchemaIntents.Text.Utf8
