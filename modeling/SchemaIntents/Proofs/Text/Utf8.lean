import Mathlib.Tactic.Common
import SchemaIntents.Proofs.Text.Points
import SchemaIntents.Text.Utf8

/-! The bytes of a text are decoded as its characters, and no other bytes are decoded. -/
namespace SchemaIntents.Text.Utf8

theorem toList_loop (bs : ByteArray) (i : Nat) (read : List UInt8) :
    ByteArray.toList.loop bs i read = read.reverse ++ bs.data.toList.drop i := by
  fun_induction ByteArray.toList.loop bs i read with
  | case1 i read h ih =>
    have hi : i < bs.data.toList.length := by simpa using h
    rw [ih, List.drop_eq_getElem_cons (l := bs.data.toList) hi]
    simp [ByteArray.get!, h]
  | case2 i read h =>
    rw [List.drop_eq_nil_of_le (by simpa using Nat.le_of_not_lt h)]
    simp

theorem toList_toUTF8 (s : String) :
    s.toUTF8.toList = s.toList.flatMap String.utf8EncodeChar := by
  rw [String.toUTF8_eq_toByteArray, ← String.utf8Encode_toList, ByteArray.toList, toList_loop]
  simp [List.utf8Encode]

variable {position seen bits low high left : Nat} {lead b : UInt8} {bytes : List UInt8}

theorem decodeFrom_last (h : low ≤ b.toNat ∧ b.toNat ≤ high) :
    decodeFrom position (.char lead seen bits low high 1) (b :: bytes) =
      (decodeFrom (position + 1) .none bytes).map
        (Char.ofNat (bits * 0x40 + b.toNat % 0x40) :: ·) := by
  simp [decodeFrom, h]

theorem decodeFrom_inner (h : low ≤ b.toNat ∧ b.toNat ≤ high) :
    decodeFrom position (.char lead seen bits low high (left + 2)) (b :: bytes) =
      decodeFrom (position + 1)
        (.char lead (seen + 1) (bits * 0x40 + b.toNat % 0x40) 0x80 0xBF (left + 1)) bytes := by
  simp [decodeFrom, h]

theorem decodeFrom_lead (h : follow? b.toNat = some (low, high, left)) (hb : 0x80 ≤ b.toNat) :
    decodeFrom position .none (b :: bytes) =
      decodeFrom (position + 1) (.char b 1 (leadBits b.toNat) low high left) bytes := by
  rw [decodeFrom]
  simp only [h, Nat.not_lt.mpr hb, if_false]

theorem follow?_two {n : Nat} (h : 0xC2 ≤ n) (h' : n < 0xE0) :
    follow? n = some (0x80, 0xBF, 1) := by
  simp [follow?, h, h']

/-- The second of three bytes lies where the first one wants it: neither is the character shorter
than that nor is it half of a pair. -/
theorem follow?_three {v : Nat} (h : 0x800 ≤ v) (h' : v < 0x10000)
    (hpair : v < 0xD800 ∨ 0xDFFF < v) :
    ∃ low high, follow? (v / 0x1000 + 0xE0) = some (low, high, 2) ∧
      low ≤ v / 0x40 % 0x40 + 0x80 ∧ v / 0x40 % 0x40 + 0x80 ≤ high := by
  by_cases h0 : v / 0x1000 = 0
  · exact ⟨0xA0, 0xBF, by simp [follow?, h0], by omega, by omega⟩
  · by_cases hd : v / 0x1000 = 0xD
    · exact ⟨0x80, 0x9F, by simp [follow?, hd], by omega, by omega⟩
    · refine ⟨0x80, 0xBF, ?_, by omega, by omega⟩
      have htwo : ¬ (0xC2 ≤ v / 0x1000 + 0xE0 ∧ v / 0x1000 + 0xE0 < 0xE0) := by omega
      have hthree : 0xE1 ≤ v / 0x1000 + 0xE0 ∧ v / 0x1000 + 0xE0 < 0xF0 := by omega
      unfold follow?
      rw [if_neg htwo, if_neg (by omega), if_neg (by omega), if_pos hthree]

theorem follow?_four {v : Nat} (h : 0x10000 ≤ v) (h' : v < 0x110000) :
    ∃ low high, follow? (v / 0x40000 + 0xF0) = some (low, high, 3) ∧
      low ≤ v / 0x1000 % 0x40 + 0x80 ∧ v / 0x1000 % 0x40 + 0x80 ≤ high := by
  by_cases h0 : v / 0x40000 = 0
  · exact ⟨0x90, 0xBF, by simp [follow?, h0], by omega, by omega⟩
  · by_cases h4 : v / 0x40000 = 4
    · exact ⟨0x80, 0x8F, by simp [follow?, h4], by omega, by omega⟩
    · refine ⟨0x80, 0xBF, ?_, by omega, by omega⟩
      have htwo : ¬ (0xC2 ≤ v / 0x40000 + 0xF0 ∧ v / 0x40000 + 0xF0 < 0xE0) := by omega
      have hthree : ¬ (0xE1 ≤ v / 0x40000 + 0xF0 ∧ v / 0x40000 + 0xF0 < 0xF0) := by omega
      have hfour : 0xF1 ≤ v / 0x40000 + 0xF0 ∧ v / 0x40000 + 0xF0 < 0xF4 := by omega
      unfold follow?
      rw [if_neg htwo, if_neg (by omega), if_neg (by omega), if_neg hthree, if_neg (by omega),
        if_neg (by omega), if_pos hfour]

theorem toNat_later (n : Nat) : (UInt8.ofNat (n % 64 + 128)).toNat = n % 64 + 128 := by
  simp
  omega

/-- A character is decoded from its bytes: each number of bytes has its own first byte, and the bits
of the bytes come to the character. -/
theorem decodeFrom_char (c : Char) (position : Nat) (bytes : List UInt8) :
    ∃ next, decodeFrom position .none (String.utf8EncodeChar c ++ bytes) =
      (decodeFrom next .none bytes).map (c :: ·) := by
  have hc : Char.ofNat c.toNat = c := Char.ofNat_toNat c
  have hvalid : c.toNat < 0xD800 ∨ 0xDFFF < c.toNat ∧ c.toNat < 0x110000 := c.valid
  have hval : c.val.toNat = c.toNat := rfl
  unfold String.utf8EncodeChar
  simp only [hval]
  generalize c.toNat = v at hc hvalid
  split
  · -- one byte
    have hn : (UInt8.ofNat v).toNat = v := by simp; omega
    exact ⟨position + 1, by simp [decodeFrom, hn, hc, show v < 0x80 by omega]⟩
  split
  · -- two bytes
    have h1 : (UInt8.ofNat (v / 64 % 32 + 192)).toNat = v / 64 + 192 := by simp; omega
    have h2 := toNat_later v
    have hf : follow? (v / 64 + 192) = some (0x80, 0xBF, 1) :=
      follow?_two (by omega) (by omega)
    refine ⟨position + 2, ?_⟩
    simp only [List.cons_append, List.nil_append]
    rw [decodeFrom_lead (h1 ▸ hf) (by omega), decodeFrom_last (by omega), h1, h2]
    have hbits : leadBits (v / 64 + 192) * 64 + (v % 64 + 128) % 64 = v := by
      rw [leadBits, if_pos (by omega)]
      omega
    rw [hbits, hc]
  split
  · -- three bytes
    have h1 : (UInt8.ofNat (v / 4096 % 16 + 224)).toNat = v / 4096 + 224 := by simp; omega
    have h2 := toNat_later (v / 64)
    have h3 := toNat_later v
    obtain ⟨low, high, hf, hlow, hhigh⟩ := follow?_three (v := v) (by omega) (by omega) (by omega)
    refine ⟨position + 3, ?_⟩
    simp only [List.cons_append, List.nil_append]
    rw [decodeFrom_lead (h1 ▸ hf) (by omega), decodeFrom_inner (by omega),
      decodeFrom_last (by omega), h1, h2, h3]
    have hbits : (leadBits (v / 4096 + 224) * 64 + (v / 64 % 64 + 128) % 64) * 64 +
        (v % 64 + 128) % 64 = v := by
      rw [leadBits, if_neg (by omega), if_pos (by omega)]
      omega
    rw [hbits, hc]
  · -- four bytes
    have h1 : (UInt8.ofNat (v / 262144 % 8 + 240)).toNat = v / 262144 + 240 := by simp; omega
    have h2 := toNat_later (v / 4096)
    have h3 := toNat_later (v / 64)
    have h4 := toNat_later v
    obtain ⟨low, high, hf, hlow, hhigh⟩ := follow?_four (v := v) (by omega) (by omega)
    refine ⟨position + 4, ?_⟩
    simp only [List.cons_append, List.nil_append]
    rw [decodeFrom_lead (h1 ▸ hf) (by omega), decodeFrom_inner (by omega),
      decodeFrom_inner (by omega), decodeFrom_last (by omega), h1, h2, h3, h4]
    have hbits : ((leadBits (v / 262144 + 240) * 64 + (v / 4096 % 64 + 128) % 64) * 64 +
        (v / 64 % 64 + 128) % 64) * 64 + (v % 64 + 128) % 64 = v := by
      rw [leadBits, if_neg (by omega), if_neg (by omega)]
      omega
    rw [hbits, hc]

theorem decodeFrom_chars (cs : List Char) (position : Nat) :
    decodeFrom position .none (cs.flatMap String.utf8EncodeChar) = .ok cs := by
  induction cs generalizing position with
  | nil => rfl
  | cons c cs ih =>
    obtain ⟨next, hnext⟩ := decodeFrom_char c position (cs.flatMap String.utf8EncodeChar)
    rw [List.flatMap_cons, hnext, ih]
    rfl

/-- What a text is encoded as is decoded as the text. -/
theorem decode_toUTF8 (s : String) : decode s.toUTF8.toList = .ok s.toList := by
  rw [decode, toList_toUTF8, decodeFrom_chars]

variable {cs : List Char}

/-- Bytes that were written are read as the text that they were written for. -/
theorem read_of_write {bytes : List UInt8} (h : write cs = .ok bytes) : read bytes = .ok cs := by
  rw [write] at h
  split at h
  · rename_i text hreleased
    obtain rfl := Except.ok.inj h
    rw [read, decode_toUTF8, String.toList_ofList, ← release?_eq_some.mp hreleased]
    rfl
  · cases h

/-- What follows a first byte: how many bytes there are, and where the second of them lies. -/
theorem follow?_cases {n : Nat} (h : follow? n = some (low, high, left)) :
    (left = 1 ∧ 0xC2 ≤ n ∧ n < 0xE0 ∧ low = 0x80 ∧ high = 0xBF) ∨
    (left = 2 ∧ 0xE0 ≤ n ∧ n < 0xF0 ∧ 0x80 ≤ low ∧ high ≤ 0xBF ∧ (n = 0xE0 → low = 0xA0) ∧
      (n = 0xED → high = 0x9F)) ∨
    (left = 3 ∧ 0xF0 ≤ n ∧ n ≤ 0xF4 ∧ 0x80 ≤ low ∧ high ≤ 0xBF ∧ (n = 0xF0 → low = 0x90) ∧
      (n = 0xF4 → high = 0x8F)) := by
  unfold follow? at h
  repeat' split at h
  all_goals
    cases h <;> omega

theorem val_ofNat {v : Nat} (h : v < 0xD800 ∨ 0xDFFF < v ∧ v < 0x110000) :
    (Char.ofNat v).val.toNat = v := by
  have hv : v.isValidChar := h
  rw [Char.ofNat, dif_pos hv]
  rfl

theorem ofNat_eq {n : Nat} (h : n = b.toNat) : UInt8.ofNat n = b := by
  rw [h, UInt8.ofNat_toNat]

/-- A byte that may follow the first one of a character. -/
def IsLater (b : UInt8) : Prop :=
  0x80 ≤ b.toNat ∧ b.toNat ≤ 0xBF

theorem encodeChar_one (h : b.toNat < 0x80) : String.utf8EncodeChar (Char.ofNat b.toNat) = [b] := by
  unfold String.utf8EncodeChar
  simp only [val_ofNat (v := b.toNat) (.inl (by omega))]
  rw [if_pos (by omega), ofNat_eq rfl]

theorem encodeChar_two {b₂ : UInt8} (h : 0xC2 ≤ b.toNat ∧ b.toNat < 0xE0) (hsecond : IsLater b₂) :
    String.utf8EncodeChar (Char.ofNat (leadBits b.toNat * 0x40 + b₂.toNat % 0x40)) = [b, b₂] := by
  have hlead : leadBits b.toNat = b.toNat - 0xC0 := by
    rw [leadBits, if_pos (by omega)]
    omega
  unfold IsLater at hsecond
  unfold String.utf8EncodeChar
  rw [hlead]
  simp only [val_ofNat (v := (b.toNat - 0xC0) * 0x40 + b₂.toNat % 0x40) (.inl (by omega))]
  rw [if_neg (by omega), if_pos (by omega), ofNat_eq (b := b) (by omega),
    ofNat_eq (b := b₂) (by omega)]

theorem encodeChar_three {b₂ b₃ : UInt8} (h : 0xE0 ≤ b.toNat ∧ b.toNat < 0xF0)
    (hsecond : IsLater b₂) (hthird : IsLater b₃) (hshort : b.toNat = 0xE0 → 0xA0 ≤ b₂.toNat)
    (hpair : b.toNat = 0xED → b₂.toNat ≤ 0x9F) :
    String.utf8EncodeChar (Char.ofNat
      ((leadBits b.toNat * 0x40 + b₂.toNat % 0x40) * 0x40 + b₃.toNat % 0x40)) = [b, b₂, b₃] := by
  have hlead : leadBits b.toNat = b.toNat - 0xE0 := by
    rw [leadBits, if_neg (by omega), if_pos (by omega)]
    omega
  unfold IsLater at hsecond hthird
  unfold String.utf8EncodeChar
  rw [hlead]
  simp only [val_ofNat
    (v := ((b.toNat - 0xE0) * 0x40 + b₂.toNat % 0x40) * 0x40 + b₃.toNat % 0x40) (by omega)]
  rw [if_neg (by omega), if_neg (by omega), if_pos (by omega), ofNat_eq (b := b) (by omega),
    ofNat_eq (b := b₂) (by omega), ofNat_eq (b := b₃) (by omega)]

theorem encodeChar_four {b₂ b₃ b₄ : UInt8} (h : 0xF0 ≤ b.toNat ∧ b.toNat ≤ 0xF4)
    (hsecond : IsLater b₂) (hthird : IsLater b₃) (hfourth : IsLater b₄)
    (hshort : b.toNat = 0xF0 → 0x90 ≤ b₂.toNat) (hlast : b.toNat = 0xF4 → b₂.toNat ≤ 0x8F) :
    String.utf8EncodeChar (Char.ofNat
      (((leadBits b.toNat * 0x40 + b₂.toNat % 0x40) * 0x40 + b₃.toNat % 0x40) * 0x40 +
        b₄.toNat % 0x40)) = [b, b₂, b₃, b₄] := by
  have hlead : leadBits b.toNat = b.toNat - 0xF0 := by
    rw [leadBits, if_neg (by omega), if_neg (by omega)]
    omega
  unfold IsLater at hsecond hthird hfourth
  unfold String.utf8EncodeChar
  rw [hlead]
  simp only [val_ofNat (v := (((b.toNat - 0xF0) * 0x40 + b₂.toNat % 0x40) * 0x40 +
    b₃.toNat % 0x40) * 0x40 + b₄.toNat % 0x40) (by omega)]
  rw [if_neg (by omega), if_neg (by omega), if_neg (by omega), ofNat_eq (b := b) (by omega),
    ofNat_eq (b := b₂) (by omega), ofNat_eq (b := b₃) (by omega), ofNat_eq (b := b₄) (by omega)]

/-- A character under way goes on with a byte of its range. -/
theorem exists_later (h : decodeFrom position (.char lead seen bits low high left) bytes = .ok cs) :
    ∃ b rest, bytes = b :: rest ∧ low ≤ b.toNat ∧ b.toNat ≤ high := by
  cases bytes with
  | nil => simp [decodeFrom] at h
  | cons b rest =>
    refine ⟨b, rest, rfl, ?_⟩
    by_contra hb
    simp [decodeFrom, hb] at h

theorem exists_of_map_cons {c : Char} {r : Except Fault (List Char)} (h : r.map (c :: ·) = .ok cs) :
    ∃ ds, r = .ok ds ∧ cs = c :: ds := by
  cases r with
  | error e => cases h
  | ok ds => exact ⟨ds, rfl, (Except.ok.inj h).symm⟩

/-- What is decoded is none but a text's bytes: they are those of its first character, and what is
decoded after them. -/
theorem exists_first (h : decodeFrom position .none (b :: bytes) = .ok cs) :
    ∃ c ds rest next, cs = c :: ds ∧ b :: bytes = String.utf8EncodeChar c ++ rest ∧
      decodeFrom next .none rest = .ok ds := by
  by_cases hone : b.toNat < 0x80
  · simp only [decodeFrom, hone, if_true] at h
    obtain ⟨ds, hds, rfl⟩ := exists_of_map_cons h
    exact ⟨_, ds, bytes, _, rfl, by rw [encodeChar_one hone]; rfl, hds⟩
  cases hf : follow? b.toNat with
  | none => simp [decodeFrom, hone, hf] at h
  | some found =>
    obtain ⟨low, high, left⟩ := found
    rw [decodeFrom_lead hf (by omega)] at h
    obtain ⟨b₂, rest, rfl, hlow, hhigh⟩ := exists_later h
    rcases follow?_cases hf with ⟨rfl, hb⟩ | ⟨rfl, hb⟩ | ⟨rfl, hb⟩
    · -- two bytes
      rw [decodeFrom_last ⟨hlow, hhigh⟩] at h
      obtain ⟨ds, hds, rfl⟩ := exists_of_map_cons h
      refine ⟨_, ds, rest, _, rfl, ?_, hds⟩
      rw [encodeChar_two (by omega) ⟨by omega, by omega⟩]
      rfl
    · -- three bytes
      rw [decodeFrom_inner ⟨hlow, hhigh⟩] at h
      obtain ⟨b₃, rest, rfl, hlow₃, hhigh₃⟩ := exists_later h
      rw [decodeFrom_last ⟨hlow₃, hhigh₃⟩] at h
      obtain ⟨ds, hds, rfl⟩ := exists_of_map_cons h
      refine ⟨_, ds, rest, _, rfl, ?_, hds⟩
      rw [encodeChar_three (by omega) ⟨by omega, by omega⟩ ⟨hlow₃, hhigh₃⟩ (by omega) (by omega)]
      rfl
    · -- four bytes
      rw [decodeFrom_inner ⟨hlow, hhigh⟩] at h
      obtain ⟨b₃, rest, rfl, hlow₃, hhigh₃⟩ := exists_later h
      rw [decodeFrom_inner ⟨hlow₃, hhigh₃⟩] at h
      obtain ⟨b₄, rest, rfl, hlow₄, hhigh₄⟩ := exists_later h
      rw [decodeFrom_last ⟨hlow₄, hhigh₄⟩] at h
      obtain ⟨ds, hds, rfl⟩ := exists_of_map_cons h
      refine ⟨_, ds, rest, _, rfl, ?_, hds⟩
      rw [encodeChar_four (by omega) ⟨by omega, by omega⟩ ⟨hlow₃, hhigh₃⟩ ⟨hlow₄, hhigh₄⟩
        (by omega) (by omega)]
      rfl

theorem eq_flatMap_of_decodeFrom (cs : List Char) (h : decodeFrom position .none bytes = .ok cs) :
    bytes = cs.flatMap String.utf8EncodeChar := by
  induction cs generalizing position bytes with
  | nil =>
    cases bytes with
    | nil => rfl
    | cons b bytes =>
      obtain ⟨c, ds, _, _, hcs, -⟩ := exists_first h
      cases hcs
  | cons c cs ih =>
    cases bytes with
    | nil => simp [decodeFrom] at h
    | cons b bytes =>
      obtain ⟨_, _, rest, next, hcs, hbytes, hrest⟩ := exists_first h
      cases hcs
      rw [hbytes, List.flatMap_cons, ih hrest]

/-- Bytes are decoded as a text just when they are what the text is encoded as. -/
theorem decode_eq_ok : decode bytes = .ok cs ↔ bytes = cs.flatMap String.utf8EncodeChar := by
  constructor
  · exact eq_flatMap_of_decodeFrom cs
  · rintro rfl
    exact decodeFrom_chars cs 0

end SchemaIntents.Text.Utf8
