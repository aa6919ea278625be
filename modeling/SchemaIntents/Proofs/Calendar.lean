import Mathlib.Algebra.Group.Nat.Defs
import Mathlib.Tactic.Common
import SchemaIntents.Proofs.Text.Points
import SchemaIntents.Shape.Pattern
import SchemaIntents.Calendar

/-! The numbers of the calendar keep to their digits, whatever day the clock counts to, so that the
text of a moment has the form of a moment. -/
namespace SchemaIntents

namespace Date

theorem daysIn_le (year month : Nat) : daysIn year month ≤ 31 := by
  unfold daysIn
  split
  · split <;> omega
  · split <;> omega

/-- The days of a year from a month on. -/
def daysFrom (year month : Nat) : Nat → Nat
  | 0 => daysIn year month
  | more + 1 => daysIn year month + daysFrom year (month + 1) more

/-- A day within the months that follow lies in one of them. -/
theorem bounds_fromMonth {year month days more : Nat} (h : days < daysFrom year month more) :
    (fromMonth year month days more).year = year ∧
      (fromMonth year month days more).month ≤ month + more ∧
      (fromMonth year month days more).day ≤ 31 := by
  induction more generalizing month days with
  | zero =>
    have := daysIn_le year month
    rw [daysFrom] at h
    exact ⟨rfl, Nat.le_refl _, show days + 1 ≤ 31 by omega⟩
  | succ more ih =>
    have := daysIn_le year month
    rw [daysFrom] at h
    rw [fromMonth]
    split
    · exact ⟨rfl, Nat.le_add_right _ _, show days + 1 ≤ 31 by omega⟩
    · have hrest : days - daysIn year month < daysFrom year (month + 1) more := by omega
      obtain ⟨hyear, hmonth, hday⟩ := ih hrest
      exact ⟨hyear, by omega, hday⟩

theorem daysFrom_january (year : Nat) : daysFrom year 1 11 = daysInYear year := by
  simp [daysFrom, daysIn, daysInYear]
  omega

/-- The days before a year. -/
def daysTo (year : Nat) : Nat :=
  (year - 1) * 365 + (year - 1) / 4 - (year - 1) / 100 + (year - 1) / 400

theorem daysTo_succ {year : Nat} (h : 0 < year) :
    daysTo (year + 1) = daysTo year + daysInYear year := by
  obtain ⟨n, rfl⟩ : ∃ n, year = n + 1 := ⟨year - 1, by omega⟩
  simp only [daysTo, daysInYear, daysIn, if_true, Nat.add_sub_cancel, Nat.succ_div,
    Nat.dvd_iff_mod_eq_zero]
  by_cases h4 : (n + 1) % 4 = 0
  · by_cases h100 : (n + 1) % 100 = 0
    · by_cases h400 : (n + 1) % 400 = 0 <;> simp [h4, h100, h400] <;> omega
    · have h400 : (n + 1) % 400 ≠ 0 := by omega
      simp [h4, h100, h400]
      omega
  · have h100 : (n + 1) % 100 ≠ 0 := by omega
    have h400 : (n + 1) % 400 ≠ 0 := by omega
    simp [h4, h100, h400]
    omega

theorem le_daysInYear (year : Nat) : 365 ≤ daysInYear year := by
  simp only [daysInYear, daysIn, if_true]
  split <;> omega

/-- A day before the year 10000 is found, and its numbers are those of a calendar. -/
theorem bounds_fromYear {year days more : Nat} (hy : 0 < year) (hmore : days < 365 * (more + 1))
    (h : daysTo year + days < daysTo 10000) :
    (fromYear year days more).year ≤ 9999 ∧ (fromYear year days more).month ≤ 12 ∧
      (fromYear year days more).day ≤ 31 := by
  have here : ∀ {year days : Nat}, daysTo year + days < daysTo 10000 → days < daysInYear year →
      (fromMonth year 1 days 11).year ≤ 9999 ∧ (fromMonth year 1 days 11).month ≤ 12 ∧
        (fromMonth year 1 days 11).day ≤ 31 := by
    intro year days h hdays
    obtain ⟨hyear, hmonth, hday⟩ := bounds_fromMonth (daysFrom_january year ▸ hdays)
    have : year ≤ 9999 := by
      simp only [daysTo] at h
      omega
    exact ⟨by omega, hmonth, hday⟩
  have hlen := le_daysInYear
  induction more generalizing year days with
  | zero => exact here h (by have := hlen year; omega)
  | succ more ih =>
    rw [fromYear]
    split
    · exact here h ‹_›
    · have hnext := daysTo_succ hy
      have := hlen year
      exact ih (Nat.succ_pos year) (by omega) (by omega)

end Date

/-- The numbers of a moment are numbers of the calendar and of the clock. -/
@[mk_iff]
structure DateTime.IsValid (t : DateTime) : Prop where
  year_le : t.date.year ≤ 9999
  month_le : t.date.month ≤ 12
  day_le : t.date.day ≤ 31
  hour_le : t.hour ≤ 23
  minute_le : t.minute ≤ 59
  second_le : t.second ≤ 59
  microsecond_le : t.microsecond ≤ 999999

instance : DecidablePred DateTime.IsValid := fun t => decidable_of_iff' _ (DateTime.isValid_iff t)

/-- The clock shows moments of the calendar until the year 9999 ends. -/
theorem DateTime.isValid_ofMicroseconds {n : Nat} (h : n < 253402300800000000) :
    (DateTime.ofMicroseconds n).IsValid := by
  have hdays : Date.daysTo 1970 + n / 1000000 / 86400 < Date.daysTo 10000 := by
    simp only [Date.daysTo]
    omega
  have hdate : (DateTime.ofMicroseconds n).date.year ≤ 9999 ∧
      (DateTime.ofMicroseconds n).date.month ≤ 12 ∧ (DateTime.ofMicroseconds n).date.day ≤ 31 :=
    Date.bounds_fromYear (by decide) (by omega) hdays
  refine ⟨hdate.1, hdate.2.1, hdate.2.2, ?_, ?_, ?_, ?_⟩ <;>
    simp only [DateTime.ofMicroseconds] <;> omega

namespace Pattern

open Text

theorem isAnyDecimal_of_isDigit {c : Char} (h : c.isDigit = true) : isAnyDecimal c = true := by
  have hc : 48 ≤ c.toNat ∧ c.toNat ≤ 57 := by
    simpa [Char.isDigit, UInt32.le_iff_toNat_le] using h
  simp [isAnyDecimal, isDecimal, inRanges, digitRanges, hc.1, hc.2]

theorem follows_append {sketch sketch' cs cs' : List Char} (h : follows sketch cs = true)
    (h' : follows sketch' cs' = true) : follows (sketch ++ sketch') (cs ++ cs') = true := by
  fun_induction follows sketch cs with
  | case1 => exact h'
  | case2 sketch c cs ih =>
    rw [Bool.and_eq_true] at h
    simp [follows, h.1, ih h.2]
  | case3 s sketch c cs hs ih =>
    rw [Bool.and_eq_true] at h
    simp [follows, h.1, ih h.2]
  | case4 => simp at h

theorem follows_digits {cs : List Char} (h : ∀ c ∈ cs, c.isDigit = true) :
    follows (List.replicate cs.length '0') cs = true := by
  induction cs with
  | nil => rfl
  | cons c cs ih =>
    rw [List.forall_mem_cons] at h
    simp [follows, List.replicate_succ, isAnyDecimal_of_isDigit h.1, ih h.2]

theorem isDigit_of_mem_padded {width n : Nat} {c : Char} (h : c ∈ (padded width n).toList) :
    c.isDigit = true := by
  rw [padded, String.toList_ofList, List.mem_append] at h
  rcases h with h | h
  · rw [(List.mem_replicate.mp h).2]
    decide
  · exact Nat.isDigit_of_mem_toDigits (by decide) (by decide) h

/-- A number that needs no more digits than it is padded to has just these. -/
theorem follows_padded {width n : Nat} (hw : 0 < width) (h : n < 10 ^ width) :
    follows (List.replicate width '0') (padded width n).toList = true := by
  have hlen : (Nat.toDigits 10 n).length ≤ width :=
    (Nat.length_toDigits_le_iff (by decide) hw).mpr h
  have hwidth : (padded width n).toList.length = width := by
    simp [padded, Nat.sub_add_cancel hlen]
  have hfollows := follows_digits fun c (hc : c ∈ (padded width n).toList) =>
    isDigit_of_mem_padded hc
  rwa [hwidth] at hfollows

/-- A number and the sign after it follow their part of a sketch. -/
theorem follows_number {width n : Nat} {sign : Char} {sketch cs : List Char} (hw : 0 < width)
    (hn : n < 10 ^ width) (hs : follows [sign] [sign] = true) (h : follows sketch cs = true) :
    follows (List.replicate width '0' ++ sign :: sketch) ((padded width n).toList ++ sign :: cs) =
      true :=
  follows_append (follows_padded hw hn) (follows_append hs h)

theorem halfMark_of_follows {sketch cs : List Char} (h : follows sketch cs = true)
    (hsketch : halfMark ∉ sketch) : halfMark ∉ cs := by
  have decimal : isAnyDecimal halfMark = false := by decide +kernel
  fun_induction follows sketch cs with
  | case1 => exact hsketch
  | case2 sketch c cs ih =>
    rw [Bool.and_eq_true] at h
    rw [List.mem_cons, not_or] at hsketch ⊢
    refine ⟨?_, ih h.2 hsketch.2⟩
    rintro rfl
    exact Bool.noConfusion (decimal.symm.trans h.1)
  | case3 s sketch c cs hs ih =>
    rw [Bool.and_eq_true, beq_iff_eq] at h
    rw [List.mem_cons, not_or] at hsketch ⊢
    exact ⟨h.1 ▸ hsketch.1, ih h.2 hsketch.2⟩
  | case4 => simp at h

/-- A moment in UTC has no halves of pairs. -/
theorem isTorn_of_utcMoment {t : String} (h : utcMoment.accepts t = true) : isTorn t = false := by
  rw [accepts, isUtcMoment, Bool.or_eq_true] at h
  have whole : halfMark ∉ t.toList := h.elim (halfMark_of_follows · (by decide))
    (halfMark_of_follows · (by decide))
  simpa [isTorn] using whole

/-- A moment of the calendar is written as a moment in UTC. -/
theorem accepts_millisecondText {t : DateTime} (h : t.IsValid) :
    utcMoment.accepts t.millisecondText = true := by
  obtain ⟨hyear, hmonth, hday, hhour, hminute, hsecond, hmicro⟩ := h
  have hsketch : "0000-00-00T00:00:00.000Z".toList = List.replicate 4 '0' ++ '-' ::
      (List.replicate 2 '0' ++ '-' :: (List.replicate 2 '0' ++ 'T' ::
        (List.replicate 2 '0' ++ ':' ::
      (List.replicate 2 '0' ++ ':' :: (List.replicate 2 '0' ++ '.' ::
      (List.replicate 3 '0' ++ 'Z' :: [])))))) := by decide
  have htext : t.millisecondText.toList = (padded 4 t.date.year).toList ++ '-' ::
      ((padded 2 t.date.month).toList ++ '-' :: ((padded 2 t.date.day).toList ++ 'T' ::
      ((padded 2 t.hour).toList ++ ':' :: ((padded 2 t.minute).toList ++ ':' ::
      ((padded 2 t.second).toList ++ '.' ::
      ((padded 3 (t.microsecond / 1000)).toList ++ 'Z' :: [])))))) := by
    simp [DateTime.millisecondText, Date.text]
  rw [accepts, isUtcMoment, Bool.or_eq_true, hsketch, htext]
  right
  exact follows_number (by decide) (by omega) rfl <| follows_number (by decide) (by omega) rfl <|
    follows_number (by decide) (by omega) rfl <| follows_number (by decide) (by omega) rfl <|
    follows_number (by decide) (by omega) rfl <| follows_number (by decide) (by omega) rfl <|
    follows_number (by decide) (by omega) rfl rfl

end Pattern
end SchemaIntents
