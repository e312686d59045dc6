import Xbase.Cursor.Getter
import Xbase.Number.Decimal96
import Xbase.Proofs.Charset.FieldText
import Xbase.Proofs.Date
import Xbase.Proofs.Text.Order
/-!
# Dates and their stamps

Each date has one stamp and is read from no other text, and stamps are in the order of their dates. So a column
of dates is in order if its bytes are.
-/
namespace Xbase

namespace Number

theorem ofDigitChars_zeros (k : Nat) (s : List Char) :
    Nat.ofDigitChars 10 (List.replicate k '0' ++ s) 0 = Nat.ofDigitChars 10 s 0 := by
  induction k with
  | zero => rfl
  | succ k ih =>
    rw [List.replicate_succ, List.cons_append, ofDigitChars_zero_cons, ih]

end Number

namespace Date

variable {d e : Date} {s : List Char} {width m n : Nat}

theorem isDigit_of_mem_padded {c : Char} (h : c ∈ padded width n) : c.isDigit = true := by
  rcases List.mem_append.mp h with h | h
  · rw [List.eq_of_mem_replicate h]
    decide
  · exact Number.isDigit_of_mem_natText h

theorem ofDigitChars_padded : Nat.ofDigitChars 10 (padded width n) 0 = n :=
  (Number.ofDigitChars_zeros _ _).trans Nat.ofDigitChars_ten_toDigits

theorem natOfText?_padded : Number.natOfText? (padded width n) = some n := by
  have hne : padded width n ≠ [] := List.append_ne_nil_of_right_ne_nil _ (Number.natText_ne_nil n)
  have hdigits : (padded width n).all Char.isDigit = true :=
    List.all_eq_true.mpr fun c => isDigit_of_mem_padded
  rw [Number.natOfText?, if_pos ⟨hne, hdigits⟩, ofDigitChars_padded]

theorem length_padded (hwidth : 0 < width) (hn : n < Number.pow10 width) : (padded width n).length = width := by
  have hle : (Number.natText n).length ≤ width :=
    (Nat.length_toDigits_le_iff (by decide) hwidth).mpr hn
  simp only [padded, List.length_append, List.length_replicate]
  omega

/-- Digits are their value with the zeros that stand in front of it. -/
theorem padded_ofDigitChars (hs : s ≠ []) (h : ∀ c ∈ s, c.isDigit = true) :
    padded s.length (Nat.ofDigitChars 10 s 0) = s := by
  induction s with
  | nil => exact absurd rfl hs
  | cons c s ih =>
    by_cases hc : c = '0'
    · subst hc
      cases s with
      | nil => decide
      | cons c s =>
        have htail := ih (List.cons_ne_nil c s) fun d hd => h d (.tail _ hd)
        have hlength := Number.length_natText_ofDigitChars_zero (List.cons_ne_nil c s) fun d hd => h d (.tail _ hd)
        rw [Number.ofDigitChars_zero_cons] at hlength ⊢
        rw [padded, List.length_cons, Nat.succ_sub hlength, List.replicate_succ, List.cons_append]
        exact congrArg _ htail
    · have hlength := congrArg List.length (Number.natText_ofDigitChars hc h)
      rw [padded, hlength, Nat.sub_self, Number.natText_ofDigitChars hc h]
      rfl

theorem padded_of_natOfText? (h : Number.natOfText? s = some n) : padded s.length n = s := by
  obtain ⟨hne, hdigits, rfl⟩ := Number.eq_of_natOfText? h
  exact padded_ofDigitChars hne hdigits

private theorem order_padded (hwidth : 0 < width) (hm : m < Number.pow10 width) (hn : n < Number.pow10 width) :
    Text.order (padded width m) (padded width n) = compare m n := by
  have hlength := (length_padded hwidth hm).trans (length_padded hwidth hn).symm
  rw [Text.order_digits (fun c => isDigit_of_mem_padded) (fun c => isDigit_of_mem_padded) hlength,
    ofDigitChars_padded, ofDigitChars_padded]

theorem year_lt (d : Date) : d.year < Number.pow10 4 := Nat.lt_succ_of_le d.isDay.1

theorem month_lt (d : Date) : d.month < Number.pow10 2 := by
  obtain ⟨-, hfirst, hlast⟩ := d.isDay
  unfold daysInMonth at hlast
  change d.month < 100
  split_ifs at hlast <;> omega

theorem day_lt (d : Date) : d.day < Number.pow10 2 := by
  obtain ⟨-, hfirst, hlast⟩ := d.isDay
  unfold daysInMonth at hlast
  change d.day < 100
  split_ifs at hlast <;> omega

theorem length_year : (padded 4 d.year).length = 4 := length_padded (by decide) d.year_lt

theorem length_month : (padded 2 d.month).length = 2 := length_padded (by decide) d.month_lt

theorem length_day : (padded 2 d.day).length = 2 := length_padded (by decide) d.day_lt

private theorem isDigit_of_mem_stamp {c : Char} (h : c ∈ d.stamp) : c.isDigit = true := by
  rw [stamp, List.mem_append, List.mem_append] at h
  rcases h with (h | h) | h <;> exact isDigit_of_mem_padded h

theorem ofStamp?_eq_some_iff : ofStamp? s = some d ↔ s = d.stamp := by
  rw [ofStamp?_eq_some_iff_parts]
  constructor
  · rintro ⟨hlength, hyear, hmonth, hday⟩
    have hyear' := padded_of_natOfText? hyear
    have hmonth' := padded_of_natOfText? hmonth
    have hday' := padded_of_natOfText? hday
    simp only [List.length_take, List.length_drop, hlength] at hyear' hmonth' hday'
    rw [stamp, stamp_parts s, ← hyear', ← hmonth', ← hday', List.append_assoc]
    rfl
  · rintro rfl
    have hyear : d.stamp.take 4 = padded 4 d.year := by
      rw [stamp, List.append_assoc, List.take_left' length_year]
    have hrest : d.stamp.drop 4 = padded 2 d.month ++ padded 2 d.day := by
      rw [stamp, List.append_assoc, List.drop_left' length_year]
    have hday : d.stamp.drop 6 = padded 2 d.day := by
      rw [stamp, List.drop_left' (by rw [List.length_append, length_year, length_month])]
    rw [hyear, hrest, List.take_left' length_month, hday]
    refine ⟨?_, natOfText?_padded, natOfText?_padded, natOfText?_padded⟩
    simp only [stamp, List.length_append, length_year, length_month, length_day]

theorem order_stamp (d e : Date) : Text.order d.stamp e.stamp = d.order e := by
  have hyear : (padded 4 d.year).length = (padded 4 e.year).length := length_year.trans length_year.symm
  have hmonth : (padded 2 d.month).length = (padded 2 e.month).length := length_month.trans length_month.symm
  rw [stamp, stamp, List.append_assoc, List.append_assoc, Text.order_append hyear, Text.order_append hmonth,
    order_padded (by decide) d.year_lt e.year_lt, order_padded (by decide) d.month_lt e.month_lt,
    order_padded (by decide) d.day_lt e.day_lt]
  rfl

private theorem stamp_ne_nullStamp (d : Date) : d.stamp ≠ nullStamp := by
  intro h
  have hstamp := ofStamp?_eq_some_iff.mpr h.symm
  have hnone : ofStamp? nullStamp = none := by decide
  rw [hnone] at hstamp
  cases hstamp

end Date

namespace Field

theorem date_eq_ok_some_iff {f : Field} {s : List Char} {d : Date} :
    f.date s = .ok (some d) ↔ s = d.stamp := by
  rw [← Date.ofStamp?_eq_some_iff, date]
  split
  · rename_i hnull
    subst hnull
    have hnone : Date.ofStamp? nullStamp ≠ some d :=
      fun h => d.stamp_ne_nullStamp (Date.ofStamp?_eq_some_iff.mp h).symm
    simp [hnone]
  · cases Date.ofStamp? s <;> simp

/-- A text is read as a date exactly if it is the stamp of that date, and as no date if it is eight zeros; a value
that is absent is no date either. Any other text is refused and carried along in the error as it is. What is read
as dates is in the order of the calendar exactly as its bytes are. -/
theorem date_corresponds [Number.DecimalArithmetic] (f : Field) :
    (∀ s d, f.date s = .ok (some d) ↔ s = d.stamp) ∧
      (∀ s, f.date s = .ok none ↔ s = "00000000".toList) ∧
      (∀ charset, Getter.date.read charset f none = .ok none) ∧
      (∀ s, s ≠ "00000000".toList → (∀ d : Date, s ≠ d.stamp) →
        f.date s = .error (.notDate f.name f.type (String.ofList s))) ∧
      ∀ s t d e, f.date s = .ok (some d) → f.date t = .ok (some e) →
        (Charset.utf8Bytes (String.ofList s) < Charset.utf8Bytes (String.ofList t) ↔ d.order e = .lt) := by
  have hnull : nullStamp = "00000000".toList := by decide +kernel
  refine ⟨fun s d => date_eq_ok_some_iff, fun s => ?_, fun charset => rfl, fun s hs hdate => ?_, ?_⟩
  · rw [date_eq_ok_none_iff, hnull]
  · cases hread : f.date s with
    | ok found =>
      cases found with
      | none => exact absurd ((date_eq_ok_none_iff.mp hread).trans hnull) hs
      | some d => exact absurd (date_eq_ok_some_iff.mp hread) (hdate d)
    | error e => rw [eq_of_date_error hread, notDate]
  · intro s t d e hs ht
    obtain rfl := date_eq_ok_some_iff.mp hs
    obtain rfl := date_eq_ok_some_iff.mp ht
    have hascii (d : Date) : ∀ c ∈ d.stamp, c.toNat < 0x80 := by
      intro c hc
      have hdigit := Number.toNat_of_isDigit (Date.isDigit_of_mem_stamp hc)
      omega
    rw [← Date.order_stamp, ← Text.encode_lt_encode_iff (hascii d) (hascii e), Charset.utf8Bytes,
      Charset.utf8Bytes, ← Charset.Utf8.encode_toList, ← Charset.Utf8.encode_toList, String.toList_ofList,
      String.toList_ofList]

def dateColumn : Field := ⟨"D", .date, 8, 0⟩

/-- Year 0 has a leap day. It comes before the first of March, and year 1900 has none. -/
theorem date_corresponds_leapDay :
    Charset.utf8Bytes "00000229" < Charset.utf8Bytes "00000301" ∧
      dateColumn.date "19000229".toList = .error (.notDate "D" .date "19000229") := by
  obtain ⟨hsome, -, -, hother, horder⟩ := date_corresponds dateColumn
  constructor
  · have hearlier := hsome "00000229".toList ⟨0, 2, 29, by decide⟩
    have hlater := hsome "00000301".toList ⟨0, 3, 1, by decide⟩
    exact (horder _ _ _ _ (hearlier.mpr (by decide +kernel)) (hlater.mpr (by decide +kernel))).mpr (by decide)
  · have hnone : Date.ofStamp? "19000229".toList = none := by decide +kernel
    refine hother _ (by decide +kernel) fun d hd => ?_
    rw [Date.ofStamp?_eq_some_iff.mpr hd] at hnone
    cases hnone

end Field

end Xbase
