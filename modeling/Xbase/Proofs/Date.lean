import Xbase.Field.Reading
import Xbase.Proofs.Number.Notation
/-!
# The digits of dates

The text of a date holds digits alone, so a text with any other character is no date.
-/
namespace Xbase

namespace Date

variable {s : List Char} {d : Date}

private theorem of?_eq_some_iff {year month day : Nat} :
    of? year month day = some d ↔ year = d.year ∧ month = d.month ∧ day = d.day := by
  obtain ⟨year', month', day', hday⟩ := d
  unfold of?
  split
  · simp
  · rename_i hnot
    refine iff_of_false nofun ?_
    rintro ⟨rfl, rfl, rfl⟩
    exact hnot hday

/-- A date is read from eight digits, which are those of its year, its month and its day. -/
theorem ofStamp?_eq_some_iff_parts :
    ofStamp? s = some d ↔
      s.length = 8 ∧ Number.natOfText? (s.take 4) = some d.year ∧
        Number.natOfText? ((s.drop 4).take 2) = some d.month ∧ Number.natOfText? (s.drop 6) = some d.day := by
  unfold ofStamp?
  split
  · rename_i hlength
    simp only [hlength, true_and, Option.bind_eq_bind, Option.bind_eq_some_iff, of?_eq_some_iff]
    constructor
    · rintro ⟨year, hyear, month, hmonth, day, hday, rfl, rfl, rfl⟩
      exact ⟨hyear, hmonth, hday⟩
    · rintro ⟨hyear, hmonth, hday⟩
      exact ⟨_, hyear, _, hmonth, _, hday, rfl, rfl, rfl⟩
  · rename_i hlength
    exact iff_of_false nofun fun h => hlength h.1

theorem stamp_parts (s : List Char) : s = s.take 4 ++ ((s.drop 4).take 2 ++ s.drop 6) := by
  have hrest : (s.drop 4).drop 2 = s.drop 6 := List.drop_drop
  rw [← hrest, List.take_append_drop, List.take_append_drop]

private theorem isDigit_of_ofStamp? (h : ofStamp? s = some d) : ∀ c ∈ s, c.isDigit = true := by
  obtain ⟨-, hyear, hmonth, hday⟩ := ofStamp?_eq_some_iff_parts.mp h
  intro c hc
  rw [stamp_parts s, List.mem_append, List.mem_append] at hc
  rcases hc with hc | hc | hc
  · exact (Number.eq_of_natOfText? hyear).2.1 c hc
  · exact (Number.eq_of_natOfText? hmonth).2.1 c hc
  · exact (Number.eq_of_natOfText? hday).2.1 c hc

end Date

private theorem isDigit_of_mem_nullStamp : ∀ c ∈ nullStamp, c.isDigit = true := List.all_eq_true.mp (by decide)

namespace Field

variable {f : Field} {s : List Char}

theorem date_eq_ok_none_iff : f.date s = .ok none ↔ s = nullStamp := by
  unfold date
  split
  · rename_i hnull
    exact iff_of_true rfl hnull
  · rename_i hnull
    split <;> exact iff_of_false nofun hnull

theorem eq_of_date_error {e : Error} (h : f.date s = .error e) : e = f.notDate s := by
  unfold date at h
  split at h
  · cases h
  · split at h
    · cases h
    · exact (Except.error.inj h).symm

theorem date_of_not_isDigit (f : Field) (h : ∃ c ∈ s, c.isDigit = false) : f.date s = .error (f.notDate s) := by
  obtain ⟨c, hc, hdigit⟩ := h
  have hnull : s ≠ nullStamp := fun hs => by
    have hzero := isDigit_of_mem_nullStamp c (hs ▸ hc)
    rw [hdigit] at hzero
    cases hzero
  rw [date, if_neg hnull]
  cases hstamp : Date.ofStamp? s with
  | none => rfl
  | some d =>
    have hall := Date.isDigit_of_ofStamp? hstamp c hc
    rw [hdigit] at hall
    cases hall

end Field

end Xbase
