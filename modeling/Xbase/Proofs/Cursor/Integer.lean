import Xbase.Proofs.Cursor.Nulls
import Xbase.Proofs.Number.Integer
import Xbase.Proofs.Query.Operand
/-!
# Integer getters

The getters for integers read one grammar and differ in the range of what they return. A getter of a wider range
returns all that a narrower one does.
-/
namespace Xbase

open Number (Denotes IntWidth)
open RowSource (schema)

namespace Field

variable {f : Field} {w : IntWidth} {s : List Char}

theorem integer_eq_ok_iff {v : Int} :
    f.integer w s = .ok v ↔ Denotes (Text.trim s) v ∧ w.Holds v := by
  rw [← IntWidth.ofText?_eq_some_iff, integer, number]
  cases w.ofText? (Text.trim s) <;> simp

private theorem integer_of_not_denotes (h : ∀ v, Denotes (Text.trim s) v → ¬ w.Holds v) :
    f.integer w s = .error (f.notNumeric s) := by
  cases hread : f.integer w s with
  | ok v =>
    obtain ⟨hv, hholds⟩ := integer_eq_ok_iff.mp hread
    exact absurd hholds (h v hv)
  | error e => rw [eq_of_number_error hread]

private theorem integer_eq_ok_iff_holds {w' : IntWidth} {v v' : Int} (h : f.integer w s = .ok v) :
    f.integer w' s = .ok v' ↔ v' = v ∧ w'.Holds v := by
  obtain ⟨hdenotes, -⟩ := integer_eq_ok_iff.mp h
  rw [integer_eq_ok_iff]
  constructor
  · intro h'
    obtain ⟨hdenotes', hholds⟩ := h'
    obtain rfl := hdenotes.unique hdenotes'
    exact ⟨rfl, hholds⟩
  · intro h'
    obtain ⟨rfl, hholds⟩ := h'
    exact ⟨hdenotes, hholds⟩

end Field

private theorem Getter.interpret_integer [Number.DecimalArithmetic] {w : IntWidth} {charset : Charset} {field : Field}
    (bytes : List UInt8) :
    (Getter.integer w).interpret charset field bytes =
      (field.integer w (charset.decode bytes)).map fun v => some (.integer v) := by
  change Except.bind (field.integer w (charset.decode bytes)) _ = _
  cases field.integer w (charset.decode bytes) <;> rfl

namespace Cursor

variable {σ : Type} [RowSource σ] {c d : Cursor σ} {column : ColumnRef} {w : IntWidth}

section Runs

variable [Number.DecimalArithmetic]

private theorem get_integer_cases (c : Cursor σ) (column : ColumnRef) :
    (∃ e, ∀ w, c.get (.integer w) column = (.error e, c)) ∨
      (∀ w, c.get (.integer w) column = (.ok (some (.integer 0)), { c with wasNull := true })) ∨
      ∃ (f : Field) (s : List Char), ∀ w,
        (∀ v, f.integer w s = .ok v →
          c.get (.integer w) column = (.ok (some (.integer v)), { c with wasNull := false })) ∧
        ∀ e, f.integer w s = .error e → c.get (.integer w) column = (.error e, c) := by
  cases hclosed : c.isClosed with
  | true => exact .inl ⟨_, fun w => get_of_isClosed hclosed _ column⟩
  | false =>
    have hget (w : IntWidth) := get_of_open hclosed (.integer w) column
    cases hvalue : c.value column with
    | error e =>
      refine .inl ⟨e, fun w => ?_⟩
      rw [hget w, reading, hvalue]
    | ok found =>
      obtain ⟨f, value⟩ := found
      cases value with
      | none =>
        refine .inr (.inl fun w => ?_)
        rw [hget w, reading, hvalue]
        rfl
      | some bytes =>
        refine .inr (.inr ⟨f, (schema c.source).charset.decode bytes, fun w => ?_⟩)
        have hreading : c.reading (.integer w) column =
            (f.integer w ((schema c.source).charset.decode bytes)).map fun v => some (.integer v) := by
          rw [reading, hvalue]
          exact Getter.interpret_integer bytes
        constructor
        · intro v hv
          rw [hget w, hreading, hv]
          rfl
        · intro e he
          rw [hget w, hreading, he]
          rfl

private theorem get_integer_of_eq_ok (w' : IntWidth) {r : Option Reading} (h : c.get (.integer w) column = (.ok r, d)) :
    ∃ v, r = some (.integer v) ∧ w.Holds v ∧
      (w'.Holds v → c.get (.integer w') column = (.ok r, d)) ∧
      (c.Succeeds (.get (.integer w') column) → w'.Holds v) := by
  obtain ⟨e, herror⟩ | hnull | ⟨f, s, hread⟩ := get_integer_cases c column
  · rw [herror w] at h
    cases h
  · rw [hnull w] at h
    cases h
    have hzero (w : IntWidth) : w.Holds 0 := by cases w <;> decide
    exact ⟨0, rfl, hzero w, fun _ => hnull w', fun _ => hzero w'⟩
  · obtain ⟨hok, herror⟩ := hread w
    obtain ⟨hok', herror'⟩ := hread w'
    cases hv : f.integer w s with
    | error e =>
      rw [herror e hv] at h
      cases h
    | ok v =>
      rw [hok v hv] at h
      cases h
      refine ⟨v, rfl, (Field.integer_eq_ok_iff.mp hv).2, ?_, ?_⟩
      · intro hholds
        exact hok' v ((Field.integer_eq_ok_iff_holds hv).mpr ⟨rfl, hholds⟩)
      · intro hsucceeds
        obtain ⟨r, hr⟩ := hsucceeds
        cases hv' : f.integer w' s with
        | error e =>
          rw [herror' e hv'] at hr
          cases hr
        | ok v' => exact ((Field.integer_eq_ok_iff_holds hv).mp hv').2

/-- The getters for integers read the texts that denote an integer in their range when the blanks around them are
removed, and refuse any other text as it is. So what a getter returns a wider one returns as well, with the same
note of nulls; what a wider one returns a narrower one returns exactly if it is in its range; and the decimal
digits of an integer are read back with blanks around them. -/
theorem get_integer_nests (c : Cursor σ) (column : ColumnRef) :
    (∀ (f : Field) (w : IntWidth) (s : List Char),
      (∀ v, f.integer w s = .ok v ↔ Denotes (Text.trim s) v ∧ w.Holds v) ∧
        ((∀ v, Denotes (Text.trim s) v → ¬ w.Holds v) →
          f.integer w s = .error (.notNumeric f.name f.type (String.ofList s)))) ∧
      (∀ (w w' : IntWidth) (r : Option Reading) (d : Cursor σ), w.bits ≤ w'.bits →
        c.get (.integer w) column = (.ok r, d) → c.get (.integer w') column = (.ok r, d)) ∧
      (∀ (w w' : IntWidth) (r : Option Reading) (d : Cursor σ), c.get (.integer w) column = (.ok r, d) →
        ∃ v, r = some (.integer v) ∧ (c.Succeeds (.get (.integer w') column) ↔ w'.Holds v)) ∧
      ∀ (f : Field) (w : IntWidth) (v : Int) (front back : List Char), w.Holds v →
        (∀ b ∈ front, Text.isBlank b = true) → (∀ b ∈ back, Text.isBlank b = true) →
        f.integer w (front ++ Number.intText v ++ back) = .ok v := by
  refine ⟨fun f w s => ⟨fun v => Field.integer_eq_ok_iff, Field.integer_of_not_denotes⟩, ?_, ?_, ?_⟩
  · intro w w' r d hbits hget
    obtain ⟨v, -, hholds, hother, -⟩ := get_integer_of_eq_ok w' hget
    exact hother (hholds.mono hbits)
  · intro w w' r d hget
    obtain ⟨v, hr, -, hother, hrange⟩ := get_integer_of_eq_ok w' hget
    exact ⟨v, hr, hrange, fun hholds => ⟨r, congrArg Prod.fst (hother hholds)⟩⟩
  · intro f w v front back hholds hfront hback
    rw [Field.integer_eq_ok_iff, Number.trim_intText hfront hback]
    exact ⟨Number.denotes_intText v, hholds⟩

end Runs

def amountColumn : Schema := ⟨"t", [⟨"N", .numeric, 8, 0⟩], .page .windows1252⟩

/-- A cursor on the only row of that table, which holds a number with a sign and blanks around it. -/
def amountCursor : Cursor MemorySource :=
  let values : List Value := [some [0x20, 0x2B, 0x34, 0x30, 0x30, 0x30, 0x30, 0x20]]
  { source := .ofRows amountColumn [values]
    sql := "SELECT * FROM t"
    condition := none
    boundary := .standard
    phase := .onRow
    current := some (.ofValues amountColumn values)
    wasNull := false
    closed := false
    owners := [] }

/-- The number is beyond the narrowest getter, and the two wider ones return it. The least integer of 16 bits is
read between an ideographic space and a tab, and its negative is refused. -/
theorem get_integer_nests_amountCursor :
    amountCursor.get (.integer .w64) (.index 1) = (.ok (some (.integer 40000)), amountCursor) ∧
      ¬ amountCursor.Succeeds (.get (.integer .w16) (.index 1)) ∧
      Field.integer ⟨"N", .numeric, 8, 0⟩ .w16 ('\u3000' :: "-32768\t".toList) = .ok (-32768) ∧
      Field.integer ⟨"N", .numeric, 8, 0⟩ .w16 " 32768".toList = .error (.notNumeric "N" .numeric " 32768") := by
  obtain ⟨hread, hwider, hrange, hpadded⟩ := get_integer_nests amountCursor (.index 1)
  have hget : amountCursor.get (.integer .w32) (.index 1) = (.ok (some (.integer 40000)), amountCursor) := rfl
  refine ⟨hwider .w32 .w64 _ _ (by decide) hget, ?_, ?_, ?_⟩
  · obtain ⟨v, hv, hsucceeds⟩ := hrange .w32 .w16 _ _ hget
    obtain rfl : 40000 = v := by simpa using hv
    rw [hsucceeds]
    decide
  · have hfront : ∀ b ∈ ['\u3000'], Text.isBlank b = true := List.all_eq_true.mp (by decide)
    have hback : ∀ b ∈ ['\t'], Text.isBlank b = true := List.all_eq_true.mp (by decide)
    exact hpadded ⟨"N", .numeric, 8, 0⟩ .w16 (-32768) ['\u3000'] ['\t'] (by decide) hfront hback
  · refine (hread _ .w16 " 32768".toList).2 fun v hv => ?_
    have hdenotes : Denotes (Text.trim " 32768".toList) 32768 := by
      rw [← Number.intOfText?_eq_some_iff]
      decide +kernel
    rw [hv.unique hdenotes]
    decide

end Cursor

end Xbase
