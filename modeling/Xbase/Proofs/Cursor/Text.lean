import Xbase.Proofs.Charset.FieldText
import Xbase.Proofs.Cursor.Filter
/-!
# Texts in conditions and getters

A condition on a text column and the getter for texts read a value in the same way, so a string that stands in
the column in UTF-8 is found by a condition on it and returned by the getter.
-/
namespace Xbase

namespace Query.Comparison

variable {row : Row} {field : Field} {column : String} {s : String} {bytes : List UInt8}

private theorem holds_eq_string (hfield : row.schema.field column = .ok field) (hchar : field.type = .character)
    (hvalue : row.get column = .ok (some bytes)) :
    holds ⟨column, .eq, .string s⟩ row =
      .ok (decide ((row.schema.charset.fieldText bytes).text = s.toList)) := by
  obtain ⟨value, hget, horder⟩ := exists_order?_eq (q := ⟨column, .eq, .string s⟩) hfield
  rw [hvalue] at hget
  cases hget
  rw [holds_eq, horder, operand_character hchar rfl]
  change Except.ok (Text.order (row.schema.charset.fieldText bytes).text s.toList == .eq) = _
  rw [Except.ok.injEq, Bool.eq_iff_iff, beq_iff_eq, Text.order_eq_iff, decide_eq_true_eq]

end Query.Comparison

namespace Cursor

open RowSource (schema)

private theorem get_text_fst [Number.DecimalArithmetic] {σ : Type} [RowSource σ] {c : Cursor σ} {row : Row}
    (hopen : c.isClosed = false)
    (hcurrent : c.current = some row) {column : ColumnRef} {field : Field}
    (hresolve : (schema c.source).resolve column = .ok field) {bytes : List UInt8}
    (hvalue : row.get field.name = .ok (some bytes)) :
    (c.get .text column).1 = .ok (some (.text ((schema c.source).charset.fieldText bytes).text)) := by
  have hreading : c.reading .text column =
      .ok (some (.text ((schema c.source).charset.fieldText bytes).text)) := by
    rw [reading, value, hresolve]
    simp only [hcurrent, hvalue]
    rfl
  rw [get_of_open hopen, hreading]

/-- In a table whose character set reads each byte on its own and ASCII as it is, a text in UTF-8 without a
replacement character is read back, in the declared character set if it is ASCII and in UTF-8 otherwise. What
is not in UTF-8 is read in the declared character set, a character for each byte, and in a table of UTF-8
everything is read in UTF-8. So a text column that holds the string is equal to it in conditions, and the getter
for texts returns it. -/
theorem get_text_utf8Bytes [Number.DecimalArithmetic] {charset : Charset} (h : charset.IsBytewise) :
    (∀ s : String, Charset.replacementChar ∉ s.toList →
      charset.fieldText (Charset.utf8Bytes s) =
        ⟨s.toList, if s.toList.all (fun c => c.toNat < 0x80) then charset else .utf8⟩) ∧
      (∀ bytes : List UInt8, ¬ bytes.toByteArray.IsValidUTF8 →
        charset.fieldText bytes = ⟨charset.decode bytes, charset⟩ ∧
          (charset.decode bytes).length = bytes.length) ∧
      (∀ bytes, Charset.utf8.fieldText bytes = ⟨Charset.utf8.decode bytes, .utf8⟩) ∧
      ∀ s : String, Charset.replacementChar ∉ s.toList →
        ∀ (row : Row) (column : String) (field : Field),
          (row.schema.charset = .utf8 ∨ row.schema.charset = charset) →
          row.schema.field column = .ok field → field.type = .character →
          row.get column = .ok (some (Charset.utf8Bytes s)) →
          Query.Comparison.holds ⟨column, .eq, .string s⟩ row = .ok true ∧
            ∀ (σ : Type) [RowSource σ] (c : Cursor σ) (ref : ColumnRef) (named : Field),
              c.isClosed = false → c.current = some row → schema c.source = row.schema →
              row.schema.resolve ref = .ok named → named.name = column →
              (c.get .text ref).1 = .ok (some (.text s.toList)) := by
  refine ⟨fun s hs => ?_, fun bytes hinvalid => ?_, Charset.fieldText_utf8, ?_⟩
  · rw [Charset.utf8Bytes, ← Charset.Utf8.encode_toList, h.fieldText_encode hs]
  · exact ⟨Charset.fieldText_of_malformed hinvalid, h.length_decode bytes⟩
  intro s hs row column field hcharset hfield hchar hvalue
  have htext : (row.schema.charset.fieldText (Charset.utf8Bytes s)).text = s.toList := by
    refine Charset.fieldText_utf8Bytes (hcharset.imp_right fun hlegacy => ?_) hs
    rwa [hlegacy]
  constructor
  · rw [Query.Comparison.holds_eq_string hfield hchar hvalue, htext, decide_eq_true rfl]
  · rintro σ _ c ref named hopen hcurrent hschema hresolve rfl
    rw [← hschema] at hresolve
    rw [get_text_fst hopen hcurrent hresolve hvalue, hschema, htext]

def textColumn : Schema := ⟨"t", [⟨"NAME", .character, 8, 0⟩], .page .windows1252⟩

def textCursor : Cursor MemorySource where
  source := .ofRows textColumn [[some (Charset.utf8Bytes "café")]]
  sql := "SELECT * FROM t"
  condition := none
  boundary := .standard
  phase := .beforeFirst
  current := none
  wasNull := false
  closed := false
  owners := []

theorem get_text_textCursor :
    (Charset.page .windows1252).IsBytewise ∧ Charset.replacementChar ∉ "café".toList ∧
      (Charset.page .windows1252).fieldText (Charset.utf8Bytes "café") = ⟨"café".toList, .utf8⟩ ∧
      ∃ row, (textCursor.after [.next]).current = some row ∧
        Query.Comparison.holds ⟨"NAME", .eq, .string "café"⟩ row = .ok true ∧
        ((textCursor.after [.next]).get .text (.index 1)).1 = .ok (some (.text "café".toList)) := by
  have hbytewise := (Charset.isSingleByte_page .windows1252).isBytewise
  have hs : Charset.replacementChar ∉ "café".toList := by decide +kernel
  have hbeyond : ¬ "café".toList.all (fun c => c.toNat < 0x80) = true := by decide +kernel
  obtain ⟨hread, -, -, hrows⟩ := get_text_utf8Bytes hbytewise
  refine ⟨hbytewise, hs, ?_, .ofValues textColumn [some (Charset.utf8Bytes "café")], rfl, ?_⟩
  · rw [hread _ hs, if_neg hbeyond]
  · obtain ⟨hholds, hget⟩ := hrows "café" hs (.ofValues textColumn [some (Charset.utf8Bytes "café")]) "NAME"
      ⟨"NAME", .character, 8, 0⟩ (.inr rfl) rfl rfl rfl
    exact ⟨hholds, hget _ (textCursor.after [.next]) (.index 1) _ rfl rfl rfl rfl rfl⟩

end Cursor

end Xbase
