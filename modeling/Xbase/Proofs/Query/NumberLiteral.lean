import Xbase.Proofs.Cursor.Filter
import Xbase.Proofs.Query.Numeral
/-!
# Numbers against texts and dates

A column of texts or of dates is compared with the text that the value of a number is written with. It is the
text that stands in the query only if that has no other spelling, such as one with a zero in front.
-/
namespace Xbase

def Charset.asciiBytes (s : List Char) : List UInt8 := s.map fun c => UInt8.ofNat c.toNat

private theorem Charset.fieldText_asciiBytes {s : List Char} (h : ∀ c ∈ s, c.toNat < 128) :
    (Charset.utf8.fieldText (asciiBytes s)).text = s := by
  have hbyte : ∀ c ∈ s, (UInt8.ofNat c.toNat).toNat = c.toNat := by
    intro c hc
    have hlt := h c hc
    exact UInt8.toNat_ofNat_of_lt' (Nat.lt_trans hlt (by decide))
  have hbytes : ∀ b ∈ asciiBytes s, isAscii b = true := by
    intro b hb
    obtain ⟨c, hc, rfl⟩ := List.mem_map.mp hb
    rw [isAscii_iff, hbyte c hc]
    exact h c hc
  have hchar : ∀ c ∈ s, asciiChar (UInt8.ofNat c.toNat) = c := by
    intro c hc
    rw [asciiChar, hbyte c hc, Char.ofNat_toNat]
  rw [fieldText_utf8, (readsAscii_iff .utf8).mpr rfl _ hbytes, asciiText, asciiBytes, List.map_map]
  exact (List.map_congr_left hchar).trans (List.map_id s)

namespace Query

/-- The same value, or errors of the same kind. -/
def SameVerdict : Except Error Bool → Except Error Bool → Prop
  | .ok a, .ok b => a = b
  | .error e, .error e' => e.ctorIdx = e'.ctorIdx
  | _, _ => False

theorem SameVerdict.refl (verdict : Except Error Bool) : SameVerdict verdict verdict := by
  cases verdict <;> rfl

namespace Comparison

variable {q q' : Comparison} {row : Row} {field : Field}

private theorem operand_integer {m : Int64} (hdate : field.type = .date) (h : q.literal = .integer m) :
    q.operand field = (dateOf.read q field (Number.intText m.toInt)).map .date := by
  simp only [operand, hdate, dateOf, h, reduceCtorEq, if_false]

private theorem operand_string {s : String} (hdate : field.type = .date) (h : q.literal = .string s) :
    q.operand field = (dateOf.read q field s.toList).map .date := by
  simp only [operand, hdate, dateOf, h, reduceCtorEq, if_false]

def textRow (column : String) (s : List Char) : Row :=
  .ofValues ⟨"t", [⟨column, .character, 255, 0⟩], .utf8⟩ [some (Charset.asciiBytes s)]

private theorem field_textRow (column : String) (s : List Char) :
    (textRow column s).schema.field column = .ok ⟨column, .character, 255, 0⟩ := by
  simp [textRow, Row.ofValues, Schema.field, Schema.field?]

private theorem holds_textRow {s t : List Char} (hs : ∀ c ∈ s, c.toNat < 128) (htext : textOf? q.literal = some t) :
    q.holds (textRow q.column s) = .ok (q.operator.accepts (Text.order s t)) := by
  have hoperand : q.operand ⟨q.column, .character, 255, 0⟩ = .ok (.text t) :=
    operand_character rfl htext
  have hget : (textRow q.column s).get q.column = .ok (some (Charset.asciiBytes s)) :=
    Row.get_ofValues (i := 0) (by simp [Schema.position?])
  obtain ⟨value, hvalue, horder⟩ := exists_order?_eq (field_textRow q.column s)
  rw [hget] at hvalue
  cases hvalue
  rw [holds_eq, horder, hoperand]
  change (Except.ok (some (Text.order (Charset.utf8.fieldText (Charset.asciiBytes s)).text t))).map _ = _
  rw [Charset.fieldText_asciiBytes hs]
  rfl

private theorem sameVerdict_of_read {s : List Char} (hcolumn : q.column = q'.column)
    (hoperator : q.operator = q'.operator) (hfield : row.schema.field q.column = .ok field)
    (h : q.operand field = (dateOf.read q field s).map .date)
    (h' : q'.operand field = (dateOf.read q' field s).map .date) :
    SameVerdict (q.holds row) (q'.holds row) := by
  have hfield' : row.schema.field q'.column = .ok field := by rwa [← hcolumn]
  unfold dateOf.read at h h'
  split at h
  · rename_i hnull
    rw [if_pos hnull] at h'
    rw [holds_of_operand_error hfield h, holds_of_operand_error hfield' h']
    rfl
  · rename_i hnull
    rw [if_neg hnull] at h'
    cases hstamp : Date.ofStamp? s with
    | none =>
      rw [hstamp] at h h'
      rw [holds_of_operand_error hfield h, holds_of_operand_error hfield' h']
      rfl
    | some d =>
      rw [hstamp] at h h'
      rw [holds_congr hcolumn hoperator hfield (h.trans h'.symm)]
      exact .refl _

private theorem exists_holds_eq_illegal {s : List Char} (hfield : row.schema.field q.column = .ok field)
    (h : q.operand field = (dateOf.read q field s).map .date) (hstamp : Date.ofStamp? s = none) :
    ∃ reason, q.holds row = .error (q.illegal field reason) := by
  unfold dateOf.read at h
  split at h
  · exact ⟨_, holds_of_operand_error hfield h⟩
  · rw [hstamp] at h
    exact ⟨_, holds_of_operand_error hfield h⟩

private theorem operand_of_stamp {s : List Char} {d : Date} (h : q.operand field = (dateOf.read q field s).map .date)
    (hstamp : Date.ofStamp? s = some d) : q.operand field = .ok (.date d) := by
  have hnull : s ≠ nullStamp := by
    rintro rfl
    have hnone : Date.ofStamp? nullStamp = none := by decide
    rw [hnone] at hstamp
    cases hstamp
  rw [h, dateOf.read, if_neg hnull, hstamp]
  rfl

private theorem not_illegal_of_date {d : Date} {column : String} {type : FieldType} {literal : Literal}
    {reason : LiteralFault} (hfield : row.schema.field q.column = .ok field)
    (h : q.operand field = .ok (.date d)) :
    ¬ SameVerdict (.error (.illegalParameter column type literal reason)) (q.holds row) := by
  obtain ⟨value, -, horder⟩ := exists_order?_eq hfield
  rw [holds_eq, horder, h]
  cases value with
  | none => exact id
  | some bytes =>
    change ¬ SameVerdict _ (Except.map _ (Except.bind (field.date (row.schema.charset.decode bytes)) _))
    cases hread : field.date (row.schema.charset.decode bytes) with
    | ok found => exact id
    | error e =>
      obtain rfl := Field.eq_of_date_error hread
      simp [SameVerdict, Except.bind, Except.map, Field.notDate, Error.ctorIdx]

end Comparison

private theorem Numeral.textOf? {n : List Char} {l : Literal} (h : Numeral n l) :
    Comparison.textOf? l = some l.text.toList := by
  cases h <;> simp [Comparison.textOf?, Literal.text, integerText, floatText]

private theorem ofStamp?_eq_none_of_length {s : List Char} (h : s.length < 8) : Date.ofStamp? s = none := by
  rw [Date.ofStamp?, if_neg (Nat.ne_of_lt h)]

private theorem Numeral.sameVerdict_iff {n : List Char} {l : Literal} (h : Numeral n l) (hlength : n.length = 8)
    (hdigits : ∀ c ∈ n, c.isDigit = true) {row : Row} {field : Field} {column : String}
    (hfield : row.schema.field column = .ok field) (hdate : field.type = .date) (op : Operator) :
    SameVerdict (Comparison.holds ⟨column, op, l⟩ row)
        (Comparison.holds ⟨column, op, .string (String.ofList n)⟩ row) ↔
      ¬ (n.head? = some '0' ∧ (Date.ofStamp? n).isSome = true) := by
  obtain ⟨m, rfl, hm⟩ := h.exists_integer hdigits
  have htext : Number.intText m.toInt = Number.natText (Nat.ofDigitChars 10 n 0) := by
    rw [Number.intText, if_neg (by omega), hm, Int.natAbs_natCast]
  have hnumber := Comparison.operand_integer (q := ⟨column, op, .integer m⟩) hdate rfl
  have hquoted := Comparison.operand_string (q := ⟨column, op, .string (String.ofList n)⟩) hdate rfl
  rw [htext] at hnumber
  rw [String.toList_ofList] at hquoted
  obtain ⟨c, s, rfl⟩ : ∃ c s, n = c :: s := List.exists_cons_of_ne_nil (by rintro rfl; cases hlength)
  by_cases hc : c = '0'
  · subst hc
    have hs : ∀ c ∈ s, c.isDigit = true := fun c hmem => hdigits c (List.mem_cons_of_mem _ hmem)
    have hlost := Number.length_natText_ofDigitChars_zero (by rintro rfl; cases hlength) hs
    rw [List.length_cons] at hlength
    have hnone : Date.ofStamp? (Number.natText (Nat.ofDigitChars 10 ('0' :: s) 0)) = none :=
      ofStamp?_eq_none_of_length (by omega)
    obtain ⟨reason, hillegal⟩ := Comparison.exists_holds_eq_illegal hfield hnumber hnone
    rw [hillegal]
    cases hstamp : Date.ofStamp? ('0' :: s) with
    | none =>
      obtain ⟨reason', hillegal'⟩ := Comparison.exists_holds_eq_illegal hfield hquoted hstamp
      rw [hillegal']
      exact iff_of_true rfl (by simp)
    | some d =>
      have hdate := Comparison.operand_of_stamp hquoted hstamp
      exact iff_of_false (Comparison.not_illegal_of_date hfield hdate) (by simp)
  · rw [Number.natText_ofDigitChars hc hdigits] at hnumber
    exact iff_of_true (Comparison.sameVerdict_of_read rfl rfl hfield hnumber hquoted) (by simp [hc])

private theorem Statement.dropLast_tokens {s : Statement} {c : Comparison} (hc : s.condition = some c) :
    s.tokens.dropLast = .keyword .select :: s.columns.tokens ++
      [.keyword .fromWord, .identifier s.table, .keyword .whereWord, .identifier c.column] ++
      [.operator c.operator] := by
  have htokens : s.tokens = .keyword .select :: s.columns.tokens ++
      [.keyword .fromWord, .identifier s.table, .keyword .whereWord, .identifier c.column] ++
      [.operator c.operator] ++ [c.literal.token] := by
    simp [Statement.tokens, conditionTokens, Comparison.tokens, hc]
  rw [htokens, List.dropLast_concat]

private theorem Statement.tokens_withLiteral {s : Statement} {c : Comparison} (hc : s.condition = some c)
    (l : Literal) : (s.withLiteral l).tokens = s.tokens.dropLast ++ [l.token] := by
  rw [Statement.dropLast_tokens hc]
  simp [Statement.tokens, Statement.withLiteral, conditionTokens, Comparison.tokens, hc]

/-- A query is read up to its literal whatever the literal is. -/
theorem parse_withLiteral {s : Statement} {c : Comparison} {p a : List Char} {l : Literal} (hs : s.IsPlain)
    (hc : s.condition = some c) (hp : Spells p s.tokens.dropLast) (ha : Spells a [l.token]) :
    parse (p ++ ' ' :: a) = .ok { s with condition := some { c with literal := l } } := by
  have hlast : s.tokens.dropLast.getLast? = some (.operator c.operator) := by
    rw [Statement.dropLast_tokens hc, List.getLast?_concat]
  have hspells : Spells (p ++ ' ' :: a) (s.withLiteral l).tokens := by
    rw [Statement.tokens_withLiteral hc]
    refine hp.append (separates_space ?_) ha.space
    rw [hlast]
    exact nofun
  have hwith : s.withLiteral l = { s with condition := some { c with literal := l } } := by
    simp [Statement.withLiteral, hc]
  rw [parse_of_spells hspells, readStatement_eq_ok_iff (endsOnce_of_tokenize hspells), ← hwith]
  exact ⟨hs.withLiteral l, .inl rfl⟩

/-- In a condition on a column of texts, a number stands for the text that its value is written with, and so it
stands for its own characters exactly if they are that text. In a condition on a column of dates, eight digits
come to what they come to as a string, unless they are a date and begin with a zero: the number is no date
then. -/
theorem holds_numeral {s : Statement} {column : String} {operator : Operator} {literal l : Literal}
    {p n : List Char} (hs : s.IsPlain) (hc : s.condition = some ⟨column, operator, literal⟩)
    (hp : Spells p s.tokens.dropLast) (hn : Numeral n l) :
    parse (p ++ ' ' :: n) = .ok { s with condition := some ⟨column, operator, l⟩ } ∧
      parse (p ++ ' ' :: '\'' :: (n ++ ['\''])) =
        .ok { s with condition := some ⟨column, operator, .string (String.ofList n)⟩ } ∧
      (∀ op row field, row.schema.field column = .ok field → field.type = .character →
        Comparison.holds ⟨column, op, l⟩ row = Comparison.holds ⟨column, op, .string l.text⟩ row) ∧
      ((∀ op row field, row.schema.field column = .ok field → field.type = .character →
          Comparison.holds ⟨column, op, l⟩ row =
            Comparison.holds ⟨column, op, .string (String.ofList n)⟩ row) ↔
        l.text = String.ofList n) ∧
      (n.length = 8 → (∀ c ∈ n, c.isDigit = true) →
        ∀ op row field, row.schema.field column = .ok field → field.type = .date →
          (SameVerdict (Comparison.holds ⟨column, op, l⟩ row)
              (Comparison.holds ⟨column, op, .string (String.ofList n)⟩ row) ↔
            ¬ (n.head? = some '0' ∧ (Date.ofStamp? n).isSome = true))) := by
  have hwritten : ∀ op row field, row.schema.field column = .ok field → field.type = .character →
      Comparison.holds ⟨column, op, l⟩ row = Comparison.holds ⟨column, op, .string l.text⟩ row := by
    intro op row field hfield hchar
    have hoperand : Comparison.operand ⟨column, op, l⟩ field =
        Comparison.operand ⟨column, op, .string l.text⟩ field := by
      rw [Comparison.operand_character hchar hn.textOf?, Comparison.operand_character hchar rfl]
    exact Comparison.holds_congr rfl rfl hfield hoperand
  refine ⟨?_, ?_, hwritten, ?_, ?_⟩
  · exact parse_withLiteral hs hc hp hn.spells
  · exact parse_withLiteral hs hc hp hn.spells_quoted
  · constructor
    · intro hsame
      -- The row that holds the characters of the number tells the two texts apart.
      have hascii : ∀ c ∈ n, c.toNat < 128 := fun c hmem => (hn.isNumeralChar c hmem).toNat_lt
      have hrow := hsame .eq _ _ (Comparison.field_textRow column n) rfl
      rw [Comparison.holds_textRow (q := ⟨column, .eq, l⟩) hascii hn.textOf?,
        Comparison.holds_textRow (q := ⟨column, .eq, .string (String.ofList n)⟩) hascii rfl,
        String.toList_ofList, Text.order_eq_iff.mpr rfl] at hrow
      have horder : Text.order n l.text.toList = .eq := eq_of_beq (Except.ok.inj hrow)
      rw [Text.order_eq_iff.mp horder, String.ofList_toList]
    · intro htext op row field hfield hchar
      rw [hwritten op row field hfield hchar, htext]
  · intro hlength hdigits op row field hfield hdate
    exact hn.sameVerdict_iff hlength hdigits hfield hdate op

def dateQuery : Statement := ⟨.all, "t", some ⟨"D", .ge, .null⟩⟩

theorem holds_numeral_dateRow :
    dateQuery.IsPlain ∧ Spells "SELECT * FROM t WHERE D >=".toList dateQuery.tokens.dropLast ∧
      Numeral "18890331".toList (.integer 18890331) ∧
      parse "SELECT * FROM t WHERE D >= 18890331".toList =
        .ok ⟨.all, "t", some ⟨"D", .ge, .integer 18890331⟩⟩ ∧
      SameVerdict (Comparison.holds ⟨"D", .ge, .integer 18890331⟩ Cursor.dateRow)
        (Comparison.holds ⟨"D", .ge, .string "18890331"⟩ Cursor.dateRow) := by
  have hplain : dateQuery.IsPlain := ⟨by decide, by decide⟩
  have hp : Spells "SELECT * FROM t WHERE D >=".toList dateQuery.tokens.dropLast := by decide +kernel
  have hn : Numeral "18890331".toList (.integer 18890331) := by
    have htoken : Lexer.token '1' "8890331".toList = (.ok (.integer 18890331), []) := by decide +kernel
    exact .integer htoken
  obtain ⟨hparse, -, -, -, hdate⟩ := holds_numeral hplain rfl hp hn
  have hfield : Cursor.dateRow.schema.field "D" = .ok ⟨"D", .date, 8, 0⟩ := by decide +kernel
  have hdigits : ∀ c ∈ "18890331".toList, c.isDigit = true := List.all_eq_true.mp (by decide +kernel)
  have hsame := (hdate (by decide) hdigits .ge Cursor.dateRow _ hfield rfl).mpr (by decide)
  exact ⟨hplain, hp, hn, hparse, hsame⟩

/-- The zeros in front of a number are no part of the text it is compared with. -/
theorem holds_numeral_leadingZeros :
    parse "SELECT * FROM t WHERE A = 007".toList = .ok ⟨.all, "t", some ⟨"A", .eq, .integer 7⟩⟩ ∧
      parse "SELECT * FROM t WHERE A = '007'".toList = .ok ⟨.all, "t", some ⟨"A", .eq, .string "007"⟩⟩ ∧
      Comparison.holds ⟨"A", .eq, .integer 7⟩ (Comparison.textRow "A" "007".toList) = .ok false ∧
      Comparison.holds ⟨"A", .eq, .string "007"⟩ (Comparison.textRow "A" "007".toList) = .ok true := by
  decide +kernel

end Query

end Xbase
