import Xbase.Number.Decimal96
import Xbase.Proofs.Charset.SingleByte
import Xbase.Proofs.Cursor.Step
import Xbase.Proofs.Date
import Xbase.Proofs.Query.Operand
import Xbase.Proofs.Text.Order
/-!
# Conditions and getters

A condition reads the value of its column by itself, and dates in the declared character set where a getter
prefers UTF-8. It agrees with the getter of the column's type all the same: it holds of a row if the getter
returns a value that the operator accepts, and where one of the two refuses the value, so does the other.
-/
namespace Xbase

open Query (Comparison Operand)

/-- Two errors about a value that is no number, or two about a value that is no date. -/
inductive Error.SameFault : Error → Error → Prop where
  | notNumeric (column column' : String) (type type' : FieldType) (value value' : String) :
    SameFault (.notNumeric column type value) (.notNumeric column' type' value')
  | notDate (column column' : String) (type type' : FieldType) (value value' : String) :
    SameFault (.notDate column type value) (.notDate column' type' value')

def Getter.ofType? : FieldType → Option Getter
  | .character => some .text
  | .numeric => some .double
  | .float => some .double
  | .date => some .date
  | _ => none

private theorem Getter.isOrdered_of_ofType? {type : FieldType} {g : Getter} (h : ofType? type = some g) :
    type.isOrdered = true := by
  cases type <;> first | rfl | cases h

private theorem Getter.eq_double_of_isNumeric {type : FieldType} {g : Getter} (htype : type.isNumeric = true)
    (h : ofType? type = some g) : g = .double := by
  cases type <;> first | cases h; rfl | cases htype

def Reading.order? : Reading → Operand → Option Ordering
  | .text s, .text t => some (Text.order s t)
  | .double x, .number y => x.order? y
  | .date d, .date e => some (d.order e)
  | _, _ => none

inductive Query.Operand.Fits : Operand → Getter → Prop where
  | number (x : Number.Binary64) : Fits (.number x) .double
  | text (s : List Char) : Fits (.text s) .text
  | date (d : Date) : Fits (.date d) .date

/-- Whether the order that a condition finds is the one of what a getter returns, and the two fail alike. -/
def Agrees (operand : Operand) : Except Error (Option Ordering) → Except Error (Option Reading) → Prop
  | .ok order, .ok reading => order = reading.bind (·.order? operand)
  | .error e, .error e' => e.SameFault e'
  | _, _ => False

private theorem not_isDigit_of_hasNonAscii {s : List Char} (h : Charset.HasNonAscii s) :
    ∃ c ∈ s, c.isDigit = false := by
  obtain ⟨c, hc, hbeyond⟩ := h
  refine ⟨c, hc, Bool.eq_false_iff.mpr fun hdigit => ?_⟩
  simp only [Char.isDigit, Bool.and_eq_true, decide_eq_true_eq] at hdigit
  have hle : c.toNat ≤ 57 := UInt32.le_iff_toNat_le.mp hdigit.2
  omega

private theorem Field.date_fieldText {charset : Charset} (h : charset = .utf8 ∨ charset.IsSingleByte) (f : Field)
    (bytes : List UInt8) :
    f.date (charset.fieldText bytes).text = f.date (charset.decode bytes) ∨
      f.date (charset.fieldText bytes).text = .error (f.notDate (charset.fieldText bytes).text) ∧
        f.date (charset.decode bytes) = .error (f.notDate (charset.decode bytes)) := by
  rcases h with rfl | h
  · left
    rw [Charset.fieldText_utf8]
  · rcases h.fieldText_text bytes with heq | ⟨hfield, hdeclared⟩
    · left
      rw [heq]
    · right
      exact ⟨f.date_of_not_isDigit (not_isDigit_of_hasNonAscii hfield),
        f.date_of_not_isDigit (not_isDigit_of_hasNonAscii hdeclared)⟩

theorem Query.Operand.Fits.agrees [Number.DecimalArithmetic] {operand : Operand} {g : Getter} {charset : Charset}
    (hfits : operand.Fits g) (hcharset : charset = .utf8 ∨ charset.IsSingleByte) (field : Field)
    (bytes : List UInt8) :
    Agrees operand (operand.orderOf field charset bytes) (g.interpret charset field bytes) := by
  cases hfits with
  | number x =>
    change Agrees _ (Except.bind (field.float .double (charset.decode bytes)) _)
      (Except.bind (field.float .double (charset.decode bytes)) _)
    cases hfloat : field.float .double (charset.decode bytes) with
    | ok y => rfl
    | error e =>
      obtain rfl := Field.eq_of_number_error hfloat
      exact .notNumeric ..
  | text s => rfl
  | date d =>
    change Agrees _ (Except.bind (field.date (charset.decode bytes)) _)
      (Except.bind (field.date (charset.fieldText bytes).text) _)
    rcases field.date_fieldText hcharset bytes with heq | ⟨hfield, hdeclared⟩
    · rw [heq]
      cases hdate : field.date (charset.decode bytes) with
      | ok found => cases found <;> rfl
      | error e =>
        obtain rfl := Field.eq_of_date_error hdate
        exact .notDate ..
    · rw [hfield, hdeclared]
      exact .notDate ..

namespace Query.Comparison

variable {q : Comparison} {field : Field} {g : Getter}

private def FitsOrIllegal (q : Comparison) (field : Field) (g : Getter) (x : Except Error Operand) : Prop :=
  (∃ literal, x = .ok literal ∧ literal.Fits g) ∨ ∃ reason, x = .error (q.illegal field reason)

private theorem fitsOrIllegal_operand (hg : Getter.ofType? field.type = some g) :
    q.FitsOrIllegal field g (q.operand field) := by
  have hfit := q.fit_operand field
  generalize q.operand field = read at hfit ⊢
  cases hfit with
  | number htype =>
    obtain rfl := Getter.eq_double_of_isNumeric htype hg
    exact .inl ⟨_, rfl, .number _⟩
  | date htype =>
    rw [htype] at hg
    cases hg
    exact .inl ⟨_, rfl, .date _⟩
  | text htype =>
    rw [htype] at hg
    cases hg
    exact .inl ⟨_, rfl, .text _⟩
  | truth htype =>
    rw [htype] at hg
    cases hg
  | illegal reason => exact .inr ⟨reason, rfl⟩
  | undefined htype =>
    rw [Getter.isOrdered_of_ofType? hg] at htype
    cases htype

end Query.Comparison

namespace Cursor

open RowSource (schema)

variable {σ : Type} [RowSource σ] {c : Cursor σ} {row : Row} {q : Comparison} {field : Field} {g : Getter}

private theorem agrees_reading [Number.DecimalArithmetic]
    (hcharset : (schema c.source).charset = .utf8 ∨ (schema c.source).charset.IsSingleByte)
    (hcurrent : c.current = some row) (hschema : row.schema = schema c.source)
    (hfield : (schema c.source).field q.column = .ok field) (hg : Getter.ofType? field.type = some g)
    (hlegal : ∀ column type literal reason,
      q.holds row ≠ .error (.illegalParameter column type literal reason)) :
    ∃ operand, q.operand field = .ok operand ∧
      Agrees operand (q.order? row) (c.reading g (.name q.column)) := by
  have hrowField : row.schema.field q.column = .ok field := by rw [hschema, hfield]
  obtain ⟨value, hvalue, horder⟩ := Comparison.exists_order?_eq hrowField
  have hreading : c.reading g (.name q.column) = g.read (schema c.source).charset field value := by
    have hresolve : (schema c.source).resolve (.name q.column) = .ok field := hfield
    rw [reading, Cursor.value, hresolve]
    simp only [hcurrent, (Schema.mem_of_field hfield).2, hvalue]
    rfl
  rcases q.fitsOrIllegal_operand hg with ⟨operand, hoperand, hfits⟩ | ⟨reason, hillegal⟩
  · refine ⟨operand, hoperand, ?_⟩
    rw [horder, hreading, hoperand, hschema]
    cases value with
    | none => rfl
    | some bytes => exact hfits.agrees hcharset field bytes
  · refine absurd ?_ (hlegal q.column field.type q.literal reason)
    rw [q.holds_eq, horder, hillegal]
    rfl

/-- On a column of texts, numbers or dates, a condition whose literal fits the column holds of the row that a
cursor stands on exactly if the getter of the column's type returns a value, not a null, whose order with the
literal the operator accepts. It fails to hold exactly if the getter returns a null or a value whose order is
missing or not accepted, and it refuses the value as no number or as no date exactly if the getter does. -/
theorem holds_iff_get [Number.DecimalArithmetic]
    (hcharset : (schema c.source).charset = .utf8 ∨ (schema c.source).charset.IsSingleByte)
    (hopen : c.isClosed = false) (hcurrent : c.current = some row) (hschema : row.schema = schema c.source)
    (hfield : (schema c.source).field q.column = .ok field) (hg : Getter.ofType? field.type = some g)
    (hlegal : ∀ column type literal reason,
      q.holds row ≠ .error (.illegalParameter column type literal reason)) :
    ∃ operand result c', q.operand field = .ok operand ∧ c.get g (.name q.column) = (result, c') ∧
      (q.holds row = .ok true ↔
        ∃ v order, result = .ok (some v) ∧ c'.wasNull = false ∧ v.order? operand = some order ∧
          q.operator.accepts order = true) ∧
      (q.holds row = .ok false ↔
        ∃ r, result = .ok r ∧ (c'.wasNull = true ∨ ∃ v, r = some v ∧ c'.wasNull = false ∧
          ∀ order, v.order? operand = some order → q.operator.accepts order = false)) ∧
      ((∃ column type value, q.holds row = .error (.notNumeric column type value)) ↔
        ∃ column type value, result = .error (.notNumeric column type value)) ∧
      ((∃ column type value, q.holds row = .error (.notDate column type value)) ↔
        ∃ column type value, result = .error (.notDate column type value)) := by
  obtain ⟨operand, hoperand, hagrees⟩ := agrees_reading hcharset hcurrent hschema hfield hg hlegal
  have hget := get_of_open hopen g (.name q.column)
  rw [q.holds_eq]
  cases horder : q.order? row with
  | error e =>
    cases hreading : c.reading g (.name q.column) with
    | ok r => rw [horder, hreading] at hagrees; cases hagrees
    | error e' =>
      rw [horder, hreading] at hagrees
      rw [hreading] at hget
      refine ⟨operand, _, _, hoperand, hget, ?_⟩
      cases hagrees with
      | notNumeric => simp [Except.map]
      | notDate => simp [Except.map]
  | ok order =>
    cases hreading : c.reading g (.name q.column) with
    | error e' => rw [horder, hreading] at hagrees; cases hagrees
    | ok r =>
      rw [horder, hreading] at hagrees
      rw [hreading] at hget
      obtain rfl : order = r.bind (·.order? operand) := hagrees
      cases r with
      | none =>
        refine ⟨operand, _, _, hoperand, hget, ?_⟩
        simp [Except.map]
      | some v =>
        refine ⟨operand, _, _, hoperand, hget, ?_⟩
        rw [Option.bind_some]
        cases hv : v.order? operand with
        | none => simp [Except.map, hv]
        | some o => simp [Except.map, hv]

def dateColumn : Schema := ⟨"t", [⟨"D", .date, 8, 0⟩], .page .windows1252⟩

def dateRow : Row := .ofValues dateColumn [some [0x31, 0x38, 0x38, 0x39, 0x30, 0x33, 0x33, 0x31]]

def dateCursor : Cursor MemorySource where
  source := .ofRows dateColumn [dateRow.values]
  sql := "SELECT * FROM t"
  condition := none
  boundary := .standard
  phase := .beforeFirst
  current := none
  wasNull := false
  closed := false
  owners := []

theorem holds_iff_get_dateRow :
    (dateCursor.after [.next]).isClosed = false ∧ (dateCursor.after [.next]).current = some dateRow ∧
      (schema (dateCursor.after [.next]).source).charset.IsSingleByte ∧
      (schema (dateCursor.after [.next]).source).field "D" = .ok ⟨"D", .date, 8, 0⟩ ∧
      Query.Comparison.holds ⟨"D", .lt, .string "19000101"⟩ dateRow = .ok true ∧
      ∃ v, ((dateCursor.after [.next]).get .date (.name "D")).1 = .ok (some v) := by
  have hopen : (dateCursor.after [.next]).isClosed = false := by decide +kernel
  have hcurrent : (dateCursor.after [.next]).current = some dateRow := by decide +kernel
  have hfield : (schema (dateCursor.after [.next]).source).field "D" = .ok ⟨"D", .date, 8, 0⟩ := by
    decide +kernel
  have hcharset : (schema (dateCursor.after [.next]).source).charset.IsSingleByte :=
    Charset.isSingleByte_page .windows1252
  have hholds : Query.Comparison.holds ⟨"D", .lt, .string "19000101"⟩ dateRow = .ok true := by
    decide +kernel
  have hlegal : ∀ column type literal reason, Query.Comparison.holds ⟨"D", .lt, .string "19000101"⟩ dateRow ≠
      .error (.illegalParameter column type literal reason) := by
    rw [hholds]
    exact nofun
  obtain ⟨operand, result, c', -, hget, htrue, -⟩ := holds_iff_get (.inr hcharset) hopen hcurrent rfl
    (q := ⟨"D", .lt, .string "19000101"⟩) hfield rfl hlegal
  obtain ⟨v, order, hresult, -⟩ := htrue.mp hholds
  exact ⟨hopen, hcurrent, hcharset, hfield, hholds, v, (congrArg Prod.fst hget).trans hresult⟩

end Cursor

end Xbase
