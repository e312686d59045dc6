import Xbase.Proofs.Date
import Xbase.Proofs.Row
import Xbase.Query.Filter
/-!
# Literals as values of a column's type

What a literal is read as is settled by the column's declaration: there are four kinds of values that it can
stand for and two ways not to fit. What else is said of a condition is said of these six cases.
-/
namespace Xbase

def FieldType.isOrdered : FieldType → Bool
  | .character => true
  | .numeric => true
  | .float => true
  | .date => true
  | _ => false

theorem FieldType.isOrdered_of_ne {type : FieldType} (hlogical : type ≠ .logical) (hmemo : type ≠ .memo)
    (hother : ∀ code, type ≠ .other code) : type.isOrdered = true := by
  cases type with
  | logical => exact absurd rfl hlogical
  | memo => exact absurd rfl hmemo
  | other code => exact absurd rfl (hother code)
  | _ => rfl

namespace Field

variable {f : Field} {s : List Char} {e : Error}

theorem eq_of_number_error {α : Type} {ofText? : List Char → Option α} (h : f.number ofText? s = .error e) :
    e = f.notNumeric s := by
  unfold number at h
  split at h
  · cases h
  · exact (Except.error.inj h).symm

end Field

namespace Query

/-- What the search for the order of a field's bytes and a literal comes to. -/
inductive Operand.Finds (field : Field) (charset : Charset) (bytes : List UInt8) :
    Operand → Except Error (Option Ordering) → Prop where
  | number {x y : Number.Binary64} (hbytes : field.float .double (charset.decode bytes) = .ok x) :
    Finds field charset bytes (.number y) (.ok (x.order? y))
  | notNumeric (y : Number.Binary64) :
    Finds field charset bytes (.number y) (.error (field.notNumeric (charset.decode bytes)))
  | nullDate (d : Date) (hbytes : charset.decode bytes = nullStamp) :
    Finds field charset bytes (.date d) (.ok none)
  | date (d found : Date) (hbytes : charset.decode bytes ≠ nullStamp) :
    Finds field charset bytes (.date d) (.ok (some (found.order d)))
  | notDate (d : Date) : Finds field charset bytes (.date d) (.error (field.notDate (charset.decode bytes)))
  | text (s : List Char) :
    Finds field charset bytes (.text s) (.ok (some (Text.order (charset.fieldText bytes).text s)))
  | truth (b : Bool) :
    Finds field charset bytes (.truth b) (.ok ((logicalOfText? (charset.decode bytes)).map (truthOrder · b)))

theorem Operand.finds_orderOf (operand : Operand) (field : Field) (charset : Charset) (bytes : List UInt8) :
    Finds field charset bytes operand (operand.orderOf field charset bytes) := by
  cases operand with
  | number y =>
    change Finds _ _ _ _ (Except.bind (field.float .double (charset.decode bytes)) _)
    cases hbytes : field.float .double (charset.decode bytes) with
    | ok x => exact .number hbytes
    | error e =>
      obtain rfl := Field.eq_of_number_error hbytes
      exact .notNumeric y
  | date d =>
    change Finds _ _ _ _ (Except.bind (field.date (charset.decode bytes)) _)
    cases hbytes : field.date (charset.decode bytes) with
    | ok found =>
      cases found with
      | none => exact .nullDate d (Field.date_eq_ok_none_iff.mp hbytes)
      | some found =>
        refine .date d found fun hnull => ?_
        rw [Field.date_eq_ok_none_iff.mpr hnull] at hbytes
        cases hbytes
    | error e =>
      obtain rfl := Field.eq_of_date_error hbytes
      exact .notDate d
  | text s => exact .text s
  | truth b => exact .truth b

namespace Comparison

variable {q q' : Comparison} {field : Field} {row : Row}

/-- What becomes of the literal of a condition on a column. -/
inductive Fit (q : Comparison) (field : Field) : Except Error Operand → Prop where
  | number {x : Number.Binary64} (htype : field.type.isNumeric = true) (hliteral : numberOf? q.literal = some x) :
    Fit q field (.ok (.number x))
  | date {d : Date} (htype : field.type = .date) : Fit q field (.ok (.date d))
  | text {s : List Char} (htype : field.type = .character) (hliteral : textOf? q.literal = some s) :
    Fit q field (.ok (.text s))
  | truth {b : Bool} (htype : field.type = .logical) : Fit q field (.ok (.truth b))
  | illegal (reason : LiteralFault) : Fit q field (.error (q.illegal field reason))
  | undefined (htype : field.type.isOrdered = false) : Fit q field (.error (q.undefinedOperator field))

private theorem fit_number (htype : field.type.isNumeric = true) : q.Fit field (operand.number q field) := by
  unfold operand.number
  split
  · exact .number htype ‹_›
  · exact .illegal _

private theorem fit_date (htype : field.type = .date) : q.Fit field ((q.dateOf field).map .date) := by
  have hread (s : List Char) : q.Fit field ((dateOf.read q field s).map .date) := by
    unfold dateOf.read
    split
    · exact .illegal _
    · split
      · exact .date htype
      · exact .illegal _
  unfold dateOf
  split
  · exact hread _
  · exact hread _
  · exact .illegal _

private theorem fit_truth (htype : field.type = .logical) : q.Fit field ((q.truthOf field).map .truth) := by
  unfold truthOf
  split
  · exact .truth htype
  · split
    · exact .truth htype
    · exact .illegal _
  · exact .illegal _

theorem fit_operand (q : Comparison) (field : Field) : q.Fit field (q.operand field) := by
  unfold operand
  split
  · exact .illegal _
  split
  · exact fit_number (by rw [‹field.type = _›]; rfl)
  · exact fit_number (by rw [‹field.type = _›]; rfl)
  · exact fit_date ‹_›
  · split
    · exact .text ‹_› ‹_›
    · exact .illegal _
  · split
    · exact fit_truth ‹_›
    · exact .undefined (by rw [‹field.type = _›]; rfl)
  · exact .undefined (by rw [‹field.type = _›]; rfl)
  · exact .undefined (by rw [‹field.type = _›]; rfl)

theorem operand_null (h : q.literal = .null) : q.operand field = .error (q.illegal field .null) := by
  rw [operand, if_pos h]

theorem operand_operator {column : String} {literal : Literal} (h : field.type.isOrdered = true)
    (op op' : Operator) : operand ⟨column, op, literal⟩ field = operand ⟨column, op', literal⟩ field := by
  simp only [operand]
  split
  · rfl
  cases htype : field.type with
  | character => rfl
  | numeric => rfl
  | float => rfl
  | date => rfl
  | logical => rw [htype] at h; cases h
  | memo => rw [htype] at h; cases h
  | other code => rw [htype] at h; cases h

theorem operand_logical (htype : field.type = .logical) (hnull : q.literal ≠ .null) :
    q.operand field =
      if q.operator.isEquality then (q.truthOf field).map .truth else .error (q.undefinedOperator field) := by
  rw [operand, if_neg hnull, htype]

theorem operand_memo (htype : field.type = .memo ∨ ∃ code, field.type = .other code)
    (hnull : q.literal ≠ .null) : q.operand field = .error (q.undefinedOperator field) := by
  rw [operand, if_neg hnull]
  rcases htype with htype | ⟨code, htype⟩ <;> rw [htype]

theorem operand_character {s : List Char} (hchar : field.type = .character)
    (htext : textOf? q.literal = some s) : q.operand field = .ok (.text s) := by
  have hnull : q.literal ≠ .null := by
    intro hnull
    rw [hnull] at htext
    cases htext
  rw [operand, if_neg hnull, hchar]
  simp only [htext]

theorem holds_of_field_error {e : Error} (hfield : row.schema.field q.column = .error e) :
    q.holds row = .error e := by
  change Except.bind (Except.bind (row.schema.field q.column) _) _ = _
  rw [hfield]
  rfl

theorem holds_eq (q : Comparison) (row : Row) :
    q.holds row = (q.order? row).map fun order => order.any q.operator.accepts := by
  change Except.bind (q.order? row) _ = _
  cases q.order? row with
  | error e => rfl
  | ok order => cases order <;> rfl

/-- Where the column exists, the literal is read before the value of the row is looked at. -/
theorem exists_order?_eq (hfield : row.schema.field q.column = .ok field) :
    ∃ value, row.get q.column = .ok value ∧ q.order? row = Except.bind (q.operand field) fun operand =>
      value.elim (.ok none) (operand.orderOf field row.schema.charset) := by
  obtain ⟨value, hvalue⟩ := Row.exists_get_eq_ok hfield
  refine ⟨value, hvalue, ?_⟩
  change Except.bind (row.schema.field q.column) _ = _
  rw [hfield]
  change Except.bind (row.get q.column) _ = _
  rw [hvalue]
  cases value <;> rfl

theorem order?_congr (hcolumn : q.column = q'.column) (hfield : row.schema.field q.column = .ok field)
    (h : q.operand field = q'.operand field) : q.order? row = q'.order? row := by
  have hfield' : row.schema.field q'.column = .ok field := by rwa [← hcolumn]
  obtain ⟨value, hvalue, horder⟩ := exists_order?_eq hfield
  obtain ⟨value', hvalue', horder'⟩ := exists_order?_eq hfield'
  rw [← hcolumn, hvalue] at hvalue'
  cases hvalue'
  rw [horder, horder', h]

theorem holds_congr (hcolumn : q.column = q'.column) (hoperator : q.operator = q'.operator)
    (hfield : row.schema.field q.column = .ok field) (h : q.operand field = q'.operand field) :
    q.holds row = q'.holds row := by
  rw [holds_eq, holds_eq, order?_congr hcolumn hfield h, hoperator]

theorem holds_of_operand_error {e : Error} (hfield : row.schema.field q.column = .ok field)
    (h : q.operand field = .error e) : q.holds row = .error e := by
  obtain ⟨value, -, horder⟩ := exists_order?_eq hfield
  rw [holds_eq, horder, h]
  rfl

end Comparison

end Query

end Xbase
