import Xbase.Proofs.Query.Operand
/-!
# The six operators

Conditions that differ in the operator alone are settled by one order, that of the value and the literal: it is
found before the operator is asked. So the six conditions on a column of ordered values fail together, fail to
hold together where there is no order, and else tell of one order which it is. Truth values know the two
equality operators only, and the types without values of their own know no operator.
-/
namespace Xbase.Query

/-- The values that have no order with a literal: no value, the date that was never set, a text that is no truth
value, and a number if it or the literal is the one that is no number. -/
inductive Unordered (field : Field) (charset : Charset) (literal : Literal) : Value → Prop where
  | absent : Unordered field charset literal none
  | nullDate {bytes : List UInt8} (htype : field.type = .date) (hbytes : charset.decode bytes = nullStamp) :
    Unordered field charset literal (some bytes)
  | notFlag {bytes : List UInt8} (htype : field.type = .logical)
      (hbytes : logicalOfText? (charset.decode bytes) = none) :
    Unordered field charset literal (some bytes)
  | nan {bytes : List UInt8} {x y : Number.Binary64} (htype : field.type.isNumeric = true)
      (hbytes : field.float .double (charset.decode bytes) = .ok x)
      (hliteral : Comparison.numberOf? literal = some y) (hnan : (x.isNaN || y.isNaN) = true) :
    Unordered field charset literal (some bytes)

/-- Whether the verdicts of the six operators are those on one order: it is exactly one of less, equal and
greater, and the other three operators come to what these three come to. -/
structure Coherent (verdict : Operator → Bool) : Prop where
  one : [Operator.lt, .eq, .gt].countP verdict = 1
  ne : verdict .ne = !verdict .eq
  le : verdict .le = (verdict .lt || verdict .eq)
  ge : verdict .ge = (verdict .gt || verdict .eq)

private theorem coherent_accepts (o : Ordering) : Coherent (·.accepts o) := by
  cases o <;> exact ⟨rfl, rfl, rfl, rfl⟩

private theorem Coherent.exists_eq_true {verdict : Operator → Bool} (h : Coherent verdict) :
    ∃ op, verdict op = true := by
  obtain ⟨op, -, hop⟩ := List.countP_pos_iff.mp (h.one ▸ Nat.one_pos)
  exact ⟨op, hop⟩

private theorem coherent_any (order : Option Ordering) :
    ((∀ op : Operator, order.any op.accepts = false) ↔ order = none) ∧
      ((∀ op : Operator, order.any op.accepts = false) ∨ Coherent fun op => order.any op.accepts) := by
  cases order with
  | none => exact ⟨iff_of_true (fun _ => rfl) rfl, .inl fun _ => rfl⟩
  | some o =>
    have hcoherent := coherent_accepts o
    refine ⟨iff_of_false (fun hall => ?_) nofun, .inr hcoherent⟩
    obtain ⟨op, hop⟩ := hcoherent.exists_eq_true
    exact Bool.false_ne_true ((hall op).symm.trans hop)

section Order

variable {q : Comparison} {field : Field} {charset : Charset} {literal : Literal} {bytes : List UInt8}

theorem order?_eq_none_iff {x y : Number.Binary64} : x.order? y = none ↔ (x.isNaN || y.isNaN) = true := by
  unfold Number.Binary.order?
  split
  · exact iff_of_true rfl ‹_›
  · exact iff_of_false nofun ‹_›

private theorem unordered_number {x y : Number.Binary64} (htype : field.type.isNumeric = true)
    (hbytes : field.float .double (charset.decode bytes) = .ok x)
    (hliteral : Comparison.numberOf? literal = some y) :
    Unordered field charset literal (some bytes) ↔ (x.isNaN || y.isNaN) = true := by
  constructor
  · rintro (_ | hdate | hflag | ⟨-, hbytes', hliteral', hnan⟩)
    · rw [hdate] at htype
      cases htype
    · rw [hflag] at htype
      cases htype
    · cases hbytes.symm.trans hbytes'
      cases hliteral.symm.trans hliteral'
      exact hnan
  · exact .nan htype hbytes hliteral

private theorem unordered_date (htype : field.type = .date) :
    Unordered field charset literal (some bytes) ↔ charset.decode bytes = nullStamp := by
  constructor
  · rintro (_ | ⟨-, hbytes⟩ | hflag | hnumeric)
    · exact hbytes
    · cases htype.symm.trans hflag
    · rw [htype] at hnumeric
      cases hnumeric
  · exact .nullDate htype

private theorem unordered_truth (htype : field.type = .logical) :
    Unordered field charset literal (some bytes) ↔ logicalOfText? (charset.decode bytes) = none := by
  constructor
  · rintro (_ | hdate | ⟨-, hbytes⟩ | hnumeric)
    · cases htype.symm.trans hdate
    · exact hbytes
    · rw [htype] at hnumeric
      cases hnumeric
  · exact .notFlag htype

private theorem not_unordered_text (htype : field.type = .character) :
    ¬ Unordered field charset literal (some bytes) := by
  rintro (_ | hdate | hflag | hnumeric)
  · cases htype.symm.trans hdate
  · cases htype.symm.trans hflag
  · rw [htype] at hnumeric
    cases hnumeric

private theorem orderOf_eq_none_iff {operand : Operand} {order : Option Ordering}
    (hfit : q.Fit field (.ok operand)) (horder : operand.orderOf field charset bytes = .ok order) :
    order = none ↔ Unordered field charset q.literal (some bytes) := by
  have hfinds := operand.finds_orderOf field charset bytes
  rw [horder] at hfinds
  cases hfit with
  | number htype hliteral =>
    cases hfinds with
    | number hbytes => rw [unordered_number htype hbytes hliteral, order?_eq_none_iff]
  | date htype =>
    rw [unordered_date htype]
    cases hfinds with
    | nullDate _ hbytes => exact iff_of_true rfl hbytes
    | date _ found hbytes => exact iff_of_false nofun hbytes
  | text htype =>
    cases hfinds with
    | text => exact iff_of_false nofun (not_unordered_text htype)
  | truth htype =>
    cases hfinds with
    | truth => rw [unordered_truth htype, Option.map_eq_none_iff]

end Order

namespace Comparison

variable {q : Comparison} {field : Field} {row : Row} {value : Value} {column : String} {literal : Literal}

/-- A condition whose column exists and that finds whether there is an order. -/
theorem order?_eq_none_iff {order : Option Ordering} (hfield : row.schema.field q.column = .ok field)
    (hvalue : row.get q.column = .ok value) (horder : q.order? row = .ok order) :
    order = none ↔ Unordered field row.schema.charset q.literal value := by
  obtain ⟨value', hvalue', heq⟩ := exists_order?_eq hfield
  obtain rfl : value = value' := Except.ok.inj (hvalue.symm.trans hvalue')
  rw [heq] at horder
  have hfit := q.fit_operand field
  cases hoperand : q.operand field with
  | error e => rw [hoperand] at horder; cases horder
  | ok operand =>
    rw [hoperand] at horder hfit
    cases value with
    | none => exact iff_of_true (Except.ok.inj horder).symm .absent
    | some bytes => exact orderOf_eq_none_iff hfit horder

private theorem holds_ordered (hfield : row.schema.field column = .ok field) (hvalue : row.get column = .ok value)
    (htype : field.type.isOrdered = true) :
    (∃ e, ∀ op, holds ⟨column, op, literal⟩ row = .error e) ∨
      ∃ verdict : Operator → Bool, (∀ op, holds ⟨column, op, literal⟩ row = .ok (verdict op)) ∧
        ((∀ op, verdict op = false) ↔ Unordered field row.schema.charset literal value) ∧
        ((∀ op, verdict op = false) ∨ Coherent verdict) := by
  have hsame (op : Operator) : order? ⟨column, op, literal⟩ row = order? ⟨column, .eq, literal⟩ row :=
    order?_congr rfl hfield (operand_operator htype op .eq)
  cases horder : order? ⟨column, .eq, literal⟩ row with
  | error e =>
    left
    refine ⟨e, fun op => ?_⟩
    rw [holds_eq, hsame, horder]
    rfl
  | ok order =>
    right
    obtain ⟨hnone, hcoherent⟩ := coherent_any order
    refine ⟨fun op => order.any op.accepts, fun op => ?_, ?_, hcoherent⟩
    · rw [holds_eq, hsame, horder]
      rfl
    · rw [hnone]
      exact order?_eq_none_iff (q := ⟨column, .eq, literal⟩) hfield hvalue horder

private theorem holds_undefined (hfield : row.schema.field q.column = .ok field)
    (h : q.operand field = .error (q.undefinedOperator field)) :
    ∃ sql feature, q.holds row = .error (.query sql (.unsupported feature)) :=
  ⟨_, _, holds_of_operand_error hfield h⟩

private theorem holds_logical (hfield : row.schema.field column = .ok field) (hvalue : row.get column = .ok value)
    (htype : field.type = .logical) (hnull : literal ≠ .null) :
    (∀ op ∈ [Operator.lt, .le, .gt, .ge], ∃ sql feature,
        holds ⟨column, op, literal⟩ row = .error (.query sql (.unsupported feature))) ∧
      ((∃ e, holds ⟨column, .eq, literal⟩ row = .error e ∧ holds ⟨column, .ne, literal⟩ row = .error e) ∨
        ∃ eq ne : Bool, holds ⟨column, .eq, literal⟩ row = .ok eq ∧ holds ⟨column, .ne, literal⟩ row = .ok ne ∧
          (eq = false ∧ ne = false ↔ Unordered field row.schema.charset literal value) ∧
          (eq = false ∧ ne = false ∨ ne = !eq)) := by
  constructor
  · intro op hop
    have hequality : ∀ op ∈ [Operator.lt, .le, .gt, .ge], op.isEquality ≠ true := by decide
    refine holds_undefined hfield ?_
    rw [operand_logical htype hnull, if_neg (hequality op hop)]
  -- Both equality operators read the literal alike, so one order settles the two conditions.
  have hsame : order? ⟨column, .ne, literal⟩ row = order? ⟨column, .eq, literal⟩ row := by
    refine order?_congr rfl hfield ?_
    rw [operand_logical htype hnull, operand_logical htype hnull]
    rfl
  rw [holds_eq, holds_eq, hsame]
  cases horder : order? ⟨column, .eq, literal⟩ row with
  | error e => exact .inl ⟨e, rfl, rfl⟩
  | ok order =>
    right
    have hnone := order?_eq_none_iff (q := ⟨column, .eq, literal⟩) hfield hvalue horder
    refine ⟨_, _, rfl, rfl, ?_⟩
    rw [← hnone]
    cases order with
    | none => exact ⟨iff_of_true ⟨rfl, rfl⟩ rfl, .inl ⟨rfl, rfl⟩⟩
    | some o => cases o <;> exact ⟨iff_of_false nofun nofun, .inr rfl⟩

private theorem holds_memo (hfield : row.schema.field q.column = .ok field)
    (htype : field.type = .memo ∨ ∃ code, field.type = .other code) :
    (q.literal = .null →
        ∃ reason, q.holds row = .error (.illegalParameter q.column field.type q.literal reason)) ∧
      (q.literal ≠ .null → ∃ sql feature, q.holds row = .error (.query sql (.unsupported feature))) :=
  ⟨fun hnull => ⟨.null, holds_of_operand_error hfield (operand_null hnull)⟩,
    fun hnull => holds_undefined hfield (operand_memo htype hnull)⟩

end Comparison

/-- On every row, the six conditions that compare a column with a literal cohere. They all fail if there is no
such column. Where values of the column's type are ordered, all six fail with one error, or all six fail to hold
because there is no order, or they are the six verdicts on one order. On truth values only the two equality
operators are defined, and they contradict each other where there is a truth value. On the other types no
operator is defined. -/
theorem holds_coherent (row : Row) (column : String) (literal : Literal) :
    (∃ e, row.schema.field column = .error e ∧
        ∀ op, Comparison.holds ⟨column, op, literal⟩ row = .error e) ∨
      ∃ field value, row.schema.field column = .ok field ∧ row.get column = .ok value ∧
        (field.type ≠ .logical → field.type ≠ .memo → (∀ code, field.type ≠ .other code) →
          (∃ e, ∀ op, Comparison.holds ⟨column, op, literal⟩ row = .error e) ∨
            ∃ verdict : Operator → Bool,
              (∀ op, Comparison.holds ⟨column, op, literal⟩ row = .ok (verdict op)) ∧
              ((∀ op, verdict op = false) ↔ Unordered field row.schema.charset literal value) ∧
              ((∀ op, verdict op = false) ∨ Coherent verdict)) ∧
        (field.type = .logical → literal ≠ .null →
          (∀ op ∈ [Operator.lt, .le, .gt, .ge], ∃ sql feature,
            Comparison.holds ⟨column, op, literal⟩ row = .error (.query sql (.unsupported feature))) ∧
          ((∃ e, Comparison.holds ⟨column, .eq, literal⟩ row = .error e ∧
              Comparison.holds ⟨column, .ne, literal⟩ row = .error e) ∨
            ∃ eq ne : Bool, Comparison.holds ⟨column, .eq, literal⟩ row = .ok eq ∧
              Comparison.holds ⟨column, .ne, literal⟩ row = .ok ne ∧
              (eq = false ∧ ne = false ↔ Unordered field row.schema.charset literal value) ∧
              (eq = false ∧ ne = false ∨ ne = !eq))) ∧
        (field.type = .memo ∨ (∃ code, field.type = .other code) → ∀ op,
          (literal = .null → ∃ reason, Comparison.holds ⟨column, op, literal⟩ row =
            .error (.illegalParameter column field.type literal reason)) ∧
          (literal ≠ .null → ∃ sql feature, Comparison.holds ⟨column, op, literal⟩ row =
            .error (.query sql (.unsupported feature)))) := by
  cases hfield : row.schema.field column with
  | error e =>
    left
    exact ⟨e, rfl, fun op => Comparison.holds_of_field_error (q := ⟨column, op, literal⟩) hfield⟩
  | ok field =>
    right
    obtain ⟨value, hvalue⟩ := Row.exists_get_eq_ok hfield
    refine ⟨field, value, rfl, hvalue, fun hlogical hmemo hother => ?_, fun htype hnull => ?_,
      fun htype op => ?_⟩
    · exact Comparison.holds_ordered hfield hvalue (FieldType.isOrdered_of_ne hlogical hmemo hother)
    · exact Comparison.holds_logical hfield hvalue htype hnull
    · exact Comparison.holds_memo (q := ⟨column, op, literal⟩) hfield htype

end Xbase.Query
