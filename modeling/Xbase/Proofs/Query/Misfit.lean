import Xbase.Proofs.Query.Operand
/-!
# Conditions that do not fit

Whether the column of a condition exists and whether its type has a use for literal and operator is settled
before the value of a row is looked at. So a condition that does not fit fails on every row of a table with the
same error, whatever the row holds.
-/
namespace Xbase

/-- The errors of a condition that does not fit the columns: there is no such column, or its type has no use for
the literal or for the operator. -/
inductive Error.IsMisfit : Error → Prop where
  | noSuchField (column table : String) : IsMisfit (.noSuchField column table)
  | illegalParameter (column : String) (type : FieldType) (literal : Query.Literal) (reason : LiteralFault) :
    IsMisfit (.illegalParameter column type literal reason)
  | unsupported (sql : String) (feature : Query.Feature) : IsMisfit (.query sql (.unsupported feature))

namespace Query

private theorem Operand.not_isMisfit_of_orderOf {operand : Operand} {field : Field} {charset : Charset}
    {bytes : List UInt8} {e : Error} (h : operand.orderOf field charset bytes = .error e) : ¬ e.IsMisfit := by
  have hfinds := operand.finds_orderOf field charset bytes
  rw [h] at hfinds
  cases hfinds with
  | notNumeric y => exact nofun
  | notDate d => exact nofun

namespace Comparison

variable {q q' : Comparison} {field field' : Field} {row row' : Row} {e : Error}

theorem Fit.isMisfit (h : q.Fit field (.error e)) : e.IsMisfit := by
  cases h with
  | illegal reason => exact .illegalParameter ..
  | undefined htype => exact .unsupported ..

/-- On a row that has the column, a condition fails as a misfit exactly if its literal is refused. -/
theorem holds_eq_misfit_iff (hfield : row.schema.field q.column = .ok field) (he : e.IsMisfit) :
    q.holds row = .error e ↔ q.operand field = .error e := by
  constructor
  · intro h
    obtain ⟨value, -, horder⟩ := exists_order?_eq hfield
    rw [holds_eq, horder] at h
    cases hoperand : q.operand field with
    | error e' =>
      rw [hoperand] at h
      exact congrArg Except.error (Except.error.inj h)
    | ok operand =>
      rw [hoperand] at h
      cases value with
      | none => cases h
      | some bytes =>
        change (operand.orderOf field row.schema.charset bytes).map _ = _ at h
        cases hbytes : operand.orderOf field row.schema.charset bytes with
        | ok order => rw [hbytes] at h; cases h
        | error e' =>
          rw [hbytes] at h
          obtain rfl := Except.error.inj h
          exact absurd he (Operand.not_isMisfit_of_orderOf hbytes)
  · exact holds_of_operand_error hfield

theorem holds_eq_misfit_congr (h : row.schema = row'.schema) (he : e.IsMisfit) :
    q.holds row = .error e ↔ q.holds row' = .error e := by
  cases hfield : row.schema.field q.column with
  | error e' =>
    have hfield' : row'.schema.field q.column = .error e' := by rwa [← h]
    rw [holds_of_field_error hfield, holds_of_field_error hfield']
  | ok field =>
    have hfield' : row'.schema.field q.column = .ok field := by rwa [← h]
    rw [holds_eq_misfit_iff hfield he, holds_eq_misfit_iff hfield' he]

private theorem exists_misfit_iff (hfield : row.schema.field q.column = .ok field) :
    (∃ e, e.IsMisfit ∧ q.holds row = .error e) ↔ (q.operand field).toOption = none := by
  constructor
  · rintro ⟨e, he, h⟩
    rw [(holds_eq_misfit_iff hfield he).mp h]
    rfl
  · intro hnone
    have hfit := q.fit_operand field
    cases hoperand : q.operand field with
    | ok operand => rw [hoperand] at hnone; cases hnone
    | error e =>
      rw [hoperand] at hfit
      exact ⟨e, hfit.isMisfit, holds_of_operand_error hfield hoperand⟩

private theorem toOption_map_congr {α β : Type} {f : α → β} {x y : Except Error α} (h : x.toOption = y.toOption) :
    (x.map f).toOption = (y.map f).toOption := by
  cases x <;> cases y <;> cases h <;> rfl

private theorem toOption_dateOf (h : q.literal = q'.literal) :
    (q.dateOf field).toOption = (q'.dateOf field').toOption := by
  have hread (s : List Char) : (dateOf.read q field s).toOption = (dateOf.read q' field' s).toOption := by
    unfold dateOf.read
    split
    · rfl
    · split <;> rfl
  unfold dateOf
  rw [h]
  split
  · exact hread _
  · exact hread _
  · rfl

private theorem toOption_truthOf (h : q.literal = q'.literal) :
    (q.truthOf field).toOption = (q'.truthOf field').toOption := by
  unfold truthOf
  rw [h]
  split
  · rfl
  · split <;> rfl
  · rfl

private theorem toOption_number (h : q.literal = q'.literal) :
    (operand.number q field).toOption = (operand.number q' field').toOption := by
  unfold operand.number
  rw [h]
  split <;> rfl

private theorem toOption_operand (htype : field.type = field'.type) (hoperator : q.operator = q'.operator)
    (hliteral : q.literal = q'.literal) : (q.operand field).toOption = (q'.operand field').toOption := by
  unfold operand
  rw [hliteral, hoperator, htype]
  split
  · rfl
  split
  · exact toOption_number hliteral
  · exact toOption_number hliteral
  · exact toOption_map_congr (toOption_dateOf hliteral)
  · split <;> rfl
  · split
    · exact toOption_map_congr (toOption_truthOf hliteral)
    · rfl
  · rfl
  · rfl

/-- Whether a condition is a misfit is settled by the type that its column is declared with. -/
theorem exists_misfit_congr (hfield : row.schema.field q.column = .ok field)
    (hfield' : row'.schema.field q'.column = .ok field') (htype : field.type = field'.type)
    (hoperator : q.operator = q'.operator) (hliteral : q.literal = q'.literal) :
    (∃ e, e.IsMisfit ∧ q.holds row = .error e) ↔ ∃ e, e.IsMisfit ∧ q'.holds row' = .error e := by
  rw [exists_misfit_iff hfield, exists_misfit_iff hfield', toOption_operand htype hoperator hliteral]

end Comparison

end Query

end Xbase
