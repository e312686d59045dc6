import Xbase.Charset.FieldText
import Xbase.Field.Reading
import Xbase.Query.Statement
import Xbase.Row
import Xbase.Text.Order
/-!
# Conditions on rows

The type of a column decides how its values compare: numbers by size, dates by the calendar, texts by
their code points, truth values by equality alone. The literal is first read as a value of that type, so
whether it fits does not depend on any row; then the value of the row is read and the two are compared. An
absent value satisfies no condition.
-/
namespace Xbase.Query

open Number (Binary64)

/-- A literal as a value of the type it is compared with. -/
inductive Operand where
  | number (x : Binary64)
  | date (d : Date)
  | text (s : List Char)
  | truth (b : Bool)
deriving DecidableEq, Repr

namespace Comparison

def illegal (c : Comparison) (field : Field) (reason : LiteralFault) : Error :=
  .illegalParameter c.column field.type c.literal reason

/-- The error of an operator that values of the column's type have no use for. -/
def undefinedOperator (c : Comparison) (field : Field) : Error :=
  .query c.text (.unsupported (.typedOperator c.operator field.type))

def numberOf? : Literal → Option Binary64
  | .integer n => some (.ofInt n.toInt)
  | .float x => some x
  | .string s => Number.Binary.ofText? (Text.trim s.toList)
  | _ => none

def dateOf (c : Comparison) (field : Field) : Except Error Date :=
  match c.literal with
  | .string s => read s.toList
  | .integer n => read (Number.intText n.toInt)
  | _ => .error (c.illegal field .notDate)
where
  read (s : List Char) : Except Error Date :=
    if s = nullStamp then .error (c.illegal field .nullDate)
    else match Date.ofStamp? s with
      | some d => .ok d
      | none => .error (c.illegal field .notDate)

def textOf? : Literal → Option (List Char)
  | .string s => some s.toList
  | .integer n => some (Number.intText n.toInt)
  | .float x => some x.text
  | _ => none

def truthOf (c : Comparison) (field : Field) : Except Error Bool :=
  match c.literal with
  | .boolean b => .ok b
  | .string s =>
    match logicalOfText? s.toList with
    | some b => .ok b
    | none => .error (c.illegal field .notFlag)
  | _ => .error (c.illegal field .notTruthValue)

/-- The literal as a value of the column's type, if literal and operator fit the column. -/
def operand (c : Comparison) (field : Field) : Except Error Operand :=
  if c.literal = .null then .error (c.illegal field .null)
  else match field.type with
    | .numeric => number
    | .float => number
    | .date => (c.dateOf field).map .date
    | .character =>
      match textOf? c.literal with
      | some s => .ok (.text s)
      | none => .error (c.illegal field .notString)
    | .logical =>
      if c.operator.isEquality then (c.truthOf field).map .truth
      else .error (c.undefinedOperator field)
    | .memo => .error (c.undefinedOperator field)
    | .other _ => .error (c.undefinedOperator field)
where
  number : Except Error Operand :=
    match numberOf? c.literal with
    | some x => .ok (.number x)
    | none => .error (c.illegal field .notNumber)

end Comparison

/-- The order of two truth values: false comes first. -/
def truthOrder (a b : Bool) : Ordering := compare a.toNat b.toNat

/-- The order of the bytes of a field and a literal, if the bytes stand for a value and the two have an
order. -/
def Operand.orderOf (operand : Operand) (field : Field) (charset : Charset) (bytes : List UInt8) :
    Except Error (Option Ordering) :=
  match operand with
  | .number x => return (← field.float .double (charset.decode bytes)).order? x
  | .date d => return (← field.date (charset.decode bytes)).map (·.order d)
  | .text s => return some (Text.order (charset.fieldText bytes).text s)
  | .truth b => return (logicalOfText? (charset.decode bytes)).map (truthOrder · b)

namespace Comparison

def order? (c : Comparison) (row : Row) : Except Error (Option Ordering) := do
  let field ← row.schema.field c.column
  let value ← row.get c.column
  let operand ← c.operand field
  match value with
  | some bytes => operand.orderOf field row.schema.charset bytes
  | none => return none

def holds (c : Comparison) (row : Row) : Except Error Bool := do
  match ← c.order? row with
  | some o => return c.operator.accepts o
  | none => return false

end Comparison

def satisfies (condition : Option Comparison) (row : Row) : Except Error Bool :=
  match condition with
  | some c => c.holds row
  | none => .ok true

end Xbase.Query
