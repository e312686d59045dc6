import Xbase.Charset.Basic
import Xbase.Error
/-!
# Schemas

A schema is the list of a table's columns and the character set of its text. A column is looked up by its
name, where the first of that name counts, or by its position from 1 on.
-/
namespace Xbase

/-- The columns of a table in its order, and the character set that the table declares. -/
structure Schema where
  table : String
  fields : List Field
  charset : Charset
deriving DecidableEq, Repr

/-- A column, by its name or by its position from 1 on. -/
inductive ColumnRef where
  | name (name : String)
  | index (index : Nat)
deriving DecidableEq, Repr

def ColumnRef.text : ColumnRef → String
  | .name s => s
  | .index i => "#" ++ Number.natString i

namespace Schema

def columnCount (schema : Schema) : Nat := schema.fields.length

/-- The position, from 0 on, of the first column of a name. -/
def position? (schema : Schema) (name : String) : Option Nat :=
  schema.fields.findIdx? (·.name = name)

def field? (schema : Schema) (name : String) : Option Field := schema.fields.find? (·.name = name)

def field (schema : Schema) (name : String) : Except Error Field :=
  match schema.field? name with
  | some field => .ok field
  | none => .error (.noSuchField name schema.table)

/-- The column at a position from 1 on. -/
def fieldAt? (schema : Schema) : Nat → Option Field
  | 0 => none
  | i + 1 => schema.fields[i]?

def fieldAt (schema : Schema) (index : Nat) : Except Error Field :=
  match schema.fieldAt? index with
  | some field => .ok field
  | none => .error (.illegalColumnIndex index schema.columnCount)

def resolve (schema : Schema) : ColumnRef → Except Error Field
  | .name s => schema.field s
  | .index i => schema.fieldAt i

end Schema

end Xbase
