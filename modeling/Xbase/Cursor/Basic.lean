import Xbase.Cursor.Getter
import Xbase.Query.Filter
import Xbase.Query.Preparation
import Xbase.Source
/-!
# Cursors

A cursor walks forward over the rows of a source that satisfy the condition of a query. It stands before the
first row, on a row, or behind the last, and its getters read the row it stands on. A cursor can be closed,
and it counts as closed once any of its owners is.
-/
namespace Xbase

open Number (DecimalArithmetic)
open RowSource (schema identity rowNumber read remaining)

/-- Whether a match on the last row of a source counts. -/
inductive Boundary where
  | includeLast
  | excludeLast
deriving DecidableEq, Repr

namespace Boundary

def standard : Boundary := .includeLast

/-- The boundary of older programs, which never see a match on the last row. -/
def legacy : Boundary := .excludeLast

end Boundary

inductive Phase where
  | beforeFirst
  | onRow
  | exhausted
deriving DecidableEq, Repr

/-- A cursor over a source. `wasNull` is about the last getter that succeeded, `closed` about the cursor itself, and
`owners` says of each owner whether it was closed. -/
structure Cursor (σ : Type) where
  source : σ
  sql : String
  condition : Option Query.Comparison
  boundary : Boundary
  phase : Phase
  current : Option Row
  wasNull : Bool
  closed : Bool
  owners : List Bool

namespace Cursor

variable {σ : Type} [RowSource σ]

/-- A cursor for a query over a source, with a number of owners that are open. -/
def ofQuery (source : σ) (sql : String) (boundary : Boundary) (owners : Nat) :
    Except Error (Cursor σ) :=
  match Query.prepare sql (schema source) with
  | .ok statement => .ok
    { source := source
      sql := sql
      condition := statement.condition
      boundary := boundary
      phase := .beforeFirst
      current := none
      wasNull := false
      closed := false
      owners := List.replicate owners false }
  | .error e => .error e

/-- Whether the cursor or one of its owners was closed. -/
def isClosed (c : Cursor σ) : Bool := c.closed || c.owners.any id

def closedError (c : Cursor σ) : Error := .closed (identity c.source)

def noResult (c : Cursor σ) : Error := .noResult c.sql (identity c.source)

/-- Reads rows until one satisfies a condition, an error arises or the given number of rows has been read.
Returns the row, or `none` if no row satisfies the condition. -/
def scan (condition : Option Query.Comparison) : Nat → σ → Except Error (Option Row) × σ
  | 0, s => (.ok none, s)
  | n + 1, s =>
    match read s with
    | (.error e, s) => (.error e, s)
    | (.ok row, s) =>
      match Query.satisfies condition row with
      | .error e => (.error e, s)
      | .ok true => (.ok (some row), s)
      | .ok false => scan condition n s

/-- Whether a match counts once the source stands behind it. -/
def counts (boundary : Boundary) (s : σ) : Bool :=
  match boundary with
  | .includeLast => true
  | .excludeLast => 0 < remaining s

def moveTo (c : Cursor σ) (row : Row) : Cursor σ := { c with phase := .onRow, current := some row }

def moveBehind (c : Cursor σ) : Cursor σ := { c with phase := .exhausted, current := none }

/-- Moves to the next row that satisfies the condition, and says whether there is one. An error while
reading or comparing leaves the cursor on its row. -/
def next (c : Cursor σ) : Except Error Bool × Cursor σ :=
  if c.isClosed then (.error c.closedError, c)
  else if c.phase = .exhausted ∨ remaining c.source = 0 then (.error c.noResult, c)
  else match scan c.condition (remaining c.source) c.source with
    | (.error e, s) => (.error e, { c with source := s })
    | (.ok found, s) =>
      match found.filter fun _ => counts c.boundary s with
      | some row => (.ok true, { c with source := s }.moveTo row)
      | none => (.ok false, { c with source := s }.moveBehind)

/-- The value of a column in the current row, with the column as it is declared. The value is the one that
the row has under the column's name. -/
def value (c : Cursor σ) (column : ColumnRef) : Except Error (Field × Value) :=
  match (schema c.source).resolve column with
  | .error e => .error e
  | .ok field =>
    match c.current with
    | none => .error c.noResult
    | some row => (row.get field.name).map (field, ·)

/-- What a getter reads in a column of the current row, and `none` if it is a null. -/
def reading [DecimalArithmetic] (c : Cursor σ) (g : Getter) (column : ColumnRef) : Except Error (Option Reading) :=
  match c.value column with
  | .error e => .error e
  | .ok (field, value) => g.read (schema c.source).charset field value

/-- Reads a column of the current row, and notes whether it is a null. -/
def get [DecimalArithmetic] (c : Cursor σ) (g : Getter) (column : ColumnRef) :
    Except Error (Option Reading) × Cursor σ :=
  if c.isClosed then (.error c.closedError, c)
  else match c.reading g column with
    | .error e => (.error e, c)
    | .ok none => (.ok g.ofNull, { c with wasNull := true })
    | .ok (some r) => (.ok (some r), { c with wasNull := false })

def close (c : Cursor σ) : Cursor σ := { c with closed := true, current := none }

def closeOwner (c : Cursor σ) (i : Nat) : Cursor σ := { c with owners := c.owners.set i true }

end Cursor

end Xbase
