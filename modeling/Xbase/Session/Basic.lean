import Xbase.Cursor.Operation
import Xbase.Session.Files
import Xbase.Table.Reader
/-!
# Sessions

A session works on the files of a tree. A connection reads the header of a table when it is opened, its
statements run queries, and each query reads the file afresh.

Connections and statements have a switch each, which is thrown when they are closed. A statement is handed the
switch of its connection when it is made, and a result the switches of its statement and its connection, so that
they are closed together; nobody else is told of a closing.

Connections, statements and results are numbered in the order of their creation and keep their numbers.
-/
namespace Xbase.Session

/-- How a table is opened: the character set that the caller chooses, whether a code page file beside the table
counts, and whether a match on the last row does. -/
structure Options where
  explicit : Option Charset
  readsCodePageFile : Bool
  boundary : Boundary
deriving DecidableEq, Repr

def Options.standard : Options := ⟨none, true, .standard⟩

/-- A switch, by its number in the session. The number is what is handed down. -/
abbrev CloseSignal := Nat

/-- What is kept of the opening of a table: the header and the columns that it had. -/
structure Opening where
  path : String
  options : Options
  header : Table.Header
  schema : Schema

/-- A connection to a table, with its switch. -/
structure Handle extends Opening where
  closed : CloseSignal

/-- A connection to a table as it is seen, with the state of its switch. -/
structure Connection extends Opening where
  closed : Bool

/-- A statement of a connection: the table it is for, the switch of the connection, and its own. -/
structure Statement where
  path : String
  options : Options
  connection : CloseSignal
  closed : CloseSignal

/-- The result of a query, with the switches that it was handed. The owners of the cursor are as they were when
it was used last. -/
structure Result where
  signals : List CloseSignal
  cursor : Cursor Table.Reader

end Session

/-- A session: the files, the state of each switch, and what was made in the order of its creation. -/
structure Session where
  files : Session.Files
  switches : List Bool
  opened : List Session.Handle
  statements : List Session.Statement
  executed : List Session.Result

namespace Session

def empty : Session := ⟨.empty, [], [], [], []⟩

def isThrown (s : Session) (signal : CloseSignal) : Bool := s.switches[signal]?.any id

/-- Throws a switch, for all that share it. -/
def throwSwitch (s : Session) (signal : CloseSignal) : Session :=
  { s with switches := s.switches.set signal true }

def connections (s : Session) : List Connection := s.opened.map fun c => ⟨c.toOpening, s.isThrown c.closed⟩

/-- Whether a statement counts as closed: it was closed itself, or its connection was. -/
def isClosed (s : Session) (statement : Statement) : Bool :=
  s.isThrown statement.closed || s.isThrown statement.connection

/-- A result with its cursor as it stands now, which has the switches it was handed for its owners. -/
def Result.seen (s : Session) (r : Result) : Result :=
  { r with cursor := { r.cursor with owners := r.signals.map s.isThrown } }

def results (s : Session) : List Result := s.executed.map (Result.seen s)

/-- The content of the code page file beside a table: the first of two names at which there is a file. A
file that is no text is an error. -/
def codePageFile (files : Files) (path : String) : Except Error (Option (List Char)) :=
  match (["cpg", "CPG"].findSome? fun extension => files.read? (withExtension path extension)) with
  | none => .ok none
  | some bytes =>
    match Charset.Utf8.decode? bytes with
    | some label => .ok (some label)
    | none => .error .io

def openTable (files : Files) (path : String) (options : Options) : Except Error Table.Reader := do
  let some bytes := files.read? path | throw .io
  let label ←
    if options.explicit.isNone && options.readsCodePageFile then codePageFile files path else pure none
  Table.Reader.ofBytes ⟨tableName path, path, options.explicit, label⟩ bytes

/-- Why an action on a session fails: an error, or nothing of the given number. -/
inductive Failure where
  | missing
  | error (e : Error)
deriving DecidableEq, Repr

def failing {α : Type} (r : Except Error α) : Except Failure α := r.mapError .error

def find {α : Type} (xs : List α) (key : Nat) : Except Failure α :=
  match xs[key]? with
  | some x => .ok x
  | none => .error .missing

def connect (s : Session) (path : String) (options : Options) : Except Failure Session := do
  let reader ← failing (openTable s.files path options)
  return { s with
    opened := s.opened ++ [⟨⟨path, options, reader.header, reader.schema⟩, s.switches.length⟩]
    switches := s.switches ++ [false] }

def createStatement (s : Session) (key : Nat) : Except Failure Session := do
  let c ← find s.opened key
  if s.isThrown c.closed then throw (.error (.closed c.path))
  return { s with
    statements := s.statements ++ [⟨c.path, c.options, c.closed, s.switches.length⟩]
    switches := s.switches ++ [false] }

def execute (s : Session) (key : Nat) (sql : String) : Except Failure Session := do
  let x ← find s.statements key
  if s.isClosed x then throw (.error (.closed x.path))
  let reader ← failing (openTable s.files x.path x.options)
  let cursor ← failing (Cursor.ofQuery reader sql x.options.boundary 2)
  return { s with executed := s.executed ++ [⟨[x.connection, x.closed], cursor⟩] }

def closeConnection (s : Session) (key : Nat) : Except Failure Session := do
  let c ← find s.opened key
  return s.throwSwitch c.closed

def closeStatement (s : Session) (key : Nat) : Except Failure Session := do
  let x ← find s.statements key
  return s.throwSwitch x.closed

end Xbase.Session
