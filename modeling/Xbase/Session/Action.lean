import Xbase.Number.Decimal96
import Xbase.Session.Basic
/-!
# Histories of a session

The actions on a session as values, with what each of them returns. A session that is run computes its decimals
with `Number.decimal96`.
-/
namespace Xbase.Session

variable [Number.DecimalArithmetic]

/-- An action on a session. Connections, statements and results are given by their numbers. -/
inductive Action where
  | write (path : String) (bytes : List UInt8)
  | makeDirectory (path : String)
  | remove (path : String)
  | connect (path : String) (options : Options)
  | closeConnection (connection : Nat)
  | createStatement (connection : Nat)
  | closeStatement (statement : Nat)
  | execute (statement : Nat) (sql : String)
  | operate (result : Nat) (op : Operation)
deriving DecidableEq, Repr

/-- What an action returns. What was created is answered by its number. -/
inductive Answer where
  | done
  | created (key : Nat)
  | outcome (o : Outcome)
  | failed (failure : Failure)
deriving DecidableEq, Repr

/-- The answer and the session after an action, which leaves the session as it was if it fails. -/
def settle (s : Session) (answer : Answer) (r : Except Failure Session) : Answer × Session :=
  match r with
  | .ok s => (answer, s)
  | .error failure => (.failed failure, s)

def updateFiles (s : Session) (files : Option Files) : Except Failure Session :=
  match files with
  | some files => .ok { s with files := files }
  | none => .error (.error .io)

/-- Whether an operation can be asked of a result. It does not give out its owners, which are closed by actions of
their own. -/
def offers : Operation → Bool
  | .closeOwner _ => false
  | _ => true

/-- Carries out an operation on a result. An operation that fails may have changed the result. -/
def operate (s : Session) (key : Nat) (op : Operation) : Answer × Session :=
  match s.results[key]?, offers op with
  | some r, true =>
    let (outcome, cursor) := r.cursor.perform op
    let s := { s with executed := s.executed.set key { r with cursor := cursor } }
    match outcome with
    | .ok o => (.outcome o, s)
    | .error e => (.failed (.error e), s)
  | _, _ => (.failed .missing, s)

def perform (s : Session) : Action → Answer × Session
  | .write path bytes => s.settle .done (s.updateFiles (s.files.write path bytes))
  | .makeDirectory path => s.settle .done (s.updateFiles (s.files.makeDirectory path))
  | .remove path => s.settle .done (s.updateFiles (s.files.remove path))
  | .connect path options => s.settle (.created s.opened.length) (s.connect path options)
  | .closeConnection key => s.settle .done (s.closeConnection key)
  | .createStatement key => s.settle (.created s.statements.length) (s.createStatement key)
  | .closeStatement key => s.settle .done (s.closeStatement key)
  | .execute key sql => s.settle (.created s.executed.length) (s.execute key sql)
  | .operate key op => s.operate key op

def after (s : Session) (history : List Action) : Session :=
  history.foldl (fun s action => (s.perform action).2) s

end Xbase.Session
