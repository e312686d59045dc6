import Xbase.Error
import Xbase.Number.Reading
/-!
# Logging

What a program that logs is told: a filter, a place for the lines, and their format. A filter is a list of
directives between commas. A directive is a level for everything, or a target with a level of its own.
-/
namespace Xbase.Logging

inductive Output where
  | stdout
  | file (path : String)
  | both (path : String)
deriving DecidableEq, Repr

inductive LineFormat where
  | pretty
  | compact
deriving DecidableEq, Repr

inductive Level where
  | off
  | error
  | warn
  | info
  | debug
  | trace
deriving DecidableEq, Repr

/-- The levels by their numbers, from 0 on. -/
def Level.all : List Level := [.off, .error, .warn, .info, .debug, .trace]

def Level.name : Level → String
  | .off => "off"
  | .error => "error"
  | .warn => "warn"
  | .info => "info"
  | .debug => "debug"
  | .trace => "trace"

/-- The level of a name, in any letter case, or of a number. -/
def Level.ofText? (s : List Char) : Option Level :=
  let digits := match s with
    | '+' :: s => s
    | s => s
  match Number.natOfText? digits with
  | some n => Level.all[n]?
  | none => Level.all.find? (·.name = String.ofList (s.map Char.toLower))

/-- A directive of a filter. Without a target its level is for everything. -/
structure Directive where
  target : Option String
  level : Level
deriving DecidableEq, Repr

/-- Reads a directive. A target without a level logs everything. -/
def Directive.ofText? (s : List Char) : Option Directive :=
  match s.dropWhile (· ≠ '=') with
  | [] =>
    match Level.ofText? s with
    | some level => some ⟨none, level⟩
    | none => some ⟨some (String.ofList s), .trace⟩
  | [_] => some ⟨some (String.ofList (s.takeWhile (· ≠ '='))), .trace⟩
  | _ :: level =>
    (Level.ofText? level).map fun level => ⟨some (String.ofList (s.takeWhile (· ≠ '='))), level⟩

structure Config where
  level : String
  output : Output
  format : LineFormat
deriving DecidableEq, Repr

namespace Config

/-- A configuration for a level, on the standard output. -/
def ofLevel (level : Level) : Config := ⟨level.name, .stdout, .compact⟩

def standard : Config := ofLevel .info

def withFile (c : Config) (path : String) : Config := { c with output := .file path }

def withBoth (c : Config) (path : String) : Config := { c with output := .both path }

def withFormat (c : Config) (format : LineFormat) : Config := { c with format := format }

def withLevel (c : Config) (level : String) : Config := { c with level := level }

def filter (c : Config) : Except Error (List Directive) :=
  match ((c.level.splitOn ",").filter (· ≠ "")).mapM fun s => Directive.ofText? s.toList with
  | some directives => .ok directives
  | none => .error (.logFilter c.level)

end Config

end Xbase.Logging
