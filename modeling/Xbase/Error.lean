import Xbase.Query.Fault
import Xbase.Table.FormatFault
/-!
# Errors

Everything that can go wrong between opening a table and reading a value, with one message for each
cause. An error of the file system has a cause of its own there and no message here.
-/
namespace Xbase

open Query (Literal Fault)
open Table (FormatFault)

instance decidableEqExcept {ε α : Type} [DecidableEq ε] [DecidableEq α] : DecidableEq (Except ε α)
  | .ok a, .ok b => decidable_of_iff (a = b) ⟨congrArg Except.ok, Except.ok.inj⟩
  | .error a, .error b => decidable_of_iff (a = b) ⟨congrArg Except.error, Except.error.inj⟩
  | .ok _, .error _ => isFalse nofun
  | .error _, .ok _ => isFalse nofun

/-- Why a literal does not fit the column it is compared with. -/
inductive LiteralFault where
  | null
  | notNumber
  | notDate
  | nullDate
  | notString
  | notFlag
  | notTruthValue
deriving DecidableEq, Repr

def LiteralFault.message : LiteralFault → String
  | .null => "NULL cannot be compared, IS NULL is not supported"
  | .notNumber => "not a number"
  | .notDate => "expected a YYYYMMDD date"
  | .nullDate => "the null date cannot be compared"
  | .notString => "expected a string"
  | .notFlag => "expected T or F"
  | .notTruthValue => "expected TRUE or FALSE"

inductive Error where
  | closed (identity : String)
  | noSuchField (column table : String)
  | illegalColumnIndex (index columnCount : Nat)
  | notNumeric (column : String) (type : FieldType) (value : String)
  | notDate (column : String) (type : FieldType) (value : String)
  | illegalParameter (column : String) (type : FieldType) (literal : Literal) (reason : LiteralFault)
  | query (sql : String) (fault : Fault)
  | noResult (sql identity : String)
  | invalidFormat (identity : String) (fault : FormatFault)
  | logFilter (filter : String)
  | io
deriving DecidableEq, Repr

def Error.message : Error → String
  | .closed identity => identity ++ " is closed"
  | .noSuchField column table => "no field '" ++ column ++ "' in table " ++ table
  | .illegalColumnIndex index count =>
    "illegal column index " ++ Number.natString index ++ ": the table has " ++ Number.natString count ++
      " columns"
  | .notNumeric column type value =>
    "field '" ++ column ++ "' of type " ++ type.text ++ " is not numeric: '" ++ value ++ "'"
  | .notDate column type value =>
    "field '" ++ column ++ "' of type " ++ type.text ++ " is not a date: '" ++ value ++ "'"
  | .illegalParameter column type literal reason =>
    "illegal parameter '" ++ literal.text ++ "' for field '" ++ column ++ "' of type " ++ type.text ++
      ": " ++ reason.message
  | .query sql (.invalid fault) => "invalid statement '" ++ sql ++ "': " ++ fault.message
  | .query sql (.unsupported feature) => "unsupported feature " ++ feature.text ++ " in '" ++ sql ++ "'"
  | .noResult sql identity => "no more results for '" ++ sql ++ "' in " ++ identity
  | .invalidFormat identity fault => "invalid DBF format in " ++ identity ++ ": " ++ fault.message
  | .logFilter filter =>
    "invalid configuration: invalid log filter '" ++ filter ++ "': error parsing level filter: " ++
      "expected one of \"off\", \"error\", \"warn\", \"info\", \"debug\", \"trace\", or a number 0-5"
  | .io => ""

end Xbase
