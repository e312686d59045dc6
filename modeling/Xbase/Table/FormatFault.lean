import Xbase.Number.Notation
/-!
# Faults of a table file

Why bytes are no table.
-/
namespace Xbase.Table

/-- Why bytes are no table. Fields and records are counted from 1. -/
inductive FormatFault where
  | truncatedHeader
  | shortHeaderLength (length : Nat)
  | shortRecordLength (length : Nat)
  | unterminatedDescriptors
  | unnamedField (position : Nat)
  | noFields
  | recordLengthMismatch (needed declared : Nat)
  | truncatedRecord (position count : Nat)
deriving DecidableEq, Repr

def FormatFault.message : FormatFault → String
  | .truncatedHeader => "the header is truncated"
  | .shortHeaderLength n => "header length " ++ Number.natString n ++ " is too short"
  | .shortRecordLength n => "record length " ++ Number.natString n ++ " is too short"
  | .unterminatedDescriptors => "field descriptors are not terminated"
  | .unnamedField k => "field #" ++ Number.natString k ++ " has no name"
  | .noFields => "the table declares no field"
  | .recordLengthMismatch needed declared =>
    "fields take " ++ Number.natString needed ++ " bytes per record but the header declares " ++
      Number.natString declared
  | .truncatedRecord k n =>
    "record " ++ Number.natString k ++ " of " ++ Number.natString n ++ " is truncated"

end Xbase.Table
