import Xbase.Charset.Decode
/-!
# The text of a field

Many tables declare one character set and hold text in UTF-8. The bytes of a field are read both ways, and
UTF-8 is taken where it is well formed, holds no replacement character and gives fewer characters: only
then have several bytes been joined into one character.
-/
namespace Xbase.Charset

/-- A text and the character set it was read in. -/
structure FieldText where
  text : List Char
  charset : Charset
deriving DecidableEq, Repr

/-- The text of bytes in UTF-8, unless it holds a malformed sequence or a replacement character. -/
def cleanUtf8? (bytes : List UInt8) : Option (List Char) :=
  (Utf8.decode? bytes).filter fun s => !s.contains replacementChar

def fieldText (declared : Charset) (bytes : List UInt8) : FieldText :=
  let inDeclared := declared.decode bytes
  match cleanUtf8? bytes with
  | some inUtf8 =>
    if inUtf8.length < inDeclared.length then ⟨inUtf8, .utf8⟩ else ⟨inDeclared, declared⟩
  | none => ⟨inDeclared, declared⟩

end Xbase.Charset
