import Xbase.Query.Token
import Xbase.Number.Reading
import Xbase.Text.Alphabetic
import Xbase.Text.Blank
import Xbase.Text.UpperCase
/-!
# The lexer

`next` reads one token off the front of a text and returns it with the rest. A fault is returned with a
rest too, so that reading can go on after it. `next_length_lt` says that a token other than the end
shortens the rest, and so `tokenize` comes to an end.
-/
namespace Xbase.Query

open Number (Binary64 IntWidth)

inductive LexFault where
  | unexpected (c : Char)
  | invalidNumber (text : String)
  | unterminatedString
  | unterminatedIdentifier
deriving DecidableEq, Repr

def LexFault.message : LexFault → String
  | .unexpected c => "unexpected character '" ++ String.singleton c ++ "'"
  | .invalidNumber text => "invalid number '" ++ text ++ "'"
  | .unterminatedString => "unterminated string literal"
  | .unterminatedIdentifier => "unterminated quoted identifier"

/-- A token or a fault, and the rest of the text. -/
abbrev Lexed := Except LexFault Token × List Char

namespace Lexer

/-- A character of a word: a letter, a number, an underscore or a point. -/
def isWordChar (c : Char) : Bool := Text.isAlphanumeric c || c = '_' || c = '.'

def isWordStart (c : Char) : Bool := Text.isAlphabetic c || c = '_'

/-- The tokens of one character that starts no longer token. -/
def mark? : Char → Option Token
  | '*' => some .asterisk
  | ',' => some .comma
  | '(' => some .leftParen
  | ')' => some .rightParen
  | ';' => some .semicolon
  | '=' => some (.operator .eq)
  | _ => none

def afterLess : List Char → Lexed
  | '=' :: s => (.ok (.operator .le), s)
  | '>' :: s => (.ok (.operator .ne), s)
  | s => (.ok (.operator .lt), s)

def afterGreater : List Char → Lexed
  | '=' :: s => (.ok (.operator .ge), s)
  | s => (.ok (.operator .gt), s)

/-- Reads on after `!`, which is no token by itself. -/
def afterExclamation : List Char → Lexed
  | '=' :: s => (.ok (.operator .ne), s)
  | s => (.error (.unexpected '!'), s)

/-- The content of a string up to its closing quote, and the rest after it. A quote written twice stands
for one. -/
def stringBody? : List Char → Option (List Char × List Char)
  | [] => none
  | '\'' :: '\'' :: s => (stringBody? s).map fun (content, rest) => ('\'' :: content, rest)
  | '\'' :: s => some ([], s)
  | c :: s => (stringBody? s).map fun (content, rest) => (c :: content, rest)

def string (s : List Char) : Lexed :=
  match stringBody? s with
  | some (content, rest) => (.ok (.string (String.ofList content)), rest)
  | none => (.error .unterminatedString, [])

/-- Reads an identifier after its opening double quote. Nothing in it is an escape. -/
def quotedIdentifier (s : List Char) : Lexed :=
  match s.dropWhile (· ≠ '"') with
  | _ :: rest => (.ok (.identifier (String.ofList (s.takeWhile (· ≠ '"')))), rest)
  | [] => (.error .unterminatedIdentifier, [])

/-- Whether a number starts here: with a digit, or with a sign before a digit. -/
def startsNumber (c : Char) (s : List Char) : Bool :=
  c.isDigit || ((c = '-' || c = '+') && s.head?.any Char.isDigit)

/-- The point and the digits that continue a number after its whole part. A point without a digit after it
belongs to no number. -/
def places : List Char → List Char
  | '.' :: s => match s.takeWhile Char.isDigit with
    | [] => []
    | digits => '.' :: digits
  | _ => []

/-- Reads a number whose first character has been recognised. It is a floating-point number if it has a
point, else an integer of 64 bits. -/
def number (c : Char) (s : List Char) : Lexed :=
  let whole := s.takeWhile Char.isDigit
  let rest := s.dropWhile Char.isDigit
  let fraction := places rest
  let text := c :: whole ++ fraction
  let token? := if fraction = [] then (IntWidth.w64.ofText? text).map (Token.integer <| Int64.ofInt ·)
    else (Number.Binary.ofText? text).map Token.float
  match token? with
  | some token => (.ok token, rest.drop fraction.length)
  | none => (.error (.invalidNumber (String.ofList text)), rest.drop fraction.length)

/-- The token of a word: a keyword or a literal's name in any letter case, or an identifier. -/
def wordToken (word : List Char) : Token :=
  match String.ofList (Text.upper word) with
  | "TRUE" => .boolean true
  | "FALSE" => .boolean false
  | "NULL" => .null
  | capitals => match Keyword.all.find? (·.text = capitals) with
    | some k => .keyword k
    | none => .identifier (String.ofList word)

/-- The rest after the letters `BY` in any case, if they are all the letters that follow the blanks. -/
def afterBy? (s : List Char) : Option (List Char) :=
  let s := s.dropWhile Text.isBlank
  if Text.upper (s.takeWhile Text.isAlphabetic) = ['B', 'Y'] then some (s.dropWhile Text.isAlphabetic)
  else none

def word (c : Char) (s : List Char) : Lexed :=
  let word := c :: s.takeWhile isWordChar
  let rest := s.dropWhile isWordChar
  match if Text.upper word = ['O', 'R', 'D', 'E', 'R'] then afterBy? rest else none with
  | some rest => (.ok (.keyword .orderBy), rest)
  | none => (.ok (wordToken word), rest)

/-- Reads a token that starts with a given character. A character that starts no token is left where it
is. -/
def token (c : Char) (s : List Char) : Lexed :=
  match mark? c with
  | some t => (.ok t, s)
  | none =>
    if c = '<' then afterLess s
    else if c = '>' then afterGreater s
    else if c = '!' then afterExclamation s
    else if c = '\'' then string s
    else if c = '"' then quotedIdentifier s
    else if startsNumber c s then number c s
    else if isWordStart c then word c s
    else (.error (.unexpected c), c :: s)

def next (s : List Char) : Lexed :=
  match s.dropWhile Text.isBlank with
  | [] => (.ok .eof, [])
  | c :: s => token c s

private theorem length_dropWhile_le (p : Char → Bool) (s : List Char) :
    (s.dropWhile p).length ≤ s.length := (List.dropWhile_suffix p).length_le

private theorem afterLess_length_le (s : List Char) : (afterLess s).2.length ≤ s.length := by
  unfold afterLess
  split <;> simp

private theorem afterGreater_length_le (s : List Char) : (afterGreater s).2.length ≤ s.length := by
  unfold afterGreater
  split <;> simp

private theorem afterExclamation_length_le (s : List Char) :
    (afterExclamation s).2.length ≤ s.length := by
  unfold afterExclamation
  split <;> simp

private theorem stringBody?_length_le {s content rest : List Char}
    (h : stringBody? s = some (content, rest)) : rest.length ≤ s.length := by
  induction s using stringBody?.induct generalizing content rest with
  | case1 => simp [stringBody?] at h
  | case2 s ih =>
    simp only [stringBody?, Option.map_eq_some_iff] at h
    obtain ⟨⟨t, r⟩, hs, heq⟩ := h
    cases heq
    have htail := ih hs
    simp
    omega
  | case3 s hne =>
    rw [stringBody?.eq_3 s hne] at h
    cases h
    simp
  | case4 c s hne hq ih =>
    rw [stringBody?.eq_4 c s hne hq] at h
    obtain ⟨⟨t, r⟩, hs, heq⟩ := Option.map_eq_some_iff.mp h
    cases heq
    have htail := ih hs
    simp
    omega

private theorem string_length_le (s : List Char) : (string s).2.length ≤ s.length := by
  unfold string
  split
  · exact stringBody?_length_le (by assumption)
  · simp

private theorem quotedIdentifier_length_le (s : List Char) :
    (quotedIdentifier s).2.length ≤ s.length := by
  have hle := length_dropWhile_le (· ≠ '"') s
  unfold quotedIdentifier
  split
  · rename_i heq
    rw [heq] at hle
    simp at hle ⊢
    omega
  · simp

private theorem number_length_le (c : Char) (s : List Char) : (number c s).2.length ≤ s.length := by
  have hle := length_dropWhile_le Char.isDigit s
  unfold number
  simp only
  split <;> simp <;> omega

private theorem afterBy?_length_le {s rest : List Char} (h : afterBy? s = some rest) :
    rest.length ≤ s.length := by
  unfold afterBy? at h
  simp only at h
  split at h
  · cases h
    exact Nat.le_trans (length_dropWhile_le _ _) (length_dropWhile_le _ _)
  · cases h

private theorem word_length_le (c : Char) (s : List Char) : (word c s).2.length ≤ s.length := by
  have hle := length_dropWhile_le isWordChar s
  unfold word
  simp only
  split
  · rename_i rest heq
    split at heq
    · exact Nat.le_trans (afterBy?_length_le heq) hle
    · cases heq
  · exact hle

theorem token_length_le_or_unexpected (c : Char) (s : List Char) :
    (token c s).2.length ≤ s.length ∨ (c ≠ '!' ∧ token c s = (.error (.unexpected c), c :: s)) := by
  unfold token
  split
  · exact .inl (Nat.le_refl _)
  split
  · exact .inl (afterLess_length_le s)
  split
  · exact .inl (afterGreater_length_le s)
  split
  · exact .inl (afterExclamation_length_le s)
  rename_i hc
  split
  · exact .inl (string_length_le s)
  split
  · exact .inl (quotedIdentifier_length_le s)
  split
  · exact .inl (number_length_le c s)
  split
  · exact .inl (word_length_le c s)
  · exact .inr ⟨hc, rfl⟩

theorem token_length_le {c : Char} {s : List Char} {t : Token} (h : (token c s).1 = .ok t) :
    (token c s).2.length ≤ s.length := by
  obtain hle | ⟨-, herror⟩ := token_length_le_or_unexpected c s
  · exact hle
  · rw [herror] at h
    cases h

/-- Reading a token other than the end leaves a shorter rest. -/
theorem next_length_lt {s : List Char} {t : Token} (h : (next s).1 = .ok t) (ht : t ≠ .eof) :
    (next s).2.length < s.length := by
  have hle := length_dropWhile_le Text.isBlank s
  unfold next at h ⊢
  split
  · rename_i heq
    simp only [heq] at h
    exact absurd (Except.ok.inj h).symm ht
  · rename_i c rest heq
    simp only [heq] at h
    rw [heq] at hle
    have htoken := token_length_le h
    simp at hle
    omega

end Lexer

/-- The tokens of a text up to and including its end, or its first fault. -/
def tokenize (s : List Char) : Except LexFault (List Token) :=
  match _hnext : Lexer.next s with
  | (.error fault, _) => .error fault
  | (.ok t, rest) =>
    if _ht : t = .eof then .ok [t]
    else (tokenize rest).map (t :: ·)
termination_by s.length
decreasing_by
  have hlt := Lexer.next_length_lt (congrArg Prod.fst _hnext) _ht
  rwa [_hnext] at hlt

end Xbase.Query
