import Xbase.Proofs.Query.Lexing
/-!
# Reading at a position in a text

The lexer once more for a reader that keeps the whole text and the position where it stands. It asks for the
character at a position, which may not be there, and goes on by counting. Wherever it stands in the text, it reads
the token that the lexer reads off what follows, and no character is asked for beyond the end.
-/
namespace Xbase.Query

open Lexer
open Number (IntWidth)

/-- A token or a fault, and the position that is reached. -/
abbrev Outcome := Except LexFault Token × Nat

namespace Position

section Definitions

-- Where a reader below returns `none`, a character was asked for where there is none.
variable (text : List Char)

def segment? (i j : Nat) : Option (List Char) :=
  if i ≤ j ∧ j ≤ text.length then some ((text.drop i).take (j - i)) else none

/-- The first position whose character fails a test, or the end. -/
def skip? (p : Char → Bool) (i : Nat) : Option Nat :=
  if _h : i < text.length then do
    if p (← text[i]?) then skip? p (i + 1) else return i
  else return i
termination_by text.length - i

/-- The position behind digits and one point between them, if none came before, and whether there is a point. -/
def digits? (point : Bool) (i : Nat) : Option (Bool × Nat) :=
  if _h : i < text.length then do
    let c ← text[i]?
    if c.isDigit then digits? point (i + 1)
    else if c = '.' ∧ point = false ∧ text[i + 1]?.any Char.isDigit = true then digits? true (i + 1)
    else return (point, i)
  else return (point, i)
termination_by text.length - i

def lessAt (i : Nat) : Outcome :=
  if text[i]? = some '=' then (.ok (.operator .le), i + 1)
  else if text[i]? = some '>' then (.ok (.operator .ne), i + 1)
  else (.ok (.operator .lt), i)

def greaterAt (i : Nat) : Outcome :=
  if text[i]? = some '=' then (.ok (.operator .ge), i + 1) else (.ok (.operator .gt), i)

def exclamationAt (i : Nat) : Outcome :=
  if text[i]? = some '=' then (.ok (.operator .ne), i + 1) else (.error (.unexpected '!'), i)

def stringAt (content : List Char) (i : Nat) : Outcome :=
  match _h : text[i]? with
  | none => (.error .unterminatedString, i)
  | some c =>
    if c = '\'' then
      if text[i + 1]? = some '\'' then stringAt (content ++ ['\'']) (i + 2)
      else (.ok (.string (String.ofList content)), i + 1)
    else stringAt (content ++ [c]) (i + 1)
termination_by text.length - i
decreasing_by
  all_goals
    have hi := (List.getElem?_eq_some_iff.mp _h).1
    omega

def quotedIdentifierAt? (i : Nat) : Option Outcome := do
  let j ← skip? text (· ≠ '"') i
  if text.length ≤ j then return (.error .unterminatedIdentifier, j)
  else return (.ok (.identifier (String.ofList (← segment? text i j))), j + 1)

def numberAt? (i : Nat) : Option Outcome := do
  let c ← text[i]?
  let (point, j) ← digits? text false (if c = '-' ∨ c = '+' then i + 1 else i)
  let numeral ← segment? text i j
  let token? := if point then (Number.Binary.ofText? numeral).map Token.float
    else (IntWidth.w64.ofText? numeral).map (Token.integer <| Int64.ofInt ·)
  match token? with
  | some token => return (.ok token, j)
  | none => return (.error (.invalidNumber (String.ofList numeral)), j)

def byAt? (i : Nat) : Option (Option Nat) := do
  let start ← skip? text Text.isBlank i
  let stop ← skip? text Text.isAlphabetic start
  return if Text.upper (← segment? text start stop) = ['B', 'Y'] then some stop else none

def wordAt? (i : Nat) : Option Outcome := do
  let j ← skip? text isWordChar i
  let word ← segment? text i j
  match ← if Text.upper word = ['O', 'R', 'D', 'E', 'R'] then byAt? text j else some none with
  | some stop => return (.ok (.keyword .orderBy), stop)
  | none => return (.ok (wordToken word), j)

def tokenAt? (c : Char) (i : Nat) : Option Outcome :=
  match mark? c with
  | some t => some (.ok t, i + 1)
  | none =>
    if c = '<' then some (lessAt text (i + 1))
    else if c = '>' then some (greaterAt text (i + 1))
    else if c = '!' then some (exclamationAt text (i + 1))
    else if c = '\'' then some (stringAt text [] (i + 1))
    else if c = '"' then quotedIdentifierAt? text (i + 1)
    else if c.isDigit || ((c = '-' || c = '+') && text[i + 1]?.any Char.isDigit) then numberAt? text i
    else if isWordStart c then wordAt? text i
    else some (.error (.unexpected c), i)

def nextAt? (i : Nat) : Option Outcome := do
  let i ← skip? text Text.isBlank i
  if text.length ≤ i then return (.ok .eof, i) else tokenAt? text (← text[i]?) i

end Definitions

/-- What follows a position of a text. -/
def StandsAt (text : List Char) (i : Nat) (s : List Char) : Prop := i ≤ text.length ∧ text.drop i = s

/-- A reader that counts and one that takes characters off the front return the same and stand before the same. -/
def Agrees (text : List Char) (reading : Option Outcome) (lexed : Lexed) : Prop :=
  ∃ j, reading = some (lexed.1, j) ∧ StandsAt text j lexed.2

variable {text s rest front : List Char} {i j : Nat} {c : Char}

namespace StandsAt

theorem zero (text : List Char) : StandsAt text 0 text := ⟨Nat.zero_le _, rfl⟩

theorem add_length (h : StandsAt text i s) : i + s.length = text.length := by
  obtain ⟨hi, rfl⟩ := h
  rw [List.length_drop]
  omega

theorem unique (h : StandsAt text i s) (h' : StandsAt text j s) : i = j :=
  Nat.add_right_cancel (h.add_length.trans h'.add_length.symm)

private theorem getElem?_add (h : StandsAt text i s) (k : Nat) : text[i + k]? = s[k]? := by
  rw [← h.2, List.getElem?_drop]

theorem getElem? (h : StandsAt text i s) : text[i]? = s.head? := by
  rw [← Nat.add_zero i, h.getElem?_add, List.head?_eq_getElem?]

theorem append (h : StandsAt text i (front ++ rest)) : StandsAt text (i + front.length) rest := by
  have hlength := h.add_length
  rw [List.length_append] at hlength
  refine ⟨by omega, ?_⟩
  rw [← List.drop_drop, h.2, List.drop_left]

theorem tail (h : StandsAt text i (c :: rest)) : StandsAt text (i + 1) rest := by
  have hsplit : StandsAt text i ([c] ++ rest) := h
  exact hsplit.append

theorem segment?_eq (h : StandsAt text i (front ++ rest)) : segment? text i (i + front.length) = some front := by
  have hend := h.append.1
  rw [segment?, if_pos ⟨Nat.le_add_right _ _, hend⟩, h.2, Nat.add_sub_cancel_left, List.take_left]

theorem eq_length (h : StandsAt text i []) : i = text.length := h.add_length

theorem lt_length (h : StandsAt text i (c :: rest)) : i < text.length := by
  have hlength := h.add_length
  rw [List.length_cons] at hlength
  omega

end StandsAt

theorem skip?_eq {p : Char → Bool} (h : StandsAt text i s) :
    skip? text p i = some (i + (s.takeWhile p).length) := by
  induction s generalizing i with
  | nil =>
    rw [skip?, dif_neg (Nat.not_lt.mpr (Nat.le_of_eq h.eq_length.symm))]
    rfl
  | cons c s ih =>
    rw [skip?, dif_pos h.lt_length, h.getElem?]
    cases hc : p c with
    | true => simp [hc, ih h.tail, Nat.add_assoc, Nat.add_comm 1]
    | false => simp [hc]

theorem StandsAt.dropWhile {p : Char → Bool} (h : StandsAt text i s) :
    StandsAt text (i + (s.takeWhile p).length) (s.dropWhile p) := by
  rw [← List.takeWhile_append_dropWhile (p := p) (l := s)] at h
  exact h.append

private theorem StandsAt.segment?_takeWhile {p : Char → Bool} (h : StandsAt text i s) :
    segment? text i (i + (s.takeWhile p).length) = some (s.takeWhile p) := by
  rw [← List.takeWhile_append_dropWhile (p := p) (l := s)] at h
  exact h.segment?_eq

private theorem agrees_less (h : StandsAt text i s) : Agrees text (some (lessAt text i)) (afterLess s) := by
  cases s with
  | nil => exact ⟨i, by simp [lessAt, h.getElem?, afterLess], h⟩
  | cons c s =>
    by_cases h₁ : c = '='
    · subst h₁
      exact ⟨i + 1, by simp [lessAt, h.getElem?, afterLess], h.tail⟩
    by_cases h₂ : c = '>'
    · subst h₂
      exact ⟨i + 1, by simp [lessAt, h.getElem?, afterLess], h.tail⟩
    · rw [afterLess_other h₁ h₂]
      exact ⟨i, by simp [lessAt, h.getElem?, h₁, h₂], h⟩

private theorem agrees_greater (h : StandsAt text i s) : Agrees text (some (greaterAt text i)) (afterGreater s) := by
  cases s with
  | nil => exact ⟨i, by simp [greaterAt, h.getElem?, afterGreater], h⟩
  | cons c s =>
    by_cases hc : c = '='
    · subst hc
      exact ⟨i + 1, by simp [greaterAt, h.getElem?, afterGreater], h.tail⟩
    · rw [afterGreater_other hc]
      exact ⟨i, by simp [greaterAt, h.getElem?, hc], h⟩

private theorem agrees_exclamation (h : StandsAt text i s) :
    Agrees text (some (exclamationAt text i)) (afterExclamation s) := by
  cases s with
  | nil => exact ⟨i, by simp [exclamationAt, h.getElem?, afterExclamation], h⟩
  | cons c s =>
    by_cases hc : c = '='
    · subst hc
      exact ⟨i + 1, by simp [exclamationAt, h.getElem?, afterExclamation], h.tail⟩
    · have hother : afterExclamation (c :: s) = (.error (.unexpected '!'), c :: s) := by
        simp [afterExclamation, hc]
      rw [hother]
      exact ⟨i, by simp [exclamationAt, h.getElem?, hc], h⟩

private theorem stringAt_eq (text content : List Char) (i : Nat) :
    stringAt text content i =
      match text[i]? with
      | none => (.error .unterminatedString, i)
      | some c =>
        if c = '\'' then
          if text[i + 1]? = some '\'' then stringAt text (content ++ ['\'']) (i + 2)
          else (.ok (.string (String.ofList content)), i + 1)
        else stringAt text (content ++ [c]) (i + 1) := by
  rw [stringAt]
  split <;> simp_all

private def stringBehind (content s : List Char) : Lexed :=
  match stringBody? s with
  | some (body, rest) => (.ok (.string (String.ofList (content ++ body))), rest)
  | none => (.error .unterminatedString, [])

private theorem stringBehind_quotes (content s : List Char) :
    stringBehind content ('\'' :: '\'' :: s) = stringBehind (content ++ ['\'']) s := by
  rw [stringBehind, stringBehind, stringBody?]
  cases stringBody? s <;> simp

private theorem stringBehind_other (content s : List Char) (hc : c ≠ '\'') :
    stringBehind content (c :: s) = stringBehind (content ++ [c]) s := by
  rw [stringBehind, stringBehind, stringBody?_other hc]
  cases stringBody? s <;> simp

private theorem agrees_stringBehind (h : StandsAt text i s) (content : List Char) :
    Agrees text (some (stringAt text content i)) (stringBehind content s) := by
  induction s using stringBody?.induct generalizing i content with
  | case1 =>
    rw [stringAt_eq, h.getElem?]
    exact ⟨i, rfl, h⟩
  | case2 s ih =>
    have hsecond : text[i + 1]? = some '\'' := h.tail.getElem?
    rw [stringAt_eq, h.getElem?, stringBehind_quotes]
    simp only [List.head?_cons, if_true, hsecond]
    exact ih h.tail.tail _
  | case3 s hne =>
    have hsecond : text[i + 1]? ≠ some '\'' := by
      rw [h.tail.getElem?]
      intro hquote
      obtain ⟨rest, rfl⟩ := List.head?_eq_some_iff.mp hquote
      exact hne rest rfl
    have hend : stringBehind content ('\'' :: s) = (.ok (.string (String.ofList content)), s) := by
      rw [stringBehind, stringBody?.eq_3 s hne]
      simp
    rw [stringAt_eq, h.getElem?, hend]
    simp only [List.head?_cons, if_true, if_neg hsecond]
    exact ⟨i + 1, rfl, h.tail⟩
  | case4 c s hne hq ih =>
    have hc : c ≠ '\'' := fun hc => hq hc
    rw [stringAt_eq, h.getElem?, stringBehind_other content s hc]
    simp only [List.head?_cons, if_neg hc]
    exact ih h.tail _

private theorem agrees_quotedIdentifier (h : StandsAt text i s) :
    Agrees text (quotedIdentifierAt? text i) (quotedIdentifier s) := by
  have hquote := h.dropWhile (p := (· ≠ '"'))
  rw [quotedIdentifierAt?, quotedIdentifier, skip?_eq h, Option.bind_eq_bind, Option.bind_some]
  cases hs : s.dropWhile (· ≠ '"') with
  | nil =>
    rw [hs] at hquote
    rw [if_pos (Nat.le_of_eq hquote.eq_length.symm)]
    exact ⟨_, rfl, hquote⟩
  | cons quote rest =>
    rw [hs] at hquote
    rw [if_neg (Nat.not_le.mpr hquote.lt_length), h.segment?_takeWhile]
    exact ⟨_, rfl, hquote.tail⟩

private theorem digits?_true (h : StandsAt text i s) :
    digits? text true i = some (true, i + (s.takeWhile Char.isDigit).length) := by
  induction s generalizing i with
  | nil =>
    rw [digits?, dif_neg (Nat.not_lt.mpr (Nat.le_of_eq h.eq_length.symm))]
    rfl
  | cons c s ih =>
    rw [digits?, dif_pos h.lt_length, h.getElem?]
    cases hc : c.isDigit with
    | true => simp [hc, ih h.tail, Nat.add_assoc, Nat.add_comm 1]
    | false => simp [hc]

private theorem places_cons (c : Char) (s : List Char) :
    places (c :: s) =
      if c = '.' ∧ s.head?.any Char.isDigit = true then '.' :: s.takeWhile Char.isDigit else [] := by
  by_cases hc : c = '.'
  · subst hc
    cases s with
    | nil => rfl
    | cons d s => cases hd : d.isDigit <;> simp [places, hd]
  · simp [places, hc]

private theorem digits?_false (h : StandsAt text i s) :
    digits? text false i =
      some (decide (places (s.dropWhile Char.isDigit) ≠ []),
        i + (s.takeWhile Char.isDigit ++ places (s.dropWhile Char.isDigit)).length) := by
  induction s generalizing i with
  | nil =>
    rw [digits?, dif_neg (Nat.not_lt.mpr (Nat.le_of_eq h.eq_length.symm))]
    rfl
  | cons c s ih =>
    rw [digits?, dif_pos h.lt_length, h.getElem?]
    cases hc : c.isDigit with
    | true => simp [hc, ih h.tail, Nat.add_assoc, Nat.add_comm 1]
    | false =>
      simp only [List.head?_cons, Option.bind_eq_bind, Option.bind_some, hc, Bool.false_eq_true, if_false,
        true_and, h.tail.getElem?, List.takeWhile_cons_of_neg, List.dropWhile_cons_of_neg,
        not_false_eq_true, List.nil_append, places_cons]
      split
      · rw [digits?_true h.tail]
        simp [Nat.add_assoc, Nat.add_comm 1]
      · rfl

private theorem number_split (c : Char) (s : List Char) :
    c :: s = (c :: s.takeWhile Char.isDigit ++ places (s.dropWhile Char.isDigit)) ++
      (s.dropWhile Char.isDigit).drop (places (s.dropWhile Char.isDigit)).length := by
  have hplaces := List.prefix_iff_eq_append.mp (isPrefix_places (s := s.dropWhile Char.isDigit))
  rw [List.append_assoc, hplaces, List.cons_append, List.takeWhile_append_dropWhile]

private theorem agrees_number (h : StandsAt text i (c :: s)) (hstart : startsNumber c s = true) :
    Agrees text (numberAt? text i) (number c s) := by
  have hdigits : digits? text false (if c = '-' ∨ c = '+' then i + 1 else i) =
      some (decide (places (s.dropWhile Char.isDigit) ≠ []),
        i + (c :: s.takeWhile Char.isDigit ++ places (s.dropWhile Char.isDigit)).length) := by
    by_cases hsign : c = '-' ∨ c = '+'
    · rw [if_pos hsign, digits?_false h.tail]
      simp [Nat.add_assoc, Nat.add_comm 1]
    · have hc : c.isDigit = true := by
        simpa [startsNumber, hsign] using hstart
      rw [if_neg hsign, digits?_false h]
      simp [hc]
  have hsplit := number_split c s
  have hfirst : text[i]? = some c := h.getElem?
  rw [hsplit] at h
  rw [numberAt?, hfirst]
  simp only [Option.bind_eq_bind, Option.bind_some, hdigits, h.segment?_eq, number]
  generalize places (s.dropWhile Char.isDigit) = fraction at h ⊢
  by_cases hwhole : fraction = []
  · simp only [hwhole, ne_eq, not_true_eq_false, decide_false, Bool.false_eq_true, if_false, if_true]
    subst hwhole
    cases IntWidth.w64.ofText? (c :: s.takeWhile Char.isDigit ++ []) <;> exact ⟨_, rfl, h.append⟩
  · simp only [hwhole, ne_eq, not_false_eq_true, decide_true, if_true, if_false]
    cases (Number.Binary.ofText? (c :: s.takeWhile Char.isDigit ++ fraction) : Option Number.Binary64) <;>
      exact ⟨_, rfl, h.append⟩

private theorem byAt?_eq (h : StandsAt text i s) :
    ∃ stop, byAt? text i = some ((afterBy? s).map fun _ => stop) ∧
      ∀ rest, afterBy? s = some rest → StandsAt text stop rest := by
  have hstart := h.dropWhile (p := Text.isBlank)
  rw [byAt?, skip?_eq h]
  simp only [Option.bind_eq_bind, Option.bind_some, skip?_eq hstart, hstart.segment?_takeWhile, afterBy?]
  by_cases hword : Text.upper ((s.dropWhile Text.isBlank).takeWhile Text.isAlphabetic) = ['B', 'Y']
  · rw [if_pos hword, if_pos hword]
    refine ⟨_, rfl, fun rest hrest => ?_⟩
    cases hrest
    exact hstart.dropWhile
  · rw [if_neg hword, if_neg hword]
    refine ⟨i, rfl, fun rest hrest => ?_⟩
    cases hrest

private theorem isWordChar_of_isWordStart (h : isWordStart c = true) : isWordChar c = true := by
  rw [isWordStart, Bool.or_eq_true, decide_eq_true_eq] at h
  obtain hletter | rfl := h
  · exact isWordChar_of_isAlphabetic hletter
  · decide

private theorem agrees_word (h : StandsAt text i (c :: s)) (hstart : isWordStart c = true) :
    Agrees text (wordAt? text i) (word c s) := by
  have hc := isWordChar_of_isWordStart hstart
  have hword : (c :: s).takeWhile isWordChar = c :: s.takeWhile isWordChar := List.takeWhile_cons_of_pos hc
  have hrest : (c :: s).dropWhile isWordChar = s.dropWhile isWordChar := List.dropWhile_cons_of_pos hc
  have hsegment := h.segment?_takeWhile (p := isWordChar)
  have hbehind := h.dropWhile (p := isWordChar)
  have hskip := skip?_eq (p := isWordChar) h
  rw [hword] at hsegment hbehind hskip
  rw [hrest] at hbehind
  obtain ⟨stop, hby, hstop⟩ := byAt?_eq hbehind
  rw [wordAt?, hskip]
  simp only [Option.bind_eq_bind, Option.bind_some, hsegment, word]
  by_cases horder : Text.upper (c :: s.takeWhile isWordChar) = ['O', 'R', 'D', 'E', 'R']
  · rw [if_pos horder, if_pos horder, hby]
    cases hafter : afterBy? (s.dropWhile isWordChar) with
    | none => exact ⟨_, rfl, hbehind⟩
    | some rest => exact ⟨_, rfl, hstop rest hafter⟩
  · rw [if_neg horder, if_neg horder]
    exact ⟨_, rfl, hbehind⟩

private theorem agrees_token (h : StandsAt text i (c :: s)) : Agrees text (tokenAt? text c i) (token c s) := by
  have hstarts : (c.isDigit || ((c = '-' || c = '+') && text[i + 1]?.any Char.isDigit)) = startsNumber c s := by
    rw [startsNumber, h.tail.getElem?]
  unfold tokenAt? token
  rw [hstarts]
  cases mark? c with
  | some t => exact ⟨i + 1, rfl, h.tail⟩
  | none =>
    simp only
    split_ifs
    · exact agrees_less h.tail
    · exact agrees_greater h.tail
    · exact agrees_exclamation h.tail
    · exact agrees_stringBehind h.tail []
    · exact agrees_quotedIdentifier h.tail
    · exact agrees_number h ‹_›
    · exact agrees_word h ‹_›
    · exact ⟨i, rfl, h⟩

/-- No character is asked for beyond the end, and what is read by counting is what is read off the front. -/
theorem agrees_next (h : StandsAt text i s) : Agrees text (nextAt? text i) (next s) := by
  have hbehind := h.dropWhile (p := Text.isBlank)
  rw [nextAt?, skip?_eq h, next, Option.bind_eq_bind, Option.bind_some]
  cases hs : s.dropWhile Text.isBlank with
  | nil =>
    rw [hs] at hbehind
    rw [if_pos (Nat.le_of_eq hbehind.eq_length.symm)]
    exact ⟨_, rfl, hbehind⟩
  | cons c rest =>
    rw [hs] at hbehind
    rw [if_neg (Nat.not_le.mpr hbehind.lt_length), hbehind.getElem?]
    exact agrees_token hbehind

end Position

end Xbase.Query
