import Mathlib.Data.List.TakeWhile
import Mathlib.Tactic.MkIffOfInductiveProp
import Mathlib.Tactic.SplitIfs
import Xbase.Proofs.Number.Notation
import Xbase.Proofs.Query.TokenList
/-!
# Tokens in longer texts

Each reader of the lexer reads the same token when something is written behind the text, as long as that begins
with a character which ends every token. Only the look-ahead behind a word that may begin `ORDER BY` reaches
further than one character.
-/
namespace Xbase

theorem Text.Ranges.exists_of_has {ranges : Text.Ranges} {n : Nat} (h : ranges.has n = true) :
    ∃ range ∈ ranges, range.1 ≤ n ∧ n ≤ range.2 := by
  induction ranges with
  | nil => cases h
  | cons range ranges ih =>
    simp only [Text.Ranges.has, Bool.and_eq_true, Bool.or_eq_true, decide_eq_true_eq] at h
    obtain ⟨hfirst, hlast | hrest⟩ := h
    · exact ⟨range, .head _, hfirst, hlast⟩
    · obtain ⟨other, hmem, hother⟩ := ih hrest
      exact ⟨other, .tail _ hmem, hother⟩

namespace Query.Lexer

/-- A character that belongs to no token that has been read up to it. -/
@[mk_iff]
structure Ends (c : Char) : Prop where
  not_wordChar : isWordChar c = false
  ne_equals : c ≠ '='
  ne_greater : c ≠ '>'
  ne_quote : c ≠ '\''

instance (c : Char) : Decidable (Ends c) := decidable_of_iff' _ (ends_iff c)

theorem isWordChar_of_isAlphabetic {c : Char} (h : Text.isAlphabetic c = true) : isWordChar c = true := by
  simp [isWordChar, Text.isAlphanumeric, h]

theorem isAlphabetic_of_not_isWordChar {c : Char} (h : isWordChar c = false) : Text.isAlphabetic c = false := by
  cases ha : Text.isAlphabetic c with
  | false => rfl
  | true => rw [← h, isWordChar_of_isAlphabetic ha]

theorem isWordChar_of_isDigit {c : Char} (h : c.isDigit = true) : isWordChar c = true := by
  have hrange := Number.toNat_of_isDigit h
  have hnumeric : Text.isNumeric c = true := by
    rw [Text.isNumeric, Text.numericRanges, Text.Ranges.has]
    simp [hrange]
  simp [isWordChar, Text.isAlphanumeric, hnumeric]

private theorem not_isDigit_of_isWordStart {c : Char} (h : isWordStart c = true) : c.isDigit = false := by
  cases hd : c.isDigit with
  | false => rfl
  | true =>
    have hrange := Number.toNat_of_isDigit hd
    have hletter : Text.isAlphabetic c = false := by
      have hbelow : decide (0x41 ≤ c.toNat) = false := decide_eq_false (by omega)
      rw [Text.isAlphabetic, Text.alphabeticRanges, Text.Ranges.has, hbelow, Bool.false_and]
    have hne : c ≠ '_' := by
      rintro rfl
      exact absurd hrange (by decide)
    simp [isWordStart, hletter, hne] at h

theorem isWordChar_of_isBlank {c : Char} (h : Text.isBlank c = true) : isWordChar c = false := by
  have hranges : ∀ range ∈ Text.blankRanges, ∀ n ∈ List.range' range.1 (range.2 + 1 - range.1),
      Text.alphabeticRanges.has n = false ∧ Text.numericRanges.has n = false ∧ n ≠ 0x5F ∧ n ≠ 0x2E := by
    decide +kernel
  obtain ⟨range, hmem, hfirst, hlast⟩ := Text.Ranges.exists_of_has h
  obtain ⟨halpha, hnumeric, hunderscore, hpoint⟩ := hranges range hmem c.toNat (by
    rw [List.mem_range'_1]
    omega)
  have hne : c ≠ '_' ∧ c ≠ '.' := by
    constructor <;> rintro rfl
    · exact hunderscore rfl
    · exact hpoint rfl
  simp [isWordChar, Text.isAlphanumeric, Text.isAlphabetic, Text.isNumeric, halpha, hnumeric, hne]

theorem isBlank_of_isWordChar {c : Char} (h : isWordChar c = true) : Text.isBlank c = false := by
  cases hblank : Text.isBlank c with
  | false => rfl
  | true => rw [← h, isWordChar_of_isBlank hblank]

theorem ends_of_isBlank {c : Char} (h : Text.isBlank c = true) : Ends c where
  not_wordChar := isWordChar_of_isBlank h
  ne_equals := by
    rintro rfl
    exact absurd h (by decide)
  ne_greater := by
    rintro rfl
    exact absurd h (by decide)
  ne_quote := by
    rintro rfl
    exact absurd h (by decide)

theorem Ends.not_digit {c : Char} (h : Ends c) : c.isDigit = false := by
  cases hd : c.isDigit with
  | false => rfl
  | true => rw [← h.not_wordChar, isWordChar_of_isDigit hd]

theorem Ends.not_alphabetic {c : Char} (h : Ends c) : Text.isAlphabetic c = false :=
  isAlphabetic_of_not_isWordChar h.not_wordChar

private theorem Ends.ne_point {c : Char} (h : Ends c) : c ≠ '.' := by
  rintro rfl
  exact absurd h.not_wordChar (by simp [isWordChar])

section Append

variable {p : Char → Bool} {s b : List Char}

theorem takeWhile_append_of_head (h : ∀ c ∈ b.head?, p c = false) :
    (s ++ b).takeWhile p = s.takeWhile p := by
  induction s with
  | nil =>
    cases b with
    | nil => rfl
    | cons c b => simp [h c rfl]
  | cons c s ih => simp only [List.cons_append, List.takeWhile_cons, ih]

theorem dropWhile_append_of_head (h : ∀ c ∈ b.head?, p c = false) :
    (s ++ b).dropWhile p = s.dropWhile p ++ b := by
  induction s with
  | nil =>
    cases b with
    | nil => rfl
    | cons c b => simp [h c rfl]
  | cons c s ih =>
    simp only [List.cons_append, List.dropWhile_cons, ih]
    split <;> rfl

theorem takeWhile_exact (hs : ∀ c ∈ s, p c = true) (h : ∀ c ∈ b.head?, p c = false) :
    (s ++ b).takeWhile p = s := by
  rw [takeWhile_append_of_head h, List.takeWhile_eq_self_iff.mpr hs]

theorem dropWhile_exact (hs : ∀ c ∈ s, p c = true) (h : ∀ c ∈ b.head?, p c = false) :
    (s ++ b).dropWhile p = b := by
  rw [dropWhile_append_of_head h, List.dropWhile_eq_nil_iff.mpr hs, List.nil_append]

theorem not_of_mem_head?_dropWhile {c : Char} (h : c ∈ (s.dropWhile p).head?) : p c = false := by
  have hhead := List.head?_dropWhile_not p s
  rwa [Option.mem_def.mp h] at hhead

theorem dropWhile_append_of_ne_nil (h : s.dropWhile p ≠ []) :
    (s ++ b).dropWhile p = s.dropWhile p ++ b := by
  rw [List.dropWhile_append, if_neg (by simpa using h)]

private theorem takeWhile_append_of_dropWhile_ne_nil (h : s.dropWhile p ≠ []) :
    (s ++ b).takeWhile p = s.takeWhile p := by
  induction s with
  | nil => exact absurd rfl h
  | cons c s ih =>
    cases hc : p c with
    | false => simp [hc]
    | true =>
      rw [List.dropWhile_cons_of_pos hc] at h
      simp [hc, ih h]

theorem afterLess_other {c : Char} (h₁ : c ≠ '=') (h₂ : c ≠ '>') :
    afterLess (c :: s) = (.ok (.operator .lt), c :: s) := by
  simp [afterLess, h₁, h₂]

theorem afterGreater_other {c : Char} (h : c ≠ '=') :
    afterGreater (c :: s) = (.ok (.operator .gt), c :: s) := by
  simp [afterGreater, h]

private theorem stringBody?_quote_other {c : Char} (h : c ≠ '\'') :
    stringBody? ('\'' :: c :: s) = some ([], c :: s) := by
  simp [stringBody?, h]

theorem stringBody?_other {c : Char} (h : c ≠ '\'') :
    stringBody? (c :: s) = (stringBody? s).map fun (content, rest) => (c :: content, rest) := by
  simp [stringBody?, h]

variable {t : Token} {c : Char} {rest : List Char} (hb : ∀ c ∈ b.head?, Ends c)
include hb

private theorem afterLess_append (h : afterLess s = (.ok t, rest)) :
    afterLess (s ++ b) = (.ok t, rest ++ b) := by
  cases s with
  | nil =>
    cases h
    cases b with
    | nil => rfl
    | cons c b => exact afterLess_other (hb c rfl).ne_equals (hb c rfl).ne_greater
  | cons c s =>
    by_cases h₁ : c = '='
    · subst h₁
      cases h
      rfl
    by_cases h₂ : c = '>'
    · subst h₂
      cases h
      rfl
    · rw [afterLess_other h₁ h₂] at h
      cases h
      exact afterLess_other h₁ h₂

private theorem afterGreater_append (h : afterGreater s = (.ok t, rest)) :
    afterGreater (s ++ b) = (.ok t, rest ++ b) := by
  cases s with
  | nil =>
    cases h
    cases b with
    | nil => rfl
    | cons c b => exact afterGreater_other (hb c rfl).ne_equals
  | cons c s =>
    by_cases h₁ : c = '='
    · subst h₁
      cases h
      rfl
    · rw [afterGreater_other h₁] at h
      cases h
      exact afterGreater_other h₁

omit hb in
private theorem afterExclamation_append (h : afterExclamation s = (.ok t, rest)) :
    afterExclamation (s ++ b) = (.ok t, rest ++ b) := by
  unfold afterExclamation at h
  split at h
  · cases h
    rfl
  · cases h

private theorem stringBody?_append {content : List Char} (h : stringBody? s = some (content, rest)) :
    stringBody? (s ++ b) = some (content, rest ++ b) := by
  induction s using stringBody?.induct generalizing content rest with
  | case1 => cases h
  | case2 s ih =>
    obtain ⟨⟨tail, rest'⟩, hs, heq⟩ := Option.map_eq_some_iff.mp h
    cases heq
    simp only [List.cons_append, stringBody?, ih hs]
    rfl
  | case3 s hne =>
    cases s with
    | nil =>
      cases h
      cases b with
      | nil => rfl
      | cons c b => exact stringBody?_quote_other (hb c rfl).ne_quote
    | cons c s =>
      have hc : c ≠ '\'' := fun hc => hne s (by rw [hc])
      rw [stringBody?_quote_other hc] at h
      cases h
      exact stringBody?_quote_other hc
  | case4 c s hne hq ih =>
    have hc : c ≠ '\'' := fun hc => hq hc
    rw [stringBody?_other hc] at h
    obtain ⟨⟨tail, rest'⟩, hs, heq⟩ := Option.map_eq_some_iff.mp h
    cases heq
    rw [List.cons_append, stringBody?_other hc, ih hs]
    rfl

private theorem string_append (h : string s = (.ok t, rest)) : string (s ++ b) = (.ok t, rest ++ b) := by
  unfold string at h ⊢
  cases hs : stringBody? s with
  | none =>
    rw [hs] at h
    cases h
  | some body =>
    rw [hs] at h
    cases h
    rw [stringBody?_append hb hs]

omit hb in
private theorem quotedIdentifier_append (h : quotedIdentifier s = (.ok t, rest)) :
    quotedIdentifier (s ++ b) = (.ok t, rest ++ b) := by
  unfold quotedIdentifier at h ⊢
  cases hs : s.dropWhile (· ≠ '"') with
  | nil =>
    rw [hs] at h
    cases h
  | cons quote tail =>
    have hne : s.dropWhile (· ≠ '"') ≠ [] := by
      rw [hs]
      exact List.cons_ne_nil quote tail
    rw [hs] at h
    cases h
    rw [dropWhile_append_of_ne_nil hne, takeWhile_append_of_dropWhile_ne_nil hne, hs]
    rfl

private theorem places_append : places (s ++ b) = places s := by
  cases s with
  | nil =>
    cases b with
    | nil => rfl
    | cons c b =>
      have hc := (hb c rfl).ne_point
      simp [places, hc]
  | cons c s =>
    by_cases hc : c = '.'
    · subst hc
      simp only [List.cons_append, places, takeWhile_append_of_head fun c h => (hb c h).not_digit]
    · simp [places, hc]

omit hb in
theorem isPrefix_places : places s <+: s := by
  unfold places
  split
  · split
    · exact List.nil_prefix
    · exact List.cons_prefix_cons.mpr ⟨rfl, List.takeWhile_prefix _⟩
  · exact List.nil_prefix

theorem number_append : number c (s ++ b) = ((number c s).1, (number c s).2 ++ b) := by
  have hdigit : ∀ c ∈ b.head?, c.isDigit = false := fun c hc => (hb c hc).not_digit
  have hdrop : (s.dropWhile Char.isDigit ++ b).drop (places (s.dropWhile Char.isDigit)).length =
      (s.dropWhile Char.isDigit).drop (places (s.dropWhile Char.isDigit)).length ++ b :=
    List.drop_append_of_le_length isPrefix_places.length_le
  unfold number
  simp only [takeWhile_append_of_head hdigit, dropWhile_append_of_head hdigit, places_append hb, hdrop]
  split <;> rfl

theorem startsNumber_append : startsNumber c (s ++ b) = startsNumber c s := by
  cases s with
  | nil =>
    cases b with
    | nil => rfl
    | cons c' b => simp [startsNumber, (hb c' rfl).not_digit]
  | cons c' s => rfl

private theorem afterBy?_append (h : s.dropWhile Text.isBlank ≠ []) :
    afterBy? (s ++ b) = (afterBy? s).map (· ++ b) := by
  have halpha : ∀ c ∈ b.head?, Text.isAlphabetic c = false := fun c hc => (hb c hc).not_alphabetic
  simp only [afterBy?, dropWhile_append_of_ne_nil h, takeWhile_append_of_head halpha,
    dropWhile_append_of_head halpha]
  split <;> rfl

omit hb in
theorem afterBy?_of_blank (h : s.dropWhile Text.isBlank = []) : afterBy? s = none := by
  rw [afterBy?, h]
  rfl

omit hb in
theorem wordToken_order {w : List Char} (h : Text.upper w = ['O', 'R', 'D', 'E', 'R']) :
    wordToken w = .identifier (String.ofList w) := by
  rw [wordToken, h]
  rfl

omit hb in
private theorem eq_of_wordToken {w : List Char} {name : String} (h : wordToken w = .identifier name) :
    name = String.ofList w := by
  unfold wordToken at h
  split at h
  · cases h
  · cases h
  · cases h
  · split at h
    · cases h
    · exact (Token.identifier.inj h).symm

/-- Whether the look-ahead behind a word that may begin `ORDER BY` comes to the end of the text. -/
def AwaitsBy (t : Token) (rest : List Char) : Prop :=
  rest.dropWhile Text.isBlank = [] ∧
    ∃ name, t = .identifier name ∧ Text.upper name.toList = ['O', 'R', 'D', 'E', 'R']

theorem word_append_of_not_awaitsBy (h : word c s = (.ok t, rest)) (hby : ¬ AwaitsBy t rest) :
    word c (s ++ b) = (.ok t, rest ++ b) := by
  have hword : ∀ c ∈ b.head?, isWordChar c = false := fun c hc => (hb c hc).not_wordChar
  unfold word at h ⊢
  simp only [takeWhile_append_of_head hword, dropWhile_append_of_head hword] at h ⊢
  generalize c :: s.takeWhile isWordChar = w at h ⊢
  generalize s.dropWhile isWordChar = tail at h ⊢
  by_cases horder : Text.upper w = ['O', 'R', 'D', 'E', 'R']
  · rw [if_pos horder] at h ⊢
    have hblank : tail.dropWhile Text.isBlank ≠ [] := by
      intro hblank
      rw [afterBy?_of_blank hblank, wordToken_order horder] at h
      cases h
      exact hby ⟨hblank, _, rfl, by rw [String.toList_ofList, horder]⟩
    rw [afterBy?_append hb hblank]
    cases hafter : afterBy? tail with
    | none =>
      rw [hafter] at h
      cases h
      rfl
    | some tail' =>
      rw [hafter] at h
      cases h
      rfl
  · rw [if_neg horder] at h ⊢
    cases h
    rfl

/-- Only here does the look-ahead leave the text. -/
theorem word_append_of_awaitsBy (h : word c s = (.ok t, rest)) (hby : AwaitsBy t rest) :
    word c (s ++ b) =
      match afterBy? b with
      | some rest => (.ok (.keyword .orderBy), rest)
      | none => (.ok t, rest ++ b) := by
  have hword : ∀ c ∈ b.head?, isWordChar c = false := fun c hc => (hb c hc).not_wordChar
  obtain ⟨hblank, name, rfl, horder⟩ := hby
  unfold word at h ⊢
  simp only [takeWhile_append_of_head hword, dropWhile_append_of_head hword] at h ⊢
  generalize c :: s.takeWhile isWordChar = w at h ⊢
  generalize s.dropWhile isWordChar = tail at h ⊢
  split at h
  · cases h
  obtain ⟨htoken, rfl⟩ := Prod.mk.inj h
  obtain rfl := eq_of_wordToken (Except.ok.inj htoken)
  rw [String.toList_ofList] at horder
  have hskip : afterBy? (tail ++ b) = afterBy? b := by
    rw [afterBy?, afterBy?, List.dropWhile_append_of_pos (List.dropWhile_eq_nil_iff.mp hblank)]
  rw [if_pos horder, hskip]
  cases afterBy? b with
  | some rest => rfl
  | none => exact Prod.ext (congrArg Except.ok (wordToken_order horder)) rfl

omit hb in
theorem token_of_isWordStart (hc : isWordStart c = true) : token c s = word c s := by
  have hmark : mark? c = none := by
    unfold mark?
    split
    all_goals first | rfl | exact absurd hc (by decide)
  have hother : c ≠ '<' ∧ c ≠ '>' ∧ c ≠ '!' ∧ c ≠ '\'' ∧ c ≠ '"' ∧ c ≠ '-' ∧ c ≠ '+' := by
    refine ⟨?_, ?_, ?_, ?_, ?_, ?_, ?_⟩ <;> rintro rfl <;> revert hc <;> decide
  have hdigit : c.isDigit = false := not_isDigit_of_isWordStart hc
  simp [token, hmark, hother, startsNumber, hdigit, hc]

/-- A token that is no word is read as it is without the text behind. -/
theorem token_append_of_word (h : token c s = (.ok t, rest))
    (hword : isWordStart c = true → word c s = (.ok t, rest) → word c (s ++ b) = (.ok t, rest ++ b)) :
    token c (s ++ b) = (.ok t, rest ++ b) := by
  cases hstart : isWordStart c with
  | true =>
    rw [token_of_isWordStart hstart] at h ⊢
    exact hword hstart h
  | false =>
    unfold token at h ⊢
    cases hmark : mark? c with
    | some mark =>
      rw [hmark] at h
      cases h
      rfl
    | none =>
      rw [hmark] at h
      simp only [startsNumber_append hb, hstart, Bool.false_eq_true, if_false] at h ⊢
      split_ifs at h ⊢
      · exact afterLess_append hb h
      · exact afterGreater_append hb h
      · exact afterExclamation_append h
      · exact string_append hb h
      · exact quotedIdentifier_append h
      · rw [number_append hb, h]
      · cases h

theorem token_append (h : token c s = (.ok t, rest)) (hby : AwaitsBy t rest → afterBy? b = none) :
    token c (s ++ b) = (.ok t, rest ++ b) := by
  refine token_append_of_word hb h fun hstart hword => ?_
  by_cases hawaits : AwaitsBy t rest
  · rw [word_append_of_awaitsBy hb hword hawaits, hby hawaits]
  · exact word_append_of_not_awaitsBy hb hword hawaits

end Append

private theorem number_ne_eof {c : Char} {s : List Char} : (number c s).1 ≠ .ok .eof := by
  intro h
  unfold number at h
  simp only at h
  split at h
  · rename_i t htoken
    cases h
    split at htoken
    · obtain ⟨n, -, hn⟩ := Option.map_eq_some_iff.mp htoken
      cases hn
    · obtain ⟨x, -, hx⟩ := Option.map_eq_some_iff.mp htoken
      cases hx
  · cases h

def isWordOrMark : Token → Bool
  | .integer _ => false
  | .float _ => false
  | .eof => false
  | _ => true

private theorem isWordOrMark_wordToken {w : List Char} : isWordOrMark (wordToken w) = true := by
  unfold wordToken
  split
  · rfl
  · rfl
  · rfl
  · split <;> rfl

private theorem isWordOrMark_word {c : Char} {s rest : List Char} {t : Token} (h : word c s = (.ok t, rest)) :
    isWordOrMark t = true := by
  unfold word at h
  simp only at h
  split at h
  · cases h
    rfl
  · cases h
    exact isWordOrMark_wordToken

/-- A token is a number that has been read as one, or it is neither a number nor the end. -/
theorem number_or_isWordOrMark {c : Char} {s rest : List Char} {t : Token} (h : token c s = (.ok t, rest)) :
    (startsNumber c s = true ∧ number c s = (.ok t, rest)) ∨ isWordOrMark t = true := by
  unfold token at h
  split at h
  · rename_i mark hmark
    right
    unfold mark? at hmark
    split at hmark <;> cases hmark <;> cases h <;> rfl
  split_ifs at h
  · right
    unfold afterLess at h
    split at h <;> cases h <;> rfl
  · right
    unfold afterGreater at h
    split at h <;> cases h <;> rfl
  · right
    unfold afterExclamation at h
    split at h <;> cases h
    rfl
  · right
    unfold string at h
    split at h <;> cases h
    rfl
  · right
    unfold quotedIdentifier at h
    split at h <;> cases h
    rfl
  · exact .inl ⟨‹_›, h⟩
  · exact .inr (isWordOrMark_word h)
  · cases h

theorem token_ne_eof {c : Char} {s : List Char} : (token c s).1 ≠ .ok .eof := by
  intro h
  have htoken : token c s = (.ok .eof, (token c s).2) := by rw [← h]
  rcases number_or_isWordOrMark htoken with ⟨-, hnumber⟩ | hother
  · exact number_ne_eof (congrArg Prod.fst hnumber)
  · cases hother

/-- A digit or a sign is neither a mark nor a quote, so what starts with a number is read as one. -/
theorem next_of_startsNumber {c : Char} {s : List Char} (h : startsNumber c s = true) :
    next (c :: s) = number c s := by
  have hc : c.isDigit = true ∨ c = '-' ∨ c = '+' := by
    simp only [startsNumber, Bool.or_eq_true, Bool.and_eq_true, decide_eq_true_eq] at h
    exact h.imp_right And.left
  have hblank : Text.isBlank c = false := by
    obtain hdigit | rfl | rfl := hc
    · exact Number.isBlank_of_isDigit hdigit
    · decide
    · decide
  have hmark : mark? c = none := by
    unfold mark?
    split
    all_goals first | rfl | exact absurd hc (by decide)
  have hother : c ≠ '<' ∧ c ≠ '>' ∧ c ≠ '!' ∧ c ≠ '\'' ∧ c ≠ '"' := by
    refine ⟨?_, ?_, ?_, ?_, ?_⟩ <;> rintro rfl <;> revert hc <;> decide
  rw [next, List.dropWhile_cons_of_neg (by simp [hblank])]
  simp [token, hmark, hother, h]

theorem number_of_digits {c : Char} {s : List Char} (hs : ∀ d ∈ s, d.isDigit = true) :
    number c s =
      match Number.IntWidth.w64.ofText? (c :: s) with
      | some n => (.ok (.integer (Int64.ofInt n)), [])
      | none => (.error (.invalidNumber (String.ofList (c :: s))), []) := by
  have htake : s.takeWhile Char.isDigit = s := List.takeWhile_eq_self_iff.mpr hs
  have hdrop : s.dropWhile Char.isDigit = [] := List.dropWhile_eq_nil_iff.mpr hs
  have hplaces : places [] = [] := rfl
  unfold number
  simp only [htake, hdrop, hplaces, List.append_nil, if_true]
  cases Number.IntWidth.w64.ofText? (c :: s) <;> rfl

theorem next_of_blank {s : List Char} (h : s.dropWhile Text.isBlank = []) : next s = (.ok .eof, []) := by
  rw [next, h]

theorem blank_of_next_eof {s rest : List Char} (h : next s = (.ok .eof, rest)) :
    s.dropWhile Text.isBlank = [] := by
  unfold next at h
  cases hs : s.dropWhile Text.isBlank with
  | nil => rfl
  | cons c tail =>
    rw [hs] at h
    exact absurd (congrArg Prod.fst h) token_ne_eof

end Query.Lexer

end Xbase
