import Xbase.Proofs.Query.Lexing
/-!
# Texts and the tokens they spell

A text that spells tokens still spells them when something is written behind it, as long as that cannot
belong to its last token. So the tokens of a text can be found piece by piece.
-/
namespace Xbase.Query

open Lexer

/-- A text that the last of some tokens does not go on into. -/
structure Separates (last : Option Token) (b : List Char) : Prop where
  ends : ∀ c ∈ b.head?, Ends c
  not_by : ∀ name, last = some (.identifier name) →
    Text.upper name.toList = ['O', 'R', 'D', 'E', 'R'] → afterBy? b = none

def Spells (s : List Char) (tokens : List Token) : Prop := tokenize s = .ok (tokens ++ [.eof])

instance (s : List Char) (tokens : List Token) : Decidable (Spells s tokens) :=
  inferInstanceAs (Decidable (tokenize s = .ok (tokens ++ [.eof])))

variable {s b rest : List Char} {t : Token} {tokens more : List Token}

theorem next_append (h : next s = (.ok t, rest)) (ht : t ≠ .eof) (hends : ∀ c ∈ b.head?, Ends c)
    (hby : rest.dropWhile Text.isBlank = [] → Separates (some t) b) :
    next (s ++ b) = (.ok t, rest ++ b) := by
  unfold next at h ⊢
  cases hs : s.dropWhile Text.isBlank with
  | nil =>
    rw [hs] at h
    cases h
    exact absurd rfl ht
  | cons c tail =>
    rw [hs] at h
    have hne : s.dropWhile Text.isBlank ≠ [] := by simp [hs]
    rw [dropWhile_append_of_ne_nil hne, hs]
    refine token_append hends h ?_
    rintro ⟨hblank, name, rfl, horder⟩
    exact (hby hblank).not_by name rfl horder

theorem next_blank_append (h : s.dropWhile Text.isBlank = []) : next (s ++ b) = next b := by
  rw [next, next, List.dropWhile_append, h]
  rfl

theorem tokenize_of_next_eq {s' : List Char} (h : next s = next s') : tokenize s = tokenize s' := by
  rw [tokenize_eq s, tokenize_eq s', h]

theorem spells_of_blank (h : s.dropWhile Text.isBlank = []) : Spells s [] := by
  rw [Spells, tokenize_eq, next_of_blank h]
  rfl

theorem spells_nil : Spells [] [] := spells_of_blank rfl

theorem separates_nil {last : Option Token} : Separates last [] := ⟨nofun, fun _ _ _ => rfl⟩

theorem Separates.of_none {last : Option Token} (h : Separates last b) : Separates none b :=
  ⟨h.ends, nofun⟩

theorem separates_mark {last : Option Token} {c : Char} (hends : Ends c)
    (hblank : Text.isBlank c = false) : Separates last (c :: s) := by
  constructor
  · intro c' hc'
    cases hc'
    exact hends
  · intro _ _ _
    simp [afterBy?, hblank, hends.not_alphabetic, Text.upper]

theorem separates_space {last : Option Token} (h : ∀ name, last ≠ some (.identifier name)) :
    Separates last (' ' :: s) := by
  constructor
  · intro c hc
    cases hc
    decide
  · intro name hname
    exact absurd hname (h name)

theorem separates_space_of_ne {last : Option Token} {c : Char} (hblank : Text.isBlank c = false)
    (hby : Text.upper ((c :: s).takeWhile Text.isAlphabetic) ≠ ['B', 'Y']) :
    Separates last (' ' :: c :: s) := by
  constructor
  · intro c' hc'
    cases hc'
    decide
  · intro _ _ _
    have hspace : Text.isBlank ' ' = true := by decide
    rw [afterBy?, List.dropWhile_cons_of_pos hspace, List.dropWhile_cons_of_neg (by simp [hblank])]
    exact if_neg hby

theorem separates_space_mark {last : Option Token} {c : Char} (hblank : Text.isBlank c = false)
    (halpha : Text.isAlphabetic c = false) : Separates last (' ' :: c :: s) := by
  apply separates_space_of_ne hblank
  simp [halpha, Text.upper]

theorem separates_space_word {last : Option Token} {c : Char} {w : List Char}
    (hblank : Text.isBlank c = false) (hw : (c :: w).all Text.isAlphabetic = true)
    (hby : Text.upper (c :: w) ≠ ['B', 'Y']) : Separates last (' ' :: (c :: w ++ ' ' :: s)) := by
  have hspace : ∀ d ∈ (' ' :: s).head?, Text.isAlphabetic d = false := by
    intro d hd
    cases hd
    decide
  have htake : (c :: (w ++ ' ' :: s)).takeWhile Text.isAlphabetic = c :: w :=
    takeWhile_exact (List.all_eq_true.mp hw) hspace
  have hne : Text.upper ((c :: (w ++ ' ' :: s)).takeWhile Text.isAlphabetic) ≠ ['B', 'Y'] := by
    rwa [htake]
  exact separates_space_of_ne hblank hne

private theorem Spells.eq_nil_of_blank (h : Spells s tokens) (hs : s.dropWhile Text.isBlank = []) : tokens = [] := by
  rw [Spells, (spells_of_blank hs : tokenize s = _)] at h
  have hlength := congrArg List.length (Except.ok.inj h)
  simpa using hlength

theorem Spells.exists_rest (h : Spells s tokens) (hnext : next s = (.ok t, rest)) (ht : t ≠ .eof) :
    ∃ more, tokens = t :: more ∧ Spells rest more := by
  rw [Spells, tokenize_eq, hnext] at h
  simp only [ht, if_false] at h
  cases hrest : tokenize rest with
  | error fault =>
    rw [hrest] at h
    cases h
  | ok tail =>
    rw [hrest] at h
    cases tokens with
    | nil => exact absurd (List.cons.inj (Except.ok.inj h)).1 ht
    | cons t' tokens =>
      obtain ⟨rfl, rfl⟩ := List.cons.inj (Except.ok.inj h)
      exact ⟨tokens, rfl, hrest⟩

/-- The tokens of a text stay what they are when something that separates is written behind it. -/
theorem tokenize_append (h : Spells s tokens) (hb : Separates tokens.getLast? b) :
    tokenize (s ++ b) = (tokenize b).map (tokens ++ ·) := by
  induction s using tokenize.induct generalizing tokens with
  | case1 s fault rest hnext =>
    rw [Spells, tokenize_eq, hnext] at h
    cases h
  | case2 s rest hnext =>
    have hblank := blank_of_next_eof hnext
    rw [h.eq_nil_of_blank hblank, tokenize_of_next_eq (next_blank_append hblank)]
    cases tokenize b <;> rfl
  | case3 s t rest hnext ht ih =>
    obtain ⟨more, rfl, hspells⟩ := h.exists_rest hnext ht
    have hnext' : next (s ++ b) = (.ok t, rest ++ b) := by
      refine next_append hnext ht hb.ends fun hblank => ?_
      rwa [hspells.eq_nil_of_blank hblank] at hb
    have hseparates : Separates more.getLast? b := by
      cases more with
      | nil => exact hb.of_none
      | cons t' more => rwa [List.getLast?_cons_cons] at hb
    rw [tokenize_eq, hnext']
    simp only [ht, if_false]
    rw [ih hspells hseparates]
    cases tokenize b <;> rfl

theorem Spells.append (h : Spells s tokens) (hb : Separates tokens.getLast? b) (hmore : Spells b more) :
    Spells (s ++ b) (tokens ++ more) := by
  rw [Spells, tokenize_append h hb, (hmore : tokenize b = _)]
  simp [Except.map]

theorem spells_of_next (h : next s = (.ok t, [])) (ht : t ≠ .eof) : Spells s [t] := by
  have hnil : tokenize [] = .ok [.eof] := spells_nil
  rw [Spells, tokenize_eq, h]
  simp only [ht, if_false, hnil]
  rfl

theorem Spells.space (h : Spells s tokens) : Spells (' ' :: s) tokens := by
  have hnext : next (' ' :: s) = next s := next_blank_append (s := [' ']) (by decide)
  rwa [Spells, tokenize_of_next_eq hnext]

end Xbase.Query
