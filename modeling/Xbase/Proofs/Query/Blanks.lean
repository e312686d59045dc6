import Xbase.Proofs.Query.Spelling
/-!
# Blanks between tokens

Blanks end every token, so a text with blanks behind it has its own tokens and then those of what follows. Only a
word `ORDER` looks beyond the blanks, and it does not matter to it either how many there are and of which kind.
-/
namespace Xbase.Query

open Lexer

variable {a b b' s w w' rest : List Char} {c : Char} {t : Token} {tokens : List Token} {fault : LexFault}

structure IsGap (w : List Char) : Prop where
  ne_nil : w ≠ []
  isBlank : ∀ c ∈ w, Text.isBlank c = true

namespace IsGap

private theorem dropWhile (h : IsGap w) : w.dropWhile Text.isBlank = [] := List.dropWhile_eq_nil_iff.mpr h.isBlank

private theorem dropWhile_append (h : IsGap w) : (w ++ b).dropWhile Text.isBlank = b.dropWhile Text.isBlank :=
  List.dropWhile_append_of_pos h.isBlank

private theorem ends (h : IsGap w) : ∀ c ∈ (w ++ b).head?, Ends c := by
  cases w with
  | nil => exact absurd rfl h.ne_nil
  | cons c w =>
    rintro c' ⟨⟩
    exact ends_of_isBlank (h.isBlank c (.head w))

private theorem afterBy?_append (h : IsGap w) : afterBy? (w ++ b) = afterBy? b := by
  rw [afterBy?, afterBy?, h.dropWhile_append]

theorem next_append (h : IsGap w) : next (w ++ b) = next b := next_blank_append h.dropWhile

theorem tokenize_append (h : IsGap w) : tokenize (w ++ b) = tokenize b := tokenize_of_next_eq h.next_append

private theorem separates (h : IsGap w) {last : Option Token}
    (horder : ∀ name, last = some (.identifier name) → Text.upper name.toList ≠ ['O', 'R', 'D', 'E', 'R']) :
    Separates last (w ++ b) where
  ends := h.ends
  not_by name hname hupper := absurd hupper (horder name hname)

private theorem ends_self (h : IsGap w) : ∀ c ∈ w.head?, Ends c := by
  have hends := h.ends (b := [])
  rwa [List.append_nil] at hends

private theorem separates_end (h : IsGap w) {last : Option Token} : Separates last w where
  ends := h.ends_self
  not_by _ _ _ := afterBy?_of_blank h.dropWhile

private theorem notMem (h : IsGap w) {c : Char} (hc : Text.isBlank c = false) : c ∉ w := by
  intro hmem
  rw [h.isBlank c hmem] at hc
  cases hc

end IsGap

section Congr

variable (hb : ∀ c ∈ b.head?, Ends c) (hb' : ∀ c ∈ b'.head?, Ends c) (hby : afterBy? b = afterBy? b')
include hb hb' hby

private theorem token_append_cases (h : token c s = (.ok t, rest)) :
    (token c (s ++ b) = (.ok t, rest ++ b) ∧ token c (s ++ b') = (.ok t, rest ++ b')) ∨
      token c (s ++ b) = token c (s ++ b') := by
  -- Only a word `ORDER` with nothing but blanks behind it looks beyond the text.
  by_cases hawaits : isWordStart c = true ∧ AwaitsBy t rest
  · obtain ⟨hstart, hawaits⟩ := hawaits
    rw [token_of_isWordStart hstart] at h
    rw [token_of_isWordStart hstart, token_of_isWordStart hstart, word_append_of_awaitsBy hb h hawaits,
      word_append_of_awaitsBy hb' h hawaits, hby]
    cases afterBy? b' with
    | none => exact .inl ⟨rfl, rfl⟩
    | some rest' => exact .inr rfl
  · have hstays (hstart : isWordStart c = true) : ¬ AwaitsBy t rest := fun h => hawaits ⟨hstart, h⟩
    left
    constructor
    · exact token_append_of_word hb h fun hstart hword => word_append_of_not_awaitsBy hb hword (hstays hstart)
    · exact token_append_of_word hb' h fun hstart hword => word_append_of_not_awaitsBy hb' hword (hstays hstart)

private theorem next_append_cases (h : next s = (.ok t, rest)) (ht : t ≠ .eof) :
    (next (s ++ b) = (.ok t, rest ++ b) ∧ next (s ++ b') = (.ok t, rest ++ b')) ∨
      next (s ++ b) = next (s ++ b') := by
  unfold next at h ⊢
  cases hs : s.dropWhile Text.isBlank with
  | nil =>
    rw [hs] at h
    cases h
    exact absurd rfl ht
  | cons c tail =>
    rw [hs] at h
    have hne : s.dropWhile Text.isBlank ≠ [] := by simp [hs]
    rw [dropWhile_append_of_ne_nil hne, dropWhile_append_of_ne_nil hne, hs]
    exact token_append_cases hb hb' hby h

private theorem tokenize_append_congr (h : Spells s tokens) (hnext : next b = next b') :
    tokenize (s ++ b) = tokenize (s ++ b') := by
  induction s using tokenize.induct generalizing tokens with
  | case1 s fault rest hs =>
    rw [Spells, tokenize_eq, hs] at h
    cases h
  | case2 s rest hs =>
    have hblank := blank_of_next_eof hs
    apply tokenize_of_next_eq
    rw [next_blank_append hblank, next_blank_append hblank, hnext]
  | case3 s t rest hs ht ih =>
    obtain ⟨more, -, hrest⟩ := h.exists_rest hs ht
    rcases next_append_cases hb hb' hby hs ht with ⟨hleft, hright⟩ | hsame
    · rw [tokenize_eq, hleft, tokenize_eq (s ++ b'), hright]
      simp only [ht, if_false, ih hrest]
    · exact tokenize_of_next_eq hsame

end Congr

private theorem stringBody?_of_notMem (h : '\'' ∉ s) : stringBody? s = none := by
  induction s with
  | nil => rfl
  | cons c s ih =>
    obtain ⟨hc, hs⟩ := not_or.mp (List.mem_cons.not.mp h)
    rw [stringBody?_other (Ne.symm hc), ih hs]
    rfl

private theorem stringBody?_append_eq_none (h : stringBody? s = none) (hb : '\'' ∉ b) :
    stringBody? (s ++ b) = none := by
  induction s using stringBody?.induct with
  | case1 => exact stringBody?_of_notMem hb
  | case2 s ih =>
    have hs : stringBody? s = none := Option.map_eq_none_iff.mp h
    simp only [List.cons_append, stringBody?, ih hs]
    rfl
  | case3 s hne =>
    rw [stringBody?.eq_3 s hne] at h
    cases h
  | case4 c s hne hq ih =>
    have hc : c ≠ '\'' := fun hc => hq hc
    rw [stringBody?_other hc] at h
    rw [List.cons_append, stringBody?_other hc, ih (Option.map_eq_none_iff.mp h)]
    rfl

section Faults

variable (hw : IsGap w)
include hw

private theorem afterExclamation_append_gap (h : afterExclamation s = (.error fault, rest)) :
    (afterExclamation (s ++ w)).1 = .error fault := by
  have hfault : fault = .unexpected '!' := by
    unfold afterExclamation at h
    split at h <;> cases h
    rfl
  have hother : ∀ tail, s ++ w ≠ '=' :: tail := by
    intro tail heq
    cases s with
    | nil =>
      have hmem : '=' ∈ w := by
        rw [← List.nil_append w, heq]
        exact .head tail
      exact hw.notMem (by decide) hmem
    | cons c s =>
      obtain ⟨rfl, -⟩ := List.cons.inj heq
      cases h
  rw [afterExclamation.eq_2 (s ++ w) hother, hfault]

private theorem string_append_gap (h : string s = (.error fault, rest)) : (string (s ++ w)).1 = .error fault := by
  unfold string at h ⊢
  cases hs : stringBody? s with
  | some body =>
    rw [hs] at h
    cases h
  | none =>
    rw [hs] at h
    cases h
    rw [stringBody?_append_eq_none hs (hw.notMem (by decide))]

private theorem quotedIdentifier_append_gap (h : quotedIdentifier s = (.error fault, rest)) :
    (quotedIdentifier (s ++ w)).1 = .error fault := by
  have hgap : w.dropWhile (· ≠ '"') = [] := by
    apply List.dropWhile_eq_nil_iff.mpr
    intro c hc
    have hne : c ≠ '"' := fun heq => hw.notMem (by decide) (heq ▸ hc)
    exact decide_eq_true hne
  unfold quotedIdentifier at h ⊢
  cases hs : s.dropWhile (· ≠ '"') with
  | cons quote tail =>
    rw [hs] at h
    cases h
  | nil =>
    rw [hs] at h
    cases h
    rw [List.dropWhile_append, hs, hgap]
    rfl

private theorem token_append_gap (h : token c s = (.error fault, rest)) : (token c (s ++ w)).1 = .error fault := by
  have hends := hw.ends_self
  unfold token at h ⊢
  cases hmark : mark? c with
  | some mark =>
    rw [hmark] at h
    cases h
  | none =>
    rw [hmark] at h
    simp only [startsNumber_append hends] at h ⊢
    split_ifs at h ⊢
    · unfold afterLess at h
      split at h <;> cases h
    · unfold afterGreater at h
      split at h <;> cases h
    · exact afterExclamation_append_gap hw h
    · exact string_append_gap hw h
    · exact quotedIdentifier_append_gap hw h
    · rw [number_append hends]
      exact congrArg Prod.fst h
    · unfold word at h
      simp only at h
      split at h <;> cases h
    · cases h
      rfl

private theorem next_append_gap (h : next s = (.error fault, rest)) : (next (s ++ w)).1 = .error fault := by
  unfold next at h ⊢
  cases hs : s.dropWhile Text.isBlank with
  | nil =>
    rw [hs] at h
    cases h
  | cons c tail =>
    rw [hs] at h
    have hne : s.dropWhile Text.isBlank ≠ [] := by simp [hs]
    rw [dropWhile_append_of_ne_nil hne, hs]
    exact token_append_gap hw h

private theorem tokenize_append_gap (s : List Char) : tokenize (s ++ w) = tokenize s := by
  induction s using tokenize.induct with
  | case1 s fault rest hnext =>
    have hfault := next_append_gap hw hnext
    rw [tokenize_eq, tokenize_eq s, hnext]
    rcases happend : next (s ++ w) with ⟨result, rest'⟩
    rw [happend] at hfault
    obtain rfl : result = .error fault := hfault
    rfl
  | case2 s rest hnext =>
    have hblank := blank_of_next_eof hnext
    apply tokenize_of_next_eq
    rw [next_blank_append hblank, next_of_blank hw.dropWhile, next_of_blank hblank]
  | case3 s t rest hnext ht ih =>
    have happend : next (s ++ w) = (.ok t, rest ++ w) :=
      next_append hnext ht hw.ends_self fun _ => hw.separates_end
    rw [tokenize_eq, happend, tokenize_eq s, hnext]
    simp only [ht, if_false, ih]

end Faults

/-- Where blanks separate two texts, the tokens are those of the one and then those of the other, or the fault of
the other; only an identifier `ORDER` at the end of the first looks further. How many blanks there are and of
which kind does not even matter then, and blanks around a text change nothing. -/
theorem tokenize_gap (hw : IsGap w) (a b : List Char) :
    (∀ tokens, Spells a tokens →
      (∀ name, tokens.getLast? = some (.identifier name) →
        Text.upper name.toList ≠ ['O', 'R', 'D', 'E', 'R']) →
      (∀ more, tokenize b = .ok more → tokenize (a ++ w ++ b) = .ok (tokens ++ more)) ∧
        ∀ fault, tokenize b = .error fault → tokenize (a ++ w ++ b) = .error fault) ∧
    (∀ tokens w', Spells a tokens → IsGap w' → tokenize (a ++ w' ++ b) = tokenize (a ++ w ++ b)) ∧
    tokenize (w ++ a) = tokenize a ∧ tokenize (a ++ w) = tokenize a := by
  refine ⟨?_, ?_, hw.tokenize_append, tokenize_append_gap hw a⟩
  · intro tokens ha horder
    have happend : tokenize (a ++ w ++ b) = (tokenize b).map (tokens ++ ·) := by
      rw [List.append_assoc, tokenize_append ha (hw.separates horder), hw.tokenize_append]
    constructor
    · intro more hmore
      rw [happend, hmore]
      rfl
    · intro fault hfault
      rw [happend, hfault]
      rfl
  · intro tokens w' ha hw'
    rw [List.append_assoc, List.append_assoc]
    apply tokenize_append_congr hw'.ends hw.ends _ ha
    · rw [hw'.next_append, hw.next_append]
    · rw [hw'.afterBy?_append, hw.afterBy?_append]

/-- Blanks keep the two signs of `<=` apart, and a line end before `BY` is as good as a space. -/
theorem tokenize_gap_operators :
    IsGap ['\t', ' '] ∧ Spells "x <".toList [.identifier "x", .operator .lt] ∧
      tokenize ("x <".toList ++ ['\t', ' '] ++ "= 1".toList) =
        .ok [.identifier "x", .operator .lt, .operator .eq, .integer 1, .eof] ∧
      Spells "t ORDER".toList [.identifier "t", .identifier "ORDER"] ∧
      tokenize ("t ORDER".toList ++ ['\n'] ++ "by".toList) =
        tokenize ("t ORDER".toList ++ ['\t', ' '] ++ "by".toList) := by
  have hgap : IsGap ['\t', ' '] := ⟨by simp, List.all_eq_true.mp (by decide)⟩
  have hline : IsGap ['\n'] := ⟨by simp, List.all_eq_true.mp (by decide)⟩
  have hless : Spells "x <".toList [.identifier "x", .operator .lt] := by decide +kernel
  have hequals : tokenize "= 1".toList = .ok [.operator .eq, .integer 1, .eof] := by decide +kernel
  have horder : Spells "t ORDER".toList [.identifier "t", .identifier "ORDER"] := by decide +kernel
  obtain ⟨hparts, -⟩ := tokenize_gap hgap "x <".toList "= 1".toList
  obtain ⟨-, hsame, -⟩ := tokenize_gap hgap "t ORDER".toList "by".toList
  exact ⟨hgap, hless, (hparts _ hless nofun).1 _ hequals, horder, hsame _ _ horder hline⟩

end Xbase.Query
