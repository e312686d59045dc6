import Xbase.Proofs.Query.Position
/-!
# Progress of the lexer

Tokens are asked for again and again, going on after faults. Each call goes forward in the text, unless it finds the
end or a character that starts no token, and then all later calls find the same. So the tokens of a text are there
after no more calls than it has characters, and one.
-/
namespace Xbase.Query

namespace Lexer

variable {text s rest : List Char} {c d : Char} {k m calls i j : Nat} {outcome : Except LexFault Token}

private theorem eq_exclamation_of_unexpected (h : (token c s).1 = .error (.unexpected d))
    (hle : (token c s).2.length ≤ s.length) : d = '!' := by
  unfold token at h hle
  split at h
  · cases h
  rename_i hmark
  simp only [hmark] at hle
  split_ifs at h hle
  · unfold afterLess at h
    split at h <;> cases h
  · unfold afterGreater at h
    split at h <;> cases h
  · unfold afterExclamation at h
    split at h <;> cases h
    rfl
  · unfold string at h
    split at h <;> cases h
  · unfold quotedIdentifier at h
    split at h <;> cases h
  · unfold number at h
    simp only at h
    split at h <;> cases h
  · unfold word at h
    simp only at h
    split at h <;> cases h
  · exact absurd hle (Nat.not_succ_le_self _)

/-- A call finds the end, goes forward, or stops before a character that starts no token. -/
theorem next_cases (s : List Char) :
    next s = (.ok .eof, []) ∨
      ((next s).1 ≠ .ok .eof ∧ (∀ c, (next s).1 = .error (.unexpected c) → c = '!') ∧
        (next s).2.length < s.length) ∨
      ∃ c rest, c ≠ '!' ∧ next s = (.error (.unexpected c), c :: rest) ∧ next (c :: rest) = next s := by
  cases hs : s.dropWhile Text.isBlank with
  | nil => exact .inl (next_of_blank hs)
  | cons c rest =>
    have hnext : next s = token c rest := by rw [next, hs]
    have hlength := (List.dropWhile_suffix Text.isBlank (l := s)).length_le
    rw [hs, List.length_cons] at hlength
    rw [hnext]
    rcases token_length_le_or_unexpected c rest with hle | ⟨hc, herror⟩
    · exact .inr (.inl ⟨token_ne_eof, fun d hd => eq_exclamation_of_unexpected hd hle, by omega⟩)
    · have hblank : Text.isBlank c = false := by
        apply not_of_mem_head?_dropWhile (s := s)
        rw [hs]
        rfl
      refine .inr (.inr ⟨c, rest, hc, herror, ?_⟩)
      rw [next, List.dropWhile_cons_of_neg (by simp [hblank])]

section Calls

variable (text : List Char)

def restAfter : Nat → List Char
  | 0 => text
  | k + 1 => (next (restAfter k)).2

/-- What a call returns if a number of calls came before it. -/
def call (k : Nat) : Except LexFault Token := (next (restAfter text k)).1

/-- The position that a number of calls reaches, if no character is asked for beyond the end. -/
def positionAfter? : Nat → Option Nat
  | 0 => some 0
  | k + 1 => do
    let i ← positionAfter? k
    let (_, j) ← Position.nextAt? text i
    return j

/-- Calls for tokens from a position on until the end or a fault is found, no more often than given. -/
def tokensWithin? : Nat → Nat → Option (Except LexFault (List Token))
  | 0, _ => none
  | calls + 1, i => do
    match ← Position.nextAt? text i with
    | (.error fault, _) => return .error fault
    | (.ok t, j) => if t = .eof then return .ok [t] else return (← tokensWithin? calls j).map (t :: ·)

end Calls

private theorem next_restAfter_of_fixed (h : next (restAfter text k) = (outcome, rest))
    (hfixed : next rest = (outcome, rest)) (hkm : k ≤ m) : next (restAfter text m) = (outcome, rest) := by
  induction hkm with
  | refl => exact h
  | step _ ih => rw [restAfter, ih, hfixed]

private theorem nextAt?_restAfter (h : Position.StandsAt text i (restAfter text k)) :
    ∃ j, Position.nextAt? text i = some (call text k, j) ∧ Position.StandsAt text j (restAfter text (k + 1)) :=
  Position.agrees_next h

private theorem positionAfter?_eq (text : List Char) (k : Nat) :
    ∃ i, positionAfter? text k = some i ∧ Position.StandsAt text i (restAfter text k) := by
  induction k with
  | zero => exact ⟨0, rfl, .zero text⟩
  | succ k ih =>
    obtain ⟨i, hi, hstands⟩ := ih
    obtain ⟨j, hj, hnext⟩ := nextAt?_restAfter hstands
    exact ⟨j, by rw [positionAfter?, hi, Option.bind_eq_bind, Option.bind_some, hj]; rfl, hnext⟩

private theorem call_of_fixed (h : next (restAfter text k) = (outcome, rest)) (hfixed : next rest = (outcome, rest))
    (hkm : k ≤ m) : call text m = outcome ∧ positionAfter? text (m + 1) = positionAfter? text (k + 1) := by
  have hthen := next_restAfter_of_fixed h hfixed hkm
  refine ⟨congrArg Prod.fst hthen, ?_⟩
  obtain ⟨i, hi, hnow⟩ := positionAfter?_eq text (k + 1)
  obtain ⟨j, hj, hlater⟩ := positionAfter?_eq text (m + 1)
  rw [restAfter, h] at hnow
  rw [restAfter, hthen] at hlater
  rw [hi, hj, hnow.unique hlater]

private theorem length_lt_of_next {t : Token} (h : next s = (.ok t, rest)) (ht : t ≠ .eof) :
    rest.length < s.length := by
  have hlt := next_length_lt (congrArg Prod.fst h) ht
  rwa [h] at hlt

private theorem tokensWithin?_eq (h : Position.StandsAt text i s) (hcalls : s.length < calls) :
    tokensWithin? text calls i = some (tokenize s) := by
  induction calls generalizing i s with
  | zero => omega
  | succ calls ih =>
    obtain ⟨j, hj, hrest⟩ := Position.agrees_next h
    rw [tokensWithin?, hj, tokenize_eq]
    obtain ⟨outcome, rest, hnext⟩ : ∃ outcome rest, next s = (outcome, rest) := ⟨_, _, rfl⟩
    rw [hnext] at hrest ⊢
    cases outcome with
    | error fault => rfl
    | ok t =>
      by_cases ht : t = .eof
      · simp [ht]
      · have hshorter := length_lt_of_next hnext ht
        have htail := ih (s := rest) hrest (by omega)
        simp [ht, htail]

private theorem length_tokenize_le {tokens : List Token} (h : tokenize s = .ok tokens) :
    tokens.length ≤ s.length + 1 := by
  induction s using tokenize.induct generalizing tokens with
  | case1 s fault rest hnext =>
    rw [tokenize_eq, hnext] at h
    cases h
  | case2 s rest hnext =>
    rw [tokenize_eq, hnext] at h
    cases h
    exact Nat.le_add_left 1 s.length
  | case3 s t rest hnext ht ih =>
    have hshorter := length_lt_of_next hnext ht
    rw [tokenize_eq, hnext] at h
    simp only [ht, if_false] at h
    cases hrest : tokenize rest with
    | error fault =>
      rw [hrest] at h
      cases h
    | ok tail =>
      rw [hrest] at h
      cases h
      have htail := ih hrest
      rw [List.length_cons]
      omega

/-- Tokens of a text are asked for any number of times, going on after faults. The position that is reached is in the
text or at its end, and no character is asked for beyond the end. A call finds the end, and so do all later ones; or
it goes forward, and then a character that it does not expect is a lone exclamation mark; or it returns another
character, at the position where it stops, and all later calls return it and stop there. From each position that is
reached, the tokens up to the end or a fault are there after no more calls than the text has characters, and one.
There are no more tokens than that, and the last of them and no other is the end. -/
theorem call_progress (text : List Char) (k : Nat) :
    ∃ i j, positionAfter? text k = some i ∧ i ≤ text.length ∧ restAfter text k = text.drop i ∧
      Position.nextAt? text i = some (call text k, j) ∧ positionAfter? text (k + 1) = some j ∧
      ((call text k = .ok .eof ∧ ∀ m, k ≤ m → call text m = .ok .eof) ∨
        (call text k ≠ .ok .eof ∧ (∀ c, call text k = .error (.unexpected c) → c = '!') ∧ i < j) ∨
        ∃ c, c ≠ '!' ∧ text[j]? = some c ∧
          ∀ m, k ≤ m → call text m = .error (.unexpected c) ∧ positionAfter? text (m + 1) = some j) ∧
      tokensWithin? text (text.length + 1) i = some (tokenize (restAfter text k)) ∧
      ∀ tokens, tokenize (restAfter text k) = .ok tokens →
        tokens.length ≤ text.length + 1 ∧ EndsOnce tokens := by
  obtain ⟨i, hi, hstands⟩ := positionAfter?_eq text k
  obtain ⟨j, hj, hnext⟩ := positionAfter?_eq text (k + 1)
  have hrest := hstands.add_length
  have hread : Position.nextAt? text i = some (call text k, j) := by
    obtain ⟨j', hread, hstands'⟩ := nextAt?_restAfter hstands
    rwa [hnext.unique hstands']
  refine ⟨i, j, hi, hstands.1, hstands.2.symm, hread, hj, ?_, tokensWithin?_eq hstands (by omega), fun tokens h =>
    ⟨(length_tokenize_le h).trans (by omega), endsOnce_of_tokenize h⟩⟩
  rcases next_cases (restAfter text k) with heof | ⟨hne, hexpected, hshorter⟩ | ⟨c, rest, hc, hstuck, hfixed⟩
  · exact .inl ⟨congrArg Prod.fst heof, fun m hkm => (call_of_fixed heof rfl hkm).1⟩
  · have hforward := hnext.add_length
    rw [restAfter] at hforward
    exact .inr (.inl ⟨hne, hexpected, by omega⟩)
  · refine .inr (.inr ⟨c, hc, ?_, fun m hkm => ?_⟩)
    · rw [hnext.getElem?, restAfter, hstuck]
      rfl
    · rw [← hj]
      exact call_of_fixed hstuck (hfixed.trans hstuck) hkm

/-- A lone exclamation mark is taken off, the character behind it is found for ever. -/
theorem call_progress_hash :
    call "A ! #".toList 1 = .error (.unexpected '!') ∧
      (∀ m, 2 ≤ m → call "A ! #".toList m = .error (.unexpected '#')) ∧
      tokensWithin? "A ! #".toList 6 0 = some (.error (.unexpected '!')) ∧
      ∃ i j, positionAfter? "A ! #".toList 1 = some i ∧ positionAfter? "A ! #".toList 2 = some j ∧ i < j := by
  have hmark : call "A ! #".toList 1 = .error (.unexpected '!') := by decide +kernel
  have hstart : tokenize "A ! #".toList = .error (.unexpected '!') := by decide +kernel
  refine ⟨hmark, ?_, ?_, ?_⟩
  · obtain ⟨i, j, -, -, -, -, -, heof | ⟨-, hexpected, -⟩ | ⟨c, hc, -, hlater⟩, -⟩ :=
      call_progress "A ! #".toList 2
    · exact absurd heof.1 (by decide +kernel)
    · exact absurd (hexpected '#' (by decide +kernel)) (by decide)
    · have hhash : call "A ! #".toList 2 = .error (.unexpected '#') := by decide +kernel
      obtain rfl : c = '#' := by
        have hnow := (hlater 2 (Nat.le_refl 2)).1.symm.trans hhash
        cases hnow
        rfl
      exact fun m hm => (hlater m hm).1
  · obtain ⟨i, j, hi, -, -, -, -, -, htokens, -⟩ := call_progress "A ! #".toList 0
    cases hi
    exact htokens.trans (congrArg some hstart)
  · obtain ⟨i, j, hi, -, -, -, hj, heof | ⟨-, -, hforward⟩ | ⟨c, hc, -, hlater⟩, -⟩ :=
      call_progress "A ! #".toList 1
    · exact absurd (heof.1.symm.trans hmark) nofun
    · exact ⟨i, j, hi, hj, hforward⟩
    · have hsame := (hlater 1 (Nat.le_refl 1)).1.symm.trans hmark
      cases hsame
      exact absurd rfl hc

end Lexer

end Xbase.Query
