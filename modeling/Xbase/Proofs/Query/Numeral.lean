import Xbase.Proofs.Query.Printing
/-!
# Numbers in a query

A number is read by its value, which does not tell with how many zeros in front it was written or with which
sign. Between quotes, it is read as it stands.
-/
namespace Xbase.Query

open Lexer

/-- A text that is read as one number, from its first character to its last. -/
inductive Numeral : List Char → Literal → Prop where
  | integer {c : Char} {s : List Char} {m : Int64} (h : token c s = (.ok (.integer m), [])) :
    Numeral (c :: s) (.integer m)
  | float {c : Char} {s : List Char} {x : Number.Binary64} (h : token c s = (.ok (.float x), [])) :
    Numeral (c :: s) (.float x)

namespace Numeral

variable {n : List Char} {l : Literal}

theorem exists_number (h : Numeral n l) :
    ∃ c s, n = c :: s ∧ startsNumber c s = true ∧ number c s = (.ok l.token, []) := by
  cases h with
  | integer h =>
    obtain ⟨hstart, hnumber⟩ := (number_or_isWordOrMark h).resolve_right nofun
    exact ⟨_, _, rfl, hstart, hnumber⟩
  | float h =>
    obtain ⟨hstart, hnumber⟩ := (number_or_isWordOrMark h).resolve_right nofun
    exact ⟨_, _, rfl, hstart, hnumber⟩

theorem spells (h : Numeral n l) : Spells n [l.token] := by
  obtain ⟨c, s, rfl, hstart, hnumber⟩ := h.exists_number
  apply spells_of_next
  · rw [next_of_startsNumber hstart, hnumber]
  · cases l <;> simp [Literal.token]

end Numeral

def IsNumeralChar (c : Char) : Prop := c.isDigit = true ∨ c = '-' ∨ c = '+' ∨ c = '.'

private theorem isNumeralChar_of_mem_places {s : List Char} {c : Char} (h : c ∈ places s) : IsNumeralChar c := by
  unfold places at h
  split at h
  · split at h
    · cases h
    · rcases List.mem_cons.mp h with rfl | hc
      · exact .inr (.inr (.inr rfl))
      · exact .inl (List.mem_takeWhile_imp hc)
  · cases h

private theorem dropWhile_eq_places_of_number {c : Char} {s : List Char} {t : Token}
    (h : number c s = (.ok t, [])) : s.dropWhile Char.isDigit = places (s.dropWhile Char.isDigit) := by
  have hdrop : (s.dropWhile Char.isDigit).drop (places (s.dropWhile Char.isDigit)).length = [] := by
    unfold number at h
    simp only at h
    split at h
    · exact (Prod.mk.inj h).2
    · cases h
  have happend := List.prefix_iff_eq_append.mp (isPrefix_places (s := s.dropWhile Char.isDigit))
  rw [hdrop, List.append_nil] at happend
  exact happend.symm

theorem Numeral.isNumeralChar {n : List Char} {l : Literal} (h : Numeral n l) :
    ∀ c ∈ n, IsNumeralChar c := by
  obtain ⟨c, s, rfl, hstart, hnumber⟩ := h.exists_number
  have hc : IsNumeralChar c := by
    simp only [startsNumber, Bool.or_eq_true, Bool.and_eq_true, decide_eq_true_eq] at hstart
    rcases hstart with hdigit | ⟨hminus | hplus, -⟩
    · exact .inl hdigit
    · exact .inr (.inl hminus)
    · exact .inr (.inr (.inl hplus))
  have hs : ∀ d ∈ s, IsNumeralChar d := by
    intro d hd
    rw [← List.takeWhile_append_dropWhile (p := Char.isDigit) (l := s), List.mem_append,
      dropWhile_eq_places_of_number hnumber] at hd
    rcases hd with hwhole | hplaces
    · exact .inl (List.mem_takeWhile_imp hwhole)
    · exact isNumeralChar_of_mem_places hplaces
  exact List.forall_mem_cons.mpr ⟨hc, hs⟩

theorem IsNumeralChar.toNat_lt {c : Char} (h : IsNumeralChar c) : c.toNat < 128 := by
  rcases h with hdigit | rfl | rfl | rfl
  · have hrange := Number.toNat_of_isDigit hdigit
    omega
  all_goals decide

private theorem IsNumeralChar.ne_quote {c : Char} (h : IsNumeralChar c) : c ≠ '\'' := by
  rintro rfl
  revert h
  unfold IsNumeralChar
  decide

private theorem doubleQuotes_of_notMem {s : List Char} (h : '\'' ∉ s) : doubleQuotes s = s := by
  induction s with
  | nil => rfl
  | cons c s ih =>
    have hc : c ≠ '\'' := fun hc => h (by simp [hc])
    have hs : '\'' ∉ s := fun hs => h (List.mem_cons_of_mem c hs)
    rw [doubleQuotes_cons, if_neg hc, ih hs]
    rfl

theorem Numeral.spells_quoted {n : List Char} {l : Literal} (h : Numeral n l) :
    Spells ('\'' :: (n ++ ['\''])) [.string (String.ofList n)] := by
  have hquote : '\'' ∉ n := fun hmem => (h.isNumeralChar _ hmem).ne_quote rfl
  have htext : (Literal.string (String.ofList n)).text.toList = '\'' :: (n ++ ['\'']) := by
    simp [Literal.text, doubleQuotes_of_notMem hquote]
  rw [← htext]
  exact spells_string _

theorem Numeral.exists_integer {n : List Char} {l : Literal} (h : Numeral n l)
    (hdigits : ∀ c ∈ n, c.isDigit = true) :
    ∃ m, l = .integer m ∧ m.toInt = Nat.ofDigitChars 10 n 0 := by
  obtain ⟨c, s, rfl, -, hnumber⟩ := h.exists_number
  have hs : ∀ d ∈ s, d.isDigit = true := fun d hd => hdigits d (List.mem_cons_of_mem c hd)
  have hvalue : Number.intOfText? (c :: s) = some (Nat.ofDigitChars 10 (c :: s) 0 : Int) := by
    have hnat : Number.natOfText? (c :: s) = some (Nat.ofDigitChars 10 (c :: s) 0) :=
      if_pos ⟨List.cons_ne_nil c s, List.all_eq_true.mpr hdigits⟩
    rw [Number.intOfText?_of_splitSign (Number.splitSign_of_digits hdigits) hnat, if_neg Bool.false_ne_true]
  rw [number_of_digits hs] at hnumber
  cases hread : Number.IntWidth.w64.ofText? (c :: s) with
  | none =>
    rw [hread] at hnumber
    cases hnumber
  | some v =>
    rw [hread] at hnumber
    have htoken : Token.integer (Int64.ofInt v) = l.token := Except.ok.inj (congrArg Prod.fst hnumber)
    obtain ⟨hv, hholds⟩ := Option.filter_eq_some_iff.mp hread
    obtain ⟨hge, hlt⟩ := of_decide_eq_true hholds
    have hv' : v = (Nat.ofDigitChars 10 (c :: s) 0 : Int) := Option.some.inj (hv.symm.trans hvalue)
    refine ⟨Int64.ofInt v, ?_, ?_⟩
    · cases l <;> cases htoken
      rfl
    · rw [Int64.toInt_ofInt_of_le hge hlt, hv']

end Xbase.Query
