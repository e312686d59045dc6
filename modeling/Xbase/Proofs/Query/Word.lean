import Xbase.Proofs.Query.Lexing
import Xbase.Proofs.Text.UpperCase
/-!
# Words and keywords

A word of a query is a keyword or the name of a literal if its upper case is, and otherwise an identifier as it is
written. Letter case is that of all scripts, so a few letters beyond ASCII can stand in a keyword.
-/
namespace Xbase.Query

open Text (CaseVariant asciiCapitals)

/-- Every word with a meaning of its own, in capitals, with its token. -/
def reservedWords : List (String × Token) :=
  [("TRUE", .boolean true), ("FALSE", .boolean false), ("NULL", .null)] ++
    Keyword.all.map fun k => (k.text, .keyword k)

theorem Keyword.mem_all (k : Keyword) : k ∈ all := by cases k <;> decide

theorem Keyword.mem_reservedWords (k : Keyword) : (k.text, .keyword k) ∈ reservedWords :=
  List.mem_append_right _ (List.mem_map_of_mem k.mem_all)

private theorem reservedWords_ascii : ∀ p ∈ reservedWords, ∀ c ∈ p.1.toList, c.toNat < 0x80 := by
  have hall : ∀ p ∈ reservedWords, p.1.toList.all (·.toNat < 0x80) = true := by decide +kernel
  exact fun p hp => Text.ascii_of_all (hall p hp)

private theorem reservedWords_inj : ∀ p ∈ reservedWords, ∀ q ∈ reservedWords, p.1 = q.1 ↔ p.2 = q.2 := by decide +kernel

private theorem mem_reservedWords_cases {p : String × Token} (h : p ∈ reservedWords) :
    p = ("TRUE", .boolean true) ∨ p = ("FALSE", .boolean false) ∨ p = ("NULL", .null) ∨
      ∃ k : Keyword, p = (k.text, .keyword k) := by
  simp only [reservedWords, List.cons_append, List.nil_append, List.mem_cons, List.mem_map] at h
  obtain rfl | rfl | rfl | ⟨k, -, rfl⟩ := h
  · exact .inl rfl
  · exact .inr (.inl rfl)
  · exact .inr (.inr (.inl rfl))
  · exact .inr (.inr (.inr ⟨k, rfl⟩))

private theorem reservedWords_ne_identifier {p : String × Token} (h : p ∈ reservedWords) (name : String) :
    p.2 ≠ .identifier name := by
  rcases mem_reservedWords_cases h with rfl | rfl | rfl | ⟨k, rfl⟩ <;> nofun

variable {c : Char} {s w rest : List Char}

namespace Lexer

private theorem wordToken_cases (w : List Char) :
    (String.ofList (Text.upper w), wordToken w) ∈ reservedWords ∨
      ((∀ p ∈ reservedWords, p.1 ≠ String.ofList (Text.upper w)) ∧ wordToken w = .identifier (String.ofList w)) := by
  unfold wordToken
  generalize String.ofList (Text.upper w) = capitals
  split
  · left
    decide
  · left
    decide
  · left
    decide
  · rename_i htrue hfalse hnull
    cases hfind : Keyword.all.find? (·.text = capitals) with
    | some k =>
      left
      have hk := List.find?_some hfind
      obtain rfl : k.text = capitals := of_decide_eq_true hk
      exact k.mem_reservedWords
    | none =>
      right
      refine ⟨fun p hp => ?_, rfl⟩
      rcases mem_reservedWords_cases hp with rfl | rfl | rfl | ⟨k, rfl⟩
      · exact fun h => htrue h.symm
      · exact fun h => hfalse h.symm
      · exact fun h => hnull h.symm
      · exact fun h => List.find?_eq_none.mp hfind k k.mem_all (decide_eq_true h)

theorem wordToken_eq_iff {p : String × Token} (hp : p ∈ reservedWords) :
    wordToken w = p.2 ↔ CaseVariant w p.1.toList := by
  rw [← Text.upper_eq_iff (reservedWords_ascii p hp)]
  have hcapitals : Text.upper w = p.1.toList ↔ p.1 = String.ofList (Text.upper w) := by
    rw [eq_comm, ← String.toList_inj, String.toList_ofList]
  rw [hcapitals]
  rcases wordToken_cases w with hreserved | ⟨hnone, hidentifier⟩
  · rw [reservedWords_inj p hp _ hreserved, eq_comm]
  · rw [hidentifier]
    exact iff_of_false (fun h => reservedWords_ne_identifier hp _ h.symm) (hnone p hp)

private theorem wordToken_of_not_variant (h : ∀ p ∈ reservedWords, ¬ CaseVariant w p.1.toList) :
    wordToken w = .identifier (String.ofList w) := by
  rcases wordToken_cases w with hreserved | ⟨-, hidentifier⟩
  · exact absurd ((wordToken_eq_iff hreserved).mp rfl) (h _ hreserved)
  · exact hidentifier

/-- `ORDER` holds none of the letters that a character beyond ASCII can stand for. -/
theorem upper_eq_order_iff : Text.upper w = ['O', 'R', 'D', 'E', 'R'] ↔ w.map Char.toUpper = "ORDER".toList :=
  Text.upper_eq_iff_map_toUpper (Text.ascii_of_all (by decide)) (by decide)

theorem word_of_rest (hw : ∀ d ∈ w, isWordChar d = true) (hrest : ∀ d ∈ rest.head?, isWordChar d = false) :
    word c (w ++ rest) =
      (if Text.upper (c :: w) = ['O', 'R', 'D', 'E', 'R'] then afterBy? rest else none).elim
        (.ok (wordToken (c :: w)), rest) fun after => (.ok (.keyword .orderBy), after) := by
  simp only [word, takeWhile_exact hw hrest, dropWhile_exact hw hrest]
  cases if Text.upper (c :: w) = ['O', 'R', 'D', 'E', 'R'] then afterBy? rest else none <;> rfl

/-- A word other than `ORDER` is read up to its end, whatever follows. It is the token of a reserved word exactly if
it is a way to write that word's capitals, and an identifier of its own characters if it is one for none. If none
of its characters stands for letters of ASCII, the ways to write a word are those in another letter case. -/
theorem next_word (hs : s.dropWhile Text.isBlank = c :: (w ++ rest)) (hc : isWordStart c = true)
    (hw : ∀ d ∈ w, isWordChar d = true) (hrest : ∀ d ∈ rest.head?, isWordChar d = false)
    (horder : (c :: w).map Char.toUpper ≠ "ORDER".toList) :
    ∃ t, next s = (.ok t, rest) ∧
      (∀ p ∈ reservedWords, t = p.2 ↔ CaseVariant (c :: w) p.1.toList) ∧
      ((∀ p ∈ reservedWords, ¬ CaseVariant (c :: w) p.1.toList) → t = .identifier (String.ofList (c :: w))) ∧
      ((∀ d ∈ c :: w, ∀ p ∈ asciiCapitals, p.1 ≠ d) →
        ∀ p ∈ reservedWords, t = p.2 ↔ (c :: w).map Char.toUpper = p.1.toList) := by
  refine ⟨wordToken (c :: w), ?_, fun p hp => wordToken_eq_iff hp, wordToken_of_not_variant, ?_⟩
  · have hupper : Text.upper (c :: w) ≠ ['O', 'R', 'D', 'E', 'R'] := mt upper_eq_order_iff.mp horder
    rw [next, hs]
    change token c (w ++ rest) = _
    rw [token_of_isWordStart hc, word_of_rest hw hrest, if_neg hupper]
    rfl
  · intro hplain p hp
    rw [wordToken_eq_iff hp, Text.caseVariant_iff_map_toUpper (reservedWords_ascii p hp) hplain]

/-- A ligature of two letters stands for both in `CROSS`. -/
theorem next_word_sharpS :
    (∀ d ∈ "ro\u00DF".toList, isWordChar d = true) ∧
      "cro\u00DF".toList.map Char.toUpper ≠ "ORDER".toList ∧
      next "\tcro\u00DF JOIN".toList = (.ok (.keyword .cross), " JOIN".toList) := by
  have hw : ∀ d ∈ "ro\u00DF".toList, isWordChar d = true := List.all_eq_true.mp (by decide +kernel)
  have hrest : ∀ d ∈ " JOIN".toList.head?, isWordChar d = false := by
    rintro d ⟨⟩
    decide
  have horder : "cro\u00DF".toList.map Char.toUpper ≠ "ORDER".toList := by decide +kernel
  have hs : "\tcro\u00DF JOIN".toList.dropWhile Text.isBlank = 'c' :: ("ro\u00DF".toList ++ " JOIN".toList) := by
    decide +kernel
  obtain ⟨t, hnext, hreserved, -⟩ := next_word hs (by decide) hw hrest horder
  have hvariant : CaseVariant "cro\u00DF".toList Keyword.cross.text.toList :=
    (Text.upper_eq_iff (Text.ascii_of_all (by decide))).mp (by decide +kernel)
  obtain rfl := (hreserved _ Keyword.cross.mem_reservedWords).mpr hvariant
  exact ⟨hw, horder, hnext⟩

/-- A long s is no letter of ASCII in either case, and `SELECT` can be written with it. -/
theorem next_longS :
    isWordStart '\u017F' = true ∧ (∀ d ∈ "ELECT".toList, isWordChar d = true) ∧
      "\u017FELECT".toList.map Char.toUpper ≠ "ORDER".toList ∧
      "\u017FELECT".toList.map Char.toUpper ≠ Keyword.select.text.toList ∧
      next "\u017FELECT".toList = (.ok (.keyword .select), []) := by
  have hw : ∀ d ∈ "ELECT".toList, isWordChar d = true := List.all_eq_true.mp (by decide +kernel)
  exact ⟨by decide +kernel, hw, by decide +kernel⟩

end Lexer

end Xbase.Query
