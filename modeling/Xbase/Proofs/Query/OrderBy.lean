import Xbase.Proofs.Query.Word
/-!
# The keyword of two words

`ORDER` is a keyword only together with `BY`, which is looked for behind the blanks. Letters alone are looked at
there, though a word can go on with a digit, an underscore or a point behind them. So `BY` is found at the front
of a longer word, and the rest of that word is left to be read.
-/
namespace Xbase.Query.Lexer

variable {s w rest after : List Char}

theorem isAlphabetic_of_toUpper {c : Char} (h : c.toUpper.isUpper = true) : Text.isAlphabetic c = true := by
  have hall : ∀ n : Fin 128, (Char.ofNat n).toUpper.isUpper = true → Text.isAlphabetic (Char.ofNat n) = true := by
    decide +kernel
  have hlast : c.toUpper.toNat ≤ 'Z'.toNat :=
    UInt32.le_iff_toNat_le.mp (of_decide_eq_true h).2
  have hupper : c.toUpper.toNat < 0x80 := Nat.lt_of_le_of_lt hlast (by decide)
  have hascii : c.toNat < 128 := Text.toNat_of_toUpper hupper
  have hchar := hall ⟨c.toNat, hascii⟩
  rw [Char.ofNat_toNat] at hchar
  exact hchar h

theorem isAlphabetic_of_map_toUpper {capitals : List Char} (hcapitals : capitals.all Char.isUpper = true)
    (hw : w.map Char.toUpper = capitals) : ∀ c ∈ w, Text.isAlphabetic c = true := by
  intro c hc
  apply isAlphabetic_of_toUpper
  apply List.all_eq_true.mp hcapitals
  rw [← hw]
  exact List.mem_map_of_mem hc

/-- Whether the letters behind the blanks are `BY` in any letter case, up to what is left after them. -/
def FollowsBy (rest after : List Char) : Prop :=
  ∃ blanks letters, rest = blanks ++ (letters ++ after) ∧ (∀ c ∈ blanks, Text.isBlank c = true) ∧
    letters.map Char.toUpper = "BY".toList ∧ ∀ c ∈ after.head?, Text.isAlphabetic c = false

theorem upper_eq_by_iff : Text.upper w = ['B', 'Y'] ↔ w.map Char.toUpper = "BY".toList :=
  Text.upper_eq_iff_map_toUpper (Text.ascii_of_all (by decide)) (by decide)

theorem isWordChar_of_mem_by {letters : List Char} (h : letters.map Char.toUpper = "BY".toList) :
    ∀ c ∈ letters, isWordChar c = true :=
  fun c hc => isWordChar_of_isAlphabetic (isAlphabetic_of_map_toUpper (by decide) h c hc)

theorem dropWhile_blanks {blanks letters : List Char} (hblanks : ∀ c ∈ blanks, Text.isBlank c = true)
    (hletters : letters.map Char.toUpper = "BY".toList) :
    (blanks ++ (letters ++ after)).dropWhile Text.isBlank = letters ++ after := by
  apply dropWhile_exact hblanks
  intro c hc
  have hmem : c ∈ letters := by
    cases letters with
    | nil => cases hletters
    | cons b letters => exact List.mem_of_mem_head? hc
  exact isBlank_of_isWordChar (isWordChar_of_mem_by hletters c hmem)

theorem afterBy?_eq_some_iff : afterBy? rest = some after ↔ FollowsBy rest after := by
  constructor
  · intro h
    unfold afterBy? at h
    simp only at h
    split at h
    · rename_i hby
      obtain rfl := Option.some.inj h
      refine ⟨rest.takeWhile Text.isBlank, (rest.dropWhile Text.isBlank).takeWhile Text.isAlphabetic, ?_, ?_,
        upper_eq_by_iff.mp hby, fun c => not_of_mem_head?_dropWhile⟩
      · rw [List.takeWhile_append_dropWhile, List.takeWhile_append_dropWhile]
      · exact fun c => List.mem_takeWhile_imp
    · cases h
  · intro h
    obtain ⟨blanks, letters, rfl, hblanks, hletters, hafter⟩ := h
    have halpha := isAlphabetic_of_map_toUpper (by decide) hletters
    simp only [afterBy?, dropWhile_blanks hblanks hletters, takeWhile_exact halpha hafter,
      dropWhile_exact halpha hafter, if_pos (upper_eq_by_iff.mpr hletters)]

private theorem next_of_order (hs : s.dropWhile Text.isBlank = w ++ rest) (hw : w.map Char.toUpper = "ORDER".toList)
    (hrest : ∀ c ∈ rest.head?, isWordChar c = false) :
    next s =
      (afterBy? rest).elim (.ok (.identifier (String.ofList w)), rest) fun after =>
        (.ok (.keyword .orderBy), after) := by
  have halpha := isAlphabetic_of_map_toUpper (by decide) hw
  cases w with
  | nil => cases hw
  | cons c w =>
    have hc : isWordStart c = true := by simp [isWordStart, halpha c (.head _)]
    have hword : ∀ d ∈ w, isWordChar d = true := fun d hd => isWordChar_of_isAlphabetic (halpha d (.tail _ hd))
    have horder := upper_eq_order_iff.mpr hw
    rw [next, hs]
    change token c (w ++ rest) = _
    rw [token_of_isWordStart hc, word_of_rest hword hrest, if_pos horder, wordToken_order horder]

/-- What a text that goes on behind the word `w` is read as if two whole words are asked for: `BY` has to be all of
the word that stands behind the blanks. -/
def orderByWords (w rest : List Char) : Lexed :=
  let tail := rest.dropWhile Text.isBlank
  if (tail.takeWhile isWordChar).map Char.toUpper = "BY".toList then
    (.ok (.keyword .orderBy), tail.dropWhile isWordChar)
  else (.ok (.identifier (String.ofList w)), rest)

private theorem orderByWords_of_followsBy (h : FollowsBy rest after)
    (hafter : ∀ c ∈ after.head?, isWordChar c = false) :
    orderByWords w rest = (.ok (.keyword .orderBy), after) := by
  obtain ⟨blanks, letters, rfl, hblanks, hletters, -⟩ := h
  have hword := isWordChar_of_mem_by hletters
  simp only [orderByWords, dropWhile_blanks hblanks hletters, takeWhile_exact hword hafter,
    dropWhile_exact hword hafter, if_pos hletters]

private theorem orderByWords_of_isWordChar {c : Char} (h : FollowsBy rest (c :: after)) (hc : isWordChar c = true) :
    orderByWords w rest = (.ok (.identifier (String.ofList w)), rest) := by
  obtain ⟨blanks, letters, rfl, hblanks, hletters, -⟩ := h
  have hword := isWordChar_of_mem_by hletters
  rw [orderByWords, dropWhile_blanks hblanks hletters]
  apply if_neg
  intro hby
  rw [List.takeWhile_append_of_pos hword, List.takeWhile_cons_of_pos hc, List.map_append, hletters] at hby
  simp at hby

private theorem orderByWords_of_not_followsBy (h : ∀ after, ¬ FollowsBy rest after) :
    orderByWords w rest = (.ok (.identifier (String.ofList w)), rest) := by
  refine if_neg fun hby => ?_
  refine h ((rest.dropWhile Text.isBlank).dropWhile isWordChar) ⟨rest.takeWhile Text.isBlank, _, ?_,
    fun c => List.mem_takeWhile_imp, hby,
    fun c hc => isAlphabetic_of_not_isWordChar (not_of_mem_head?_dropWhile hc)⟩
  rw [List.takeWhile_append_dropWhile, List.takeWhile_append_dropWhile]

/-- Behind the word `ORDER` the letters `BY` make it the keyword, and reading goes on right behind them. Otherwise
it is an identifier as it is written, and what follows it is read as it would be on its own. Two whole words are
read in the same way, unless the word that begins with `BY` goes on with a digit, an underscore or a point. -/
theorem next_order (hs : s.dropWhile Text.isBlank = w ++ rest) (hw : w.map Char.toUpper = "ORDER".toList)
    (hrest : ∀ c ∈ rest.head?, isWordChar c = false) :
    (∀ after, next s = (.ok (.keyword .orderBy), after) ↔ FollowsBy rest after) ∧
      ((∀ after, ¬ FollowsBy rest after) →
        next s = (.ok (.identifier (String.ofList w)), rest) ∧
          tokenize s = (tokenize rest).map (.identifier (String.ofList w) :: ·)) ∧
      (next s = orderByWords w rest ↔ ¬ ∃ c after, FollowsBy rest (c :: after) ∧ isWordChar c = true) := by
  have hnext := next_of_order hs hw hrest
  cases hby : afterBy? rest with
  | some after =>
    rw [hby] at hnext
    have hfollows := afterBy?_eq_some_iff.mp hby
    refine ⟨fun other => ?_, fun h => absurd hfollows (h after), ?_⟩
    · rw [hnext, ← afterBy?_eq_some_iff, hby]
      simp
    · have honly {other : List Char} (h : FollowsBy rest other) : after = other :=
        Option.some.inj (hby.symm.trans (afterBy?_eq_some_iff.mpr h))
      by_cases hword : ∃ c ∈ after.head?, isWordChar c = true
      · obtain ⟨c, hc, hchar⟩ := hword
        obtain ⟨tail, rfl⟩ := List.head?_eq_some_iff.mp hc
        rw [hnext, orderByWords_of_isWordChar hfollows hchar]
        exact iff_of_false (by simp) fun h => h ⟨c, tail, hfollows, hchar⟩
      · rw [hnext, orderByWords_of_followsBy hfollows (by simpa using hword)]
        refine iff_of_true rfl fun h => ?_
        obtain ⟨c, tail, hother, hchar⟩ := h
        obtain rfl := honly hother
        exact hword ⟨c, rfl, hchar⟩
  | none =>
    rw [hby] at hnext
    have hnone (other : List Char) : ¬ FollowsBy rest other := by
      rw [← afterBy?_eq_some_iff, hby]
      exact nofun
    refine ⟨fun other => ?_, fun h => ⟨hnext, ?_⟩, ?_⟩
    · rw [hnext]
      exact iff_of_false nofun (hnone other)
    · rw [tokenize_eq, hnext]
      rfl
    · rw [hnext, orderByWords_of_not_followsBy hnone]
      exact iff_of_true rfl fun ⟨c, other, hfollows, _⟩ => hnone _ hfollows

/-- The two words in small letters, with a tab between them, are the keyword; with a mark between them they are
two words. -/
theorem next_order_tab :
    next " order\tby NAME".toList = (.ok (.keyword .orderBy), " NAME".toList) ∧
      next "Order;BY".toList = (.ok (.identifier "Order"), ";BY".toList) := by
  constructor
  · have hs : " order\tby NAME".toList.dropWhile Text.isBlank = "order".toList ++ "\tby NAME".toList := by
      decide +kernel
    have hrest : ∀ c ∈ "\tby NAME".toList.head?, isWordChar c = false := by
      rintro c ⟨⟩
      decide
    have hfollows : FollowsBy "\tby NAME".toList " NAME".toList :=
      afterBy?_eq_some_iff.mp (by decide +kernel)
    exact ((next_order hs (by decide) hrest).1 _).mpr hfollows
  · have hs : "Order;BY".toList.dropWhile Text.isBlank = "Order".toList ++ ";BY".toList := by decide +kernel
    have hrest : ∀ c ∈ ";BY".toList.head?, isWordChar c = false := by
      rintro c ⟨⟩
      decide
    have hnone (after : List Char) : ¬ FollowsBy ";BY".toList after := by
      have hread : afterBy? ";BY".toList = none := by decide +kernel
      rw [← afterBy?_eq_some_iff, hread]
      exact nofun
    exact ((next_order hs (by decide) hrest).2.1 hnone).1

/-- The word behind `ORDER` is none of two letters, and still the two are taken off its front. -/
theorem next_order_digit :
    " BY2".toList.dropWhile Text.isBlank = "BY2".toList ∧ "BY2".toList.all isWordChar = true ∧
      orderByWords "ORDER".toList " BY2".toList = (.ok (.identifier "ORDER"), " BY2".toList) ∧
      next "ORDER BY2".toList = (.ok (.keyword .orderBy), ['2']) := by
  decide +kernel

end Xbase.Query.Lexer
