import Xbase.Proofs.Charset.Utf8
/-!
# Character sets of single bytes

A character set of single bytes gives as many characters as there are bytes, and characters beyond ASCII for
the bytes beyond it. So the text of a field is the one in the declared character set, or both readings of the
field hold characters beyond ASCII.
-/
namespace Xbase.Charset

/-- A character set that reads each byte on its own: ASCII as it is, and every other byte as a character
beyond ASCII. -/
def IsSingleByte (charset : Charset) : Prop :=
  ∃ char : UInt8 → Char, (∀ bytes, charset.decode bytes = bytes.map char) ∧
    (∀ b, isAscii b = true → char b = asciiChar b) ∧ ∀ b, isAscii b = false → 0x80 ≤ (char b).toNat

/-- A character set that reads each byte on its own, and ASCII as it is. -/
def IsBytewise (charset : Charset) : Prop :=
  ∃ char : UInt8 → Char, (∀ bytes, charset.decode bytes = bytes.map char) ∧
    ∀ b, isAscii b = true → char b = asciiChar b

theorem IsSingleByte.isBytewise {charset : Charset} (h : charset.IsSingleByte) : charset.IsBytewise := by
  obtain ⟨char, hdecode, hascii, -⟩ := h
  exact ⟨char, hdecode, hascii⟩

theorem IsBytewise.length_decode {charset : Charset} (h : charset.IsBytewise) (bytes : List UInt8) :
    (charset.decode bytes).length = bytes.length := by
  obtain ⟨char, hdecode, -⟩ := h
  rw [hdecode, List.length_map]

theorem IsBytewise.readsAscii {charset : Charset} (h : charset.IsBytewise) : charset.ReadsAscii := by
  obtain ⟨char, hdecode, hascii⟩ := h
  intro bytes hbytes
  rw [hdecode]
  exact List.map_congr_left fun b hb => hascii b (hbytes b hb)

set_option maxRecDepth 2000 in
theorem CodePage.upperHalf_nonAscii (page : CodePage) : ∀ c ∈ page.upperHalf.toList, 0x80 ≤ c.toNat := by
  -- the characters are taken from the literal as such, so that no bytes are decoded in the proof
  have hchars : ∃ chars, page.upperHalf = String.ofList chars ∧
      chars.all (fun c => 0x80 ≤ c.toNat) = true := by
    cases page <;> exact ⟨_, rfl, by decide +kernel⟩
  obtain ⟨chars, hpage, hall⟩ := hchars
  intro c hc
  rw [hpage, String.toList_ofList] at hc
  exact of_decide_eq_true (List.all_eq_true.mp hall c hc)

theorem CodePage.symbol_nonAscii (page : CodePage) {b : UInt8} (h : isAscii b = false) :
    0x80 ≤ ((page.symbol b).getD replacementChar).toNat := by
  rw [symbol, if_neg (by simp [h])]
  cases hc : page.upperHalf.toList[b.toNat - 0x80]? with
  | none => decide
  | some c =>
    rw [Option.filter_some]
    split
    · exact page.upperHalf_nonAscii c (List.mem_of_getElem? hc)
    · decide

theorem isSingleByte_of_symbols {charset : Charset} {symbol : UInt8 → Symbol}
    (h : ∀ bytes, charset.symbols bytes = bytes.map symbol)
    (hascii : ∀ b, isAscii b = true → symbol b = some (asciiChar b))
    (hnonAscii : ∀ b, isAscii b = false → 0x80 ≤ ((symbol b).getD replacementChar).toNat) :
    charset.IsSingleByte := by
  refine ⟨fun b => (symbol b).getD replacementChar, fun bytes => ?_, fun b hb => ?_, hnonAscii⟩
  · rw [decode, h, symbolText, List.map_map]
    rfl
  · simp only [hascii b hb]
    rfl

theorem isSingleByte_page (page : CodePage) : (Charset.page page).IsSingleByte :=
  isSingleByte_of_symbols (fun _ => rfl) (fun _ => page.symbol_of_isAscii) fun _ => page.symbol_nonAscii

private theorem isSingleByte_logicalHebrew : Charset.logicalHebrew.IsSingleByte :=
  isSingleByte_of_symbols (fun _ => rfl) (fun _ => CodePage.symbol_of_isAscii _)
    fun _ => CodePage.symbol_nonAscii _

private theorem isSingleByte_userDefined : Charset.userDefined.IsSingleByte := by
  have hnonAscii : ∀ b : UInt8, isAscii b = false →
      0x80 ≤ ((userDefinedSymbol b).getD replacementChar).toNat :=
    forall_byte (by decide +kernel)
  refine isSingleByte_of_symbols (fun _ => rfl) (fun b hb => ?_) hnonAscii
  rw [userDefinedSymbol, if_pos hb]

def readsEachByte : Charset → Bool
  | .page _ => true
  | .logicalHebrew => true
  | .userDefined => true
  | _ => false

theorem isSingleByte_iff (charset : Charset) : charset.IsSingleByte ↔ charset.readsEachByte = true := by
  -- every other character set reads some bytes as fewer characters
  have hfewer (bytes : List UInt8) (h : (charset.decode bytes).length ≠ bytes.length) :
      ¬ charset.IsSingleByte := fun hsingle => h (hsingle.isBytewise.length_decode bytes)
  cases charset with
  | page page => exact iff_of_true (isSingleByte_page page) rfl
  | logicalHebrew => exact iff_of_true isSingleByte_logicalHebrew rfl
  | userDefined => exact iff_of_true isSingleByte_userDefined rfl
  | utf8 => exact iff_of_false (hfewer [0xC3, 0xA9] (by decide)) nofun
  | gbk => exact iff_of_false (hfewer [0x81, 0xFF] (by decide)) nofun
  | gb18030 => exact iff_of_false (hfewer [0x81, 0xFF] (by decide)) nofun
  | big5 => exact iff_of_false (hfewer [0x81, 0x80] (by decide)) nofun
  | eucJp => exact iff_of_false (hfewer [0xA1, 0x80] (by decide)) nofun
  | shiftJis => exact iff_of_false (hfewer [0x81, 0xFF] (by decide)) nofun
  | eucKr => exact iff_of_false (hfewer [0x81, 0xFF] (by decide)) nofun
  | iso2022Jp => exact iff_of_false (hfewer [0x1B, 0x28, 0x42] (by decide)) nofun
  | replacement => exact iff_of_false (hfewer [0x41, 0x41] (by decide)) nofun
  | utf16 order => exact iff_of_false (hfewer [0x41, 0x41] (by cases order <;> decide)) nofun

def HasNonAscii (s : List Char) : Prop := ∃ c ∈ s, 0x80 ≤ c.toNat

private theorem IsSingleByte.hasNonAscii {charset : Charset} (h : charset.IsSingleByte) {bytes : List UInt8}
    (hbytes : ¬ ∀ b ∈ bytes, isAscii b = true) : HasNonAscii (charset.decode bytes) := by
  obtain ⟨char, hdecode, -, hnonAscii⟩ := h
  obtain ⟨b, hb⟩ := Classical.not_forall.mp hbytes
  obtain ⟨hmem, hbeyond⟩ := Classical.not_imp.mp hb
  rw [hdecode]
  exact ⟨char b, List.mem_map_of_mem hmem, hnonAscii b (Bool.eq_false_iff.mpr hbeyond)⟩

theorem decode?_of_cleanUtf8? {bytes : List UInt8} {s : List Char} (h : cleanUtf8? bytes = some s) :
    Utf8.decode? bytes = some s :=
  (Option.filter_eq_some_iff.mp h).1

theorem fieldText_utf8 (bytes : List UInt8) : utf8.fieldText bytes = ⟨utf8.decode bytes, .utf8⟩ := by
  unfold fieldText
  cases hclean : cleanUtf8? bytes with
  | none => rfl
  | some s =>
    have hs := Utf8.decode_of_decode? (decode?_of_cleanUtf8? hclean)
    simp only [hs, Nat.lt_irrefl, if_false]

/-- The two readings of a field are the same, or both hold a character beyond ASCII. -/
theorem IsSingleByte.fieldText_text {charset : Charset} (h : charset.IsSingleByte) (bytes : List UInt8) :
    (charset.fieldText bytes).text = charset.decode bytes ∨
      HasNonAscii (charset.fieldText bytes).text ∧ HasNonAscii (charset.decode bytes) := by
  unfold fieldText
  cases hclean : cleanUtf8? bytes with
  | none => exact .inl rfl
  | some s =>
    simp only
    split
    · rename_i hshorter
      right
      have hdecode := decode?_of_cleanUtf8? hclean
      -- on ASCII alone the reading in UTF-8 is not the shorter one
      have hbytes : ¬ ∀ b ∈ bytes, isAscii b = true := by
        intro hascii
        have hs : s = asciiText bytes :=
          (Utf8.decode_of_decode? hdecode).symm.trans ((readsAscii_iff utf8).mpr rfl bytes hascii)
        rw [h.isBytewise.length_decode, hs, asciiText, List.length_map] at hshorter
        exact Nat.lt_irrefl _ hshorter
      refine ⟨?_, h.hasNonAscii hbytes⟩
      apply Classical.byContradiction
      intro hnone
      apply hbytes
      apply Utf8.isAscii_of_decode? hdecode
      intro c hc
      exact Nat.not_le.mp fun hle => hnone ⟨c, hc, hle⟩
    · exact .inl rfl

end Xbase.Charset
