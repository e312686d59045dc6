import Xbase.Charset.Selection
import Xbase.Charset.Decode
/-!
# ASCII in the character sets

All character sets but those of two bytes for every character, the one that switches its sets by escapes and
the one that reads nothing read ASCII as it is. The character set of a language driver is never one of these.
-/
namespace Xbase.Charset

theorem forall_byte {P : UInt8 → Prop} (h : ∀ n : Fin 256, P (UInt8.ofNat n)) (b : UInt8) : P b := by
  have hb := h ⟨b.toNat, b.toNat_lt⟩
  rwa [UInt8.ofNat_toNat] at hb

theorem isAscii_iff {b : UInt8} : isAscii b = true ↔ b.toNat < 0x80 := by
  rw [isAscii, decide_eq_true_eq, UInt8.lt_iff_toNat_lt]
  rfl

theorem toNat_asciiChar {b : UInt8} (h : isAscii b = true) : (asciiChar b).toNat = b.toNat := by
  have hlt := isAscii_iff.mp h
  have hvalid : b.toNat.isValidChar := .inl (by omega)
  rw [asciiChar, Char.ofNat, dif_pos hvalid]
  rfl

theorem exists_asciiChar {c : Char} (h : c.toNat < 0x80) : ∃ b, isAscii b = true ∧ asciiChar b = c := by
  have hbyte : (UInt8.ofNat c.toNat).toNat = c.toNat := UInt8.toNat_ofNat_of_lt' (Nat.lt_trans h (by decide))
  have hascii : isAscii (UInt8.ofNat c.toNat) = true := isAscii_iff.mpr (by omega)
  exact ⟨_, hascii, Char.toNat_inj.mp ((toNat_asciiChar hascii).trans hbyte)⟩

def asciiText (bytes : List UInt8) : List Char := bytes.map asciiChar

/-- A decoder that reads ASCII as it is between sequences of several bytes. -/
structure Decoder.ReadsAscii {σ : Type} (d : Decoder σ) : Prop where
  step (b : UInt8) : isAscii b = true → d.step d.start b = ([some (asciiChar b)], d.start)
  finish : d.finish d.start = []

private theorem Decoder.ReadsAscii.run {σ : Type} {d : Decoder σ} (h : d.ReadsAscii) {bytes : List UInt8}
    (hascii : ∀ b ∈ bytes, isAscii b = true) : d.run bytes = bytes.map fun b => some (asciiChar b) := by
  induction bytes with
  | nil => exact h.finish
  | cons b bytes ih =>
    have hrest := ih fun b' hb' => hascii b' (List.mem_cons_of_mem b hb')
    have hstep := h.step b (hascii b List.mem_cons_self)
    change (d.step d.start b).1 ++ d.runFrom (d.step d.start b).2 bytes = _
    rw [hstep, List.map_cons, ← hrest]
    rfl

private theorem Utf8.readsAscii : Utf8.decoder.ReadsAscii where
  step b hb := by
    change Utf8.first b = _
    rw [Utf8.first, if_pos hb]
    rfl
  finish := rfl

private theorem Gb18030.readsAscii : Gb18030.decoder.ReadsAscii where
  step b hb := by
    change Gb18030.first b = _
    rw [Gb18030.first, if_pos hb]
    rfl
  finish := rfl

private theorem Big5.readsAscii : Big5.decoder.ReadsAscii where
  step _ hb := if_pos hb
  finish := rfl

private theorem EucJp.readsAscii : EucJp.decoder.ReadsAscii where
  step _ hb := if_pos hb
  finish := rfl

private theorem EucKr.readsAscii : EucKr.decoder.ReadsAscii where
  step _ hb := if_pos hb
  finish := rfl

private theorem ShiftJis.readsAscii : ShiftJis.decoder.ReadsAscii where
  step b hb := by
    have hle : b ≤ 0x80 := by
      have hlt : b < 0x80 := of_decide_eq_true hb
      exact UInt8.le_of_lt hlt
    exact if_pos hle
  finish := rfl

def ReadsAscii (charset : Charset) : Prop :=
  ∀ bytes : List UInt8, (∀ b ∈ bytes, isAscii b = true) → charset.decode bytes = asciiText bytes

private theorem readsAscii_of_symbols {charset : Charset}
    (h : ∀ bytes : List UInt8, (∀ b ∈ bytes, isAscii b = true) →
      charset.symbols bytes = bytes.map fun b => some (asciiChar b)) : charset.ReadsAscii := by
  intro bytes hascii
  rw [decode, h bytes hascii, symbolText, List.map_map]
  rfl

def extendsAscii : Charset → Bool
  | .iso2022Jp => false
  | .replacement => false
  | .utf16 _ => false
  | _ => true

theorem CodePage.symbol_of_isAscii (page : CodePage) {b : UInt8} (h : isAscii b = true) :
    page.symbol b = some (asciiChar b) := by
  rw [symbol, if_pos h]

theorem readsAscii_iff (charset : Charset) : charset.ReadsAscii ↔ charset.extendsAscii = true := by
  have hmap {symbol : UInt8 → Symbol} (h : ∀ b, isAscii b = true → symbol b = some (asciiChar b))
      (bytes : List UInt8) (hascii : ∀ b ∈ bytes, isAscii b = true) :
      bytes.map symbol = bytes.map fun b => some (asciiChar b) :=
    List.map_congr_left fun b hb => h b (hascii b hb)
  cases charset with
  | utf8 => exact iff_of_true (readsAscii_of_symbols fun _ => Utf8.readsAscii.run) rfl
  | page page => exact iff_of_true (readsAscii_of_symbols (hmap fun _ => page.symbol_of_isAscii)) rfl
  | logicalHebrew =>
    exact iff_of_true (readsAscii_of_symbols (hmap fun _ => CodePage.symbol_of_isAscii _)) rfl
  | gbk => exact iff_of_true (readsAscii_of_symbols fun _ => Gb18030.readsAscii.run) rfl
  | gb18030 => exact iff_of_true (readsAscii_of_symbols fun _ => Gb18030.readsAscii.run) rfl
  | big5 => exact iff_of_true (readsAscii_of_symbols fun _ => Big5.readsAscii.run) rfl
  | eucJp => exact iff_of_true (readsAscii_of_symbols fun _ => EucJp.readsAscii.run) rfl
  | shiftJis => exact iff_of_true (readsAscii_of_symbols fun _ => ShiftJis.readsAscii.run) rfl
  | eucKr => exact iff_of_true (readsAscii_of_symbols fun _ => EucKr.readsAscii.run) rfl
  | userDefined =>
    refine iff_of_true (readsAscii_of_symbols (hmap fun b hb => ?_)) rfl
    rw [userDefinedSymbol, if_pos hb]
  | iso2022Jp =>
    -- an escape is no character of its own
    exact iff_of_false (fun h => absurd (h [0x1B] (List.all_eq_true.mp rfl)) (by decide)) nofun
  | replacement => exact iff_of_false (fun h => absurd (h [0x41] (List.all_eq_true.mp rfl)) (by decide)) nofun
  | utf16 order =>
    exact iff_of_false (fun h => absurd (h [0x41] (List.all_eq_true.mp rfl)) (by cases order <;> decide)) nofun

private theorem readsAscii_ofLanguageDriver (id : UInt8) {charset : Charset}
    (h : ofLanguageDriver? id = some charset) : charset.ReadsAscii := by
  have hall : ∀ id : UInt8, ∀ charset ∈ ofLanguageDriver? id, charset.extendsAscii = true :=
    forall_byte (by decide +kernel)
  exact (readsAscii_iff charset).mpr (hall id charset h)

/-- A table whose character set nobody chooses is read in one that reads ASCII as it is. -/
theorem readsAscii_resolve {explicit : Option Charset} (h : ∀ charset ∈ explicit, charset.ReadsAscii)
    (languageDriver : UInt8) : (resolve explicit none languageDriver).1.ReadsAscii := by
  cases explicit with
  | some charset => exact h charset rfl
  | none =>
    cases hdriver : ofLanguageDriver? languageDriver with
    | some charset =>
      simp only [resolve, Option.bind_none, hdriver]
      exact readsAscii_ofLanguageDriver _ hdriver
    | none =>
      simp only [resolve, Option.bind_none, hdriver]
      exact (readsAscii_iff _).mpr rfl

end Xbase.Charset
