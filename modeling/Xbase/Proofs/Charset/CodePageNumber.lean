import Xbase.Charset.Selection
import Xbase.Proofs.Number.Notation
import Xbase.Proofs.Text
/-!
# Code page numbers

A code page is often named by its number with a text in front. Some of these names are labels of character sets and
the others are read by their digits, and both ways lead to the same character set.
-/
namespace Xbase

namespace Number

private theorem toLower_of_isDigit {c : Char} (h : c.isDigit = true) : c.toLower = c := by
  have hrange := toNat_of_isDigit h
  have hupper : ¬ (c.val ≥ 'A'.val ∧ c.val ≤ 'Z'.val) := by
    rw [ge_iff_le, UInt32.le_iff_toNat_le]
    change ¬ (65 ≤ c.toNat ∧ _)
    omega
  exact dif_neg hupper

private theorem isDigit_toLower (c : Char) : c.toLower.isDigit = c.isDigit := by
  have hbeyond (d : Char) (hd : 57 < d.toNat) : d.isDigit = false := by
    cases h : d.isDigit with
    | false => rfl
    | true => exact absurd (toNat_of_isDigit h).2 (Nat.not_le.mpr hd)
  unfold Char.toLower
  split
  · rename_i hupper
    have hrange : 65 ≤ c.toNat ∧ c.toNat ≤ 90 := by simpa [UInt32.le_iff_toNat_le] using hupper
    have hlower : (c.val + 32).toNat = c.toNat + 32 := by
      rw [UInt32.toNat_add]
      exact Nat.mod_eq_of_lt (show c.toNat + 32 < 2 ^ 32 by omega)
    rw [hbeyond c (by omega)]
    exact hbeyond _ (Nat.lt_of_lt_of_eq (by omega) hlower.symm)
  · rfl

end Number

namespace Charset

open Number (natText)

/-- The code pages that are named by their numbers, each with its character set. There is no part 12 of ISO 8859. -/
def codePages : List (ℕ × Option Charset) :=
  [(866, some (.page .ibm866)), (874, some (.page .windows874)), (932, some .shiftJis), (936, some .gbk),
   (949, some .eucKr), (950, some .big5), (65001, some .utf8),
   (1250, some (.page .windows1250)), (1251, some (.page .windows1251)), (1252, some (.page .windows1252)),
   (1253, some (.page .windows1253)), (1254, some (.page .windows1254)), (1255, some (.page .windows1255)),
   (1256, some (.page .windows1256)), (1257, some (.page .windows1257)), (1258, some (.page .windows1258)),
   (88591, some (.page .windows1252)), (88592, some (.page .iso8859_2)), (88593, some (.page .iso8859_3)),
   (88594, some (.page .iso8859_4)), (88595, some (.page .iso8859_5)), (88596, some (.page .iso8859_6)),
   (88597, some (.page .iso8859_7)), (88598, some (.page .iso8859_8)), (88599, some (.page .windows1254)),
   (885910, some (.page .iso8859_10)), (885911, some (.page .windows874)), (885912, none),
   (885913, some (.page .iso8859_13)), (885914, some (.page .iso8859_14)), (885915, some (.page .iso8859_15)),
   (885916, some (.page .iso8859_16))]

private theorem eq_of_mem_labels : ∀ entry ∈ labels, ∀ key ∈ entry.2,
    ∀ number ∈ Number.natOfText? (key.toList.dropWhile (!·.isDigit)),
      ∀ page ∈ codePages, number = page.1 → page.2 = some entry.1 := by
  decide +kernel

private theorem ofCodePageDigits?_natText : ∀ page ∈ codePages, ofCodePageDigits? (natText page.1) = page.2 := by
  decide +kernel

private theorem exists_mem_labels {label : List Char} {charset : Charset} (h : ofLabel? label = some charset) :
    ∃ entry ∈ labels, entry.1 = charset ∧ ∃ key ∈ entry.2,
      key.toList = (Text.trimBoth isLabelBlank label).map Char.toLower := by
  obtain ⟨⟨charset', keys⟩, hentry, hfound⟩ := List.exists_of_findSome?_eq_some h
  simp only [List.contains_eq_mem, decide_eq_true_eq, Option.ite_none_right_eq_some, Option.some.injEq] at hfound
  obtain ⟨hkey, rfl⟩ := hfound
  exact ⟨_, hentry, rfl, _, hkey, String.toList_ofList⟩

section Digits

variable {front digits : List Char} (hfront : ∀ c ∈ front, c.isDigit = false)
  (hdigits : ∀ c ∈ digits, c.isDigit = true)
include hfront hdigits

private theorem filter_isDigit_append : (front ++ digits).filter Char.isDigit = digits := by
  rw [List.filter_append, List.filter_eq_self.mpr hdigits, List.filter_eq_nil_iff.mpr (by simpa using hfront)]
  rfl

private theorem dropWhile_not_isDigit_append : (front ++ digits).dropWhile (!·.isDigit) = digits := by
  rw [List.dropWhile_append_of_pos (by simpa using hfront)]
  cases digits with
  | nil => rfl
  | cons c digits => rw [List.dropWhile_cons_of_neg (by simp [hdigits c])]

end Digits

private theorem trimBoth_append_digits {blank : Char → Bool} (hblank : ∀ c, c.isDigit = true → blank c = false)
    {front digits : List Char} (hdigits : ∀ c ∈ digits, c.isDigit = true) (hne : digits ≠ []) :
    Text.trimBoth blank (front ++ digits) = front.dropWhile blank ++ digits := by
  have hkeep : digits.dropWhile blank = digits := by
    cases digits with
    | nil => rfl
    | cons c digits => exact List.dropWhile_cons_of_neg (by simp [hblank c (hdigits c List.mem_cons_self)])
  have hdrop : (front ++ digits).dropWhile blank = front.dropWhile blank ++ digits := by
    rw [List.dropWhile_append, hkeep]
    split
    · rename_i hempty
      rw [List.isEmpty_iff.mp hempty, List.nil_append]
    · rfl
  change ((front ++ digits).dropWhile blank).rdropWhile blank = _
  rw [hdrop, Text.rdropWhile_eq_self_iff, Option.any_eq_false, List.getLast?_append_of_ne_nil _ hne]
  intro c hc
  simp [hblank c (hdigits c (List.mem_of_getLast? hc))]

private theorem isLabelBlank_of_isDigit {c : Char} (h : c.isDigit = true) : isLabelBlank c = false := by
  simp only [isLabelBlank, Bool.or_eq_false_iff, decide_eq_false_iff_not]
  refine ⟨⟨⟨⟨?_, ?_⟩, ?_⟩, ?_⟩, ?_⟩ <;> rintro rfl <;> exact absurd h (by decide)

private theorem eq_of_ofLabel?_append {page : ℕ × Option Charset} (hpage : page ∈ codePages) {front : List Char}
    (hfront : ∀ c ∈ front, c.isDigit = false) {charset : Charset}
    (h : ofLabel? (front ++ natText page.1) = some charset) : page.2 = some charset := by
  have hdigits : ∀ c ∈ natText page.1, c.isDigit = true := fun _ => Number.isDigit_of_mem_natText
  obtain ⟨entry, hentry, rfl, key, hkey, hlabel⟩ := exists_mem_labels h
  refine eq_of_mem_labels entry hentry key hkey page.1 ?_ page hpage rfl
  have hlower : (natText page.1).map Char.toLower = natText page.1 :=
    (List.map_congr_left fun c hc => Number.toLower_of_isDigit (hdigits c hc)).trans (List.map_id _)
  have hrest : ∀ c ∈ (front.dropWhile isLabelBlank).map Char.toLower, c.isDigit = false := by
    intro c hc
    obtain ⟨d, hd, rfl⟩ := List.mem_map.mp hc
    rw [Number.isDigit_toLower]
    exact hfront d (List.dropWhile_subset _ hd)
  rw [hlabel, trimBoth_append_digits (fun _ => isLabelBlank_of_isDigit) hdigits (Number.natText_ne_nil _),
    List.map_append, hlower, dropWhile_not_isDigit_append hrest hdigits]
  exact Number.natOfText?_natText page.1

private theorem ofCodePageLabel?_of_page {page : ℕ × Option Charset} (hpage : page ∈ codePages)
    (front left right : List Char) (hfront : ∀ c ∈ front, c.isDigit = false)
    (hleft : ∀ c ∈ left, Text.isBlank c = true) (hright : ∀ c ∈ right, Text.isBlank c = true) :
    ofCodePageLabel? (left ++ (front ++ natText page.1) ++ right) = page.2 := by
  have hdigits : ∀ c ∈ natText page.1, c.isDigit = true := fun _ => Number.isDigit_of_mem_natText
  have hne := Number.natText_ne_nil page.1
  have htrim : Text.trim (left ++ (front ++ natText page.1) ++ right) =
      front.dropWhile Text.isBlank ++ natText page.1 := by
    rw [Text.trim, Text.trimBoth_append_right hright, Text.trimBoth_append_left hleft]
    exact trimBoth_append_digits (fun _ => Number.isBlank_of_isDigit) hdigits hne
  have hrest : ∀ c ∈ front.dropWhile Text.isBlank, c.isDigit = false :=
    fun c hc => hfront c (List.dropWhile_subset _ hc)
  rw [ofCodePageLabel?, htrim, if_neg (List.append_ne_nil_of_right_ne_nil _ hne)]
  cases hlabel : ofLabel? (front.dropWhile Text.isBlank ++ natText page.1) with
  | some charset => exact (eq_of_ofLabel?_append hpage hrest hlabel).symm
  | none =>
    simp only [filter_isDigit_append hrest hdigits]
    exact ofCodePageDigits?_natText page hpage

/-- A text without digits in front of the number of a code page does not change the character set that is read, nor
do blanks around it. -/
theorem ofCodePageLabel?_append_natText (number : ℕ) (charset : Option Charset)
    (hpage : (number, charset) ∈ codePages) (front left right : List Char)
    (hfront : ∀ c ∈ front, c.isDigit = false) (hleft : ∀ c ∈ left, Text.isBlank c = true)
    (hright : ∀ c ∈ right, Text.isBlank c = true) :
    ofCodePageLabel? (left ++ (front ++ natText number) ++ right) = ofCodePageLabel? (natText number) ∧
      ofCodePageLabel? (natText number) = charset := by
  have hbare : ofCodePageLabel? (natText number) = charset := by
    have h := ofCodePageLabel?_of_page hpage [] [] [] nofun nofun nofun
    rwa [List.append_nil] at h
  exact ⟨(ofCodePageLabel?_of_page hpage front left right hfront hleft hright).trans hbare.symm, hbare⟩

/-- A label with a line end behind it, a text that is no label, and a part that ISO 8859 does not have. -/
theorem ofCodePageLabel?_append_natText_labels :
    ofCodePageLabel? "cp1252\r\n".toList = some (.page .windows1252) ∧
      ofCodePageLabel? "\tANSI 1251".toList = some (.page .windows1251) ∧
      ofCodePageLabel? "ISO885912".toList = none := by
  have hcp : "cp1252\r\n".toList = [] ++ ("cp".toList ++ natText 1252) ++ "\r\n".toList := by decide +kernel
  have hansi : "\tANSI 1251".toList = "\t".toList ++ ("ANSI ".toList ++ natText 1251) ++ [] := by decide +kernel
  have hiso : "ISO885912".toList = [] ++ ("ISO".toList ++ natText 885912) ++ [] := by decide +kernel
  have hline : ∀ c ∈ "\r\n".toList, Text.isBlank c = true := List.all_eq_true.mp (by decide +kernel)
  have htab : ∀ c ∈ "\t".toList, Text.isBlank c = true := List.all_eq_true.mp (by decide +kernel)
  obtain ⟨hcpSame, hcpPage⟩ := ofCodePageLabel?_append_natText 1252 (some (.page .windows1252)) (by decide)
    "cp".toList [] "\r\n".toList (by simp) nofun hline
  obtain ⟨hansiSame, hansiPage⟩ := ofCodePageLabel?_append_natText 1251 (some (.page .windows1251)) (by decide)
    "ANSI ".toList "\t".toList [] (by simp) htab nofun
  obtain ⟨hisoSame, hisoPage⟩ := ofCodePageLabel?_append_natText 885912 none (by decide)
    "ISO".toList [] [] (by simp) nofun nofun
  rw [hcp, hcpSame, hcpPage, hansi, hansiSame, hansiPage, hiso, hisoSame, hisoPage]
  exact ⟨rfl, rfl, rfl⟩

end Charset

end Xbase
