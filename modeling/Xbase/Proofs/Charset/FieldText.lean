import Xbase.Proofs.Charset.Encoding
import Xbase.Proofs.Charset.SingleByte
/-!
# Texts in UTF-8 in other tables

A table often declares a character set of single bytes and holds texts in UTF-8 all the same. Such a text is
recognized by its length: it has fewer characters than bytes exactly if one of them is not ASCII, and where all
are ASCII the two readings agree.
-/
namespace Xbase

def Charset.utf8Bytes (s : String) : List UInt8 := s.toUTF8.data.toList

namespace Charset

namespace Utf8

private theorem length_encodeChar_of_ascii {c : Char} (h : c.toNat < 0x80) : (encodeChar c).length = 1 := by
  obtain ⟨b, hb, rfl⟩ := exists_asciiChar h
  rw [encodeChar_asciiChar hb, List.length_singleton]

private theorem one_lt_length_encodeChar {c : Char} (h : 0x80 ≤ c.toNat) : 1 < (encodeChar c).length := by
  obtain ⟨b, p, hopened, hawaits⟩ := exists_opened? h
  obtain ⟨k, hk⟩ := Nat.exists_eq_succ_of_ne_zero (Nat.ne_of_gt hawaits.needed)
  rw [encodeChar_of_awaits hopened hawaits, hk]
  exact Nat.succ_lt_succ (Nat.succ_pos _)

private theorem hasNonAscii_cons {c : Char} {s : List Char} :
    HasNonAscii (c :: s) ↔ 0x80 ≤ c.toNat ∨ HasNonAscii s := by
  simp only [HasNonAscii, List.mem_cons, exists_eq_or_imp]

private theorem length_encode (s : List Char) :
    s.length ≤ (encode s).length ∧ (s.length < (encode s).length ↔ HasNonAscii s) := by
  induction s with
  | nil => exact ⟨Nat.le_refl _, iff_of_false (Nat.lt_irrefl _) nofun⟩
  | cons c s ih =>
    obtain ⟨hle, hlt⟩ := ih
    rw [encode_cons, List.length_append, List.length_cons, hasNonAscii_cons, ← hlt]
    by_cases hc : c.toNat < 0x80
    · rw [length_encodeChar_of_ascii hc]
      omega
    · have hchar := one_lt_length_encodeChar (Nat.not_lt.mp hc)
      omega

end Utf8

private theorem cleanUtf8?_encode {s : List Char} (h : replacementChar ∉ s) :
    cleanUtf8? (Utf8.encode s) = some s := by
  have hclean : (!s.contains replacementChar) = true := by simpa using h
  rw [cleanUtf8?, Utf8.decode?_encode, Option.filter_some, if_pos hclean]

/-- A text in UTF-8 without a replacement character is read back in a table of single bytes. -/
theorem IsBytewise.fieldText_encode {charset : Charset} (h : charset.IsBytewise) {s : List Char}
    (hs : replacementChar ∉ s) :
    charset.fieldText (Utf8.encode s) =
      ⟨s, if s.all (fun c => c.toNat < 0x80) then charset else .utf8⟩ := by
  obtain ⟨-, hlength⟩ := Utf8.length_encode s
  rw [← h.length_decode] at hlength
  simp only [fieldText, cleanUtf8?_encode hs, List.all_eq_true, decide_eq_true_eq]
  by_cases hbeyond : HasNonAscii s
  · obtain ⟨c, hc, hlarge⟩ := hbeyond
    rw [if_pos (hlength.mpr ⟨c, hc, hlarge⟩), if_neg fun hall => Nat.not_lt.mpr hlarge (hall c hc)]
  · have hall : ∀ c ∈ s, c.toNat < 0x80 :=
      fun c hc => Nat.not_le.mp fun hle => hbeyond ⟨c, hc, hle⟩
    rw [if_neg (mt hlength.mp hbeyond), if_pos hall]
    have hascii : ∀ b ∈ Utf8.encode s, isAscii b = true :=
      Utf8.isAscii_of_decode? (Utf8.decode?_encode s) hall
    have hutf8 : Charset.utf8.decode (Utf8.encode s) = s :=
      Utf8.decode_of_decode? (Utf8.decode?_encode s)
    rw [h.readsAscii _ hascii, ← (readsAscii_iff .utf8).mpr rfl _ hascii, hutf8]

theorem fieldText_of_malformed {charset : Charset} {bytes : List UInt8}
    (h : ¬ bytes.toByteArray.IsValidUTF8) : charset.fieldText bytes = ⟨charset.decode bytes, charset⟩ := by
  rw [fieldText, cleanUtf8?, Utf8.decode?_eq_none_iff.mpr h]
  rfl

theorem fieldText_utf8Bytes {charset : Charset} (h : charset = .utf8 ∨ charset.IsBytewise) {s : String}
    (hs : replacementChar ∉ s.toList) : (charset.fieldText (utf8Bytes s)).text = s.toList := by
  rw [utf8Bytes, ← Utf8.encode_toList]
  rcases h with rfl | h
  · rw [fieldText_utf8, Utf8.decode_of_decode? (Utf8.decode?_encode _)]
  · rw [h.fieldText_encode hs]

end Charset

end Xbase
