import Xbase.Proofs.Charset.Encoding
import Xbase.Proofs.Number.Notation
import Xbase.Text.Order
/-!
# Texts in order

Texts of ASCII characters are in the order of their bytes, and digits in the order of the number that they
write, if there are as many of them.
-/
namespace Xbase.Text

variable {s t s' t' : List Char}

theorem order_cons (a b : Char) :
    order (a :: s) (b :: t) = (compare a.toNat b.toNat).then (order s t) := rfl

theorem order_eq_iff : order s t = .eq ↔ s = t := by
  induction s generalizing t with
  | nil => cases t <;> simp [order]
  | cons a s ih =>
    cases t with
    | nil => simp [order]
    | cons b t => simp [order, Ordering.then_eq_eq, Char.toNat_inj, ih]

theorem order_append (h : s.length = t.length) :
    order (s ++ s') (t ++ t') = (order s t).then (order s' t') := by
  induction s generalizing t with
  | nil =>
    obtain rfl := List.length_eq_zero_iff.mp h.symm
    rfl
  | cons a s ih =>
    cases t with
    | nil => cases h
    | cons b t =>
      have hlength : s.length = t.length := Nat.succ.inj h
      simp only [List.cons_append, order_cons, ih hlength, Ordering.then_assoc]

private theorem compare_mul_add {p m n x y : Nat} (hx : x < p) (hy : y < p) :
    compare (p * m + x) (p * n + y) = (compare m n).then (compare x y) := by
  have hgreater {m n : Nat} (h : m < n) : p * m + p ≤ p * n := Nat.mul_le_mul_left p h
  rcases Nat.lt_trichotomy m n with hlt | rfl | hgt
  · have hle := hgreater hlt
    rw [Nat.compare_eq_lt.mpr hlt, Nat.compare_eq_lt.mpr (by omega)]
    rfl
  · rw [Nat.compare_eq_eq.mpr rfl, Ordering.eq_then]
    rcases Nat.lt_trichotomy x y with hxy | rfl | hyx
    · rw [Nat.compare_eq_lt.mpr hxy, Nat.compare_eq_lt.mpr (by omega)]
    · rw [Nat.compare_eq_eq.mpr rfl, Nat.compare_eq_eq.mpr rfl]
    · rw [Nat.compare_eq_gt.mpr hyx, Nat.compare_eq_gt.mpr (by omega)]
  · have hle := hgreater hgt
    rw [Nat.compare_eq_gt.mpr hgt, Nat.compare_eq_gt.mpr (by omega)]
    rfl

theorem order_digits (hs : ∀ c ∈ s, c.isDigit = true) (ht : ∀ c ∈ t, c.isDigit = true)
    (h : s.length = t.length) :
    order s t = compare (Nat.ofDigitChars 10 s 0) (Nat.ofDigitChars 10 t 0) := by
  induction s generalizing t with
  | nil =>
    obtain rfl := List.length_eq_zero_iff.mp h.symm
    rfl
  | cons a s ih =>
    cases t with
    | nil => cases h
    | cons b t =>
      have hlength : s.length = t.length := Nat.succ.inj h
      have hs' : ∀ c ∈ s, c.isDigit = true := fun c hc => hs c (.tail _ hc)
      have ht' : ∀ c ∈ t, c.isDigit = true := fun c hc => ht c (.tail _ hc)
      have hslt := Number.ofDigitChars_lt hs'
      have htlt := Number.ofDigitChars_lt ht'
      have hfirst : compare a.toNat b.toNat = compare (a.toNat - 48) (b.toNat - 48) := by
        have ha := Number.toNat_of_isDigit (hs a (.head _))
        have hb := Number.toNat_of_isDigit (ht b (.head _))
        simp only [compare, compareOfLessAndEq]
        grind
      rw [hlength] at hslt
      rw [order_cons, ih hs' ht' hlength, Number.ofDigitChars_cons, Number.ofDigitChars_cons, hlength,
        compare_mul_add hslt htlt, hfirst]

/-- The bytes of texts of ASCII characters are in the order of the texts. -/
theorem encode_lt_encode_iff (hs : ∀ c ∈ s, c.toNat < 0x80) (ht : ∀ c ∈ t, c.toNat < 0x80) :
    Charset.Utf8.encode s < Charset.Utf8.encode t ↔ order s t = .lt := by
  induction s generalizing t with
  | nil =>
    cases t with
    | nil => exact ⟨nofun, nofun⟩
    | cons b t =>
      obtain ⟨y, hy, rfl⟩ := Charset.exists_asciiChar (ht b (.head _))
      rw [Charset.Utf8.encode_cons, Charset.Utf8.encodeChar_asciiChar hy]
      exact iff_of_true (List.nil_lt_cons _ _) rfl
  | cons a s ih =>
    obtain ⟨x, hx, rfl⟩ := Charset.exists_asciiChar (hs a (.head _))
    rw [Charset.Utf8.encode_cons, Charset.Utf8.encodeChar_asciiChar hx]
    cases t with
    | nil => exact ⟨nofun, nofun⟩
    | cons b t =>
      obtain ⟨y, hy, rfl⟩ := Charset.exists_asciiChar (ht b (.head _))
      rw [Charset.Utf8.encode_cons, Charset.Utf8.encodeChar_asciiChar hy, List.singleton_append,
        List.singleton_append, List.cons_lt_cons_iff, order_cons, Charset.toNat_asciiChar hx,
        Charset.toNat_asciiChar hy, Ordering.then_eq_lt, Nat.compare_eq_lt, Nat.compare_eq_eq,
        UInt8.lt_iff_toNat_lt, ← UInt8.toNat_inj,
        ih (fun c hc => hs c (.tail _ hc)) fun c hc => ht c (.tail _ hc)]

end Xbase.Text
