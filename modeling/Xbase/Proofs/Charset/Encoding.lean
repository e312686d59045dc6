import Xbase.Proofs.Charset.Utf8
/-!
# The encoding of texts

The decoder reads each character from the bytes that the encoder writes for it, and on bytes that no text has it
marks something as malformed. Behind the first byte of a sequence, each byte carries six bits of the
character's number.
-/
namespace Xbase.Charset.Utf8

/-- A number without its lowest groups of six bits. -/
def shifted (n : Nat) : Nat → Nat
  | 0 => n
  | k + 1 => shifted n k / 64

/-- The bytes after the first that carry the lowest groups of six bits. -/
def tails (n : Nat) : Nat → List UInt8
  | 0 => []
  | k + 1 => tail (shifted n k) :: tails n k

/-- An unfinished sequence that the low bits of a number complete. -/
structure Pending.Awaits (p : Pending) (n : Nat) : Prop where
  needed : 1 ≤ p.needed
  bits : p.bits = shifted n p.needed
  next : within p.low p.high (tail (shifted n (p.needed - 1))) = true

/-- An unfinished sequence that takes no byte but those after a first one. -/
structure Pending.IsBounded (p : Pending) : Prop where
  needed : 1 ≤ p.needed
  low : 0x80 ≤ p.low.toNat
  high : p.high.toNat ≤ 0xBF

theorem Pending.isBounded_further (k bits : Nat) : Pending.IsBounded ⟨k + 1, 0x80, 0xBF, bits⟩ :=
  ⟨Nat.succ_pos k, Nat.le_refl _, Nat.le_refl _⟩

theorem toNat_tail (n : Nat) : (tail n).toNat = 0x80 + n % 64 := by
  have hlt : 0x80 + n % 64 < 256 := by omega
  exact UInt8.toNat_ofNat_of_lt' hlt

theorem within_tail (n : Nat) : within 0x80 0xBF (tail n) = true := by
  rw [within_iff, toNat_tail]
  change 128 ≤ _ ∧ _ ≤ 191
  omega

theorem tail_of_bounded {b : UInt8} (hlow : 0x80 ≤ b.toNat) (hhigh : b.toNat ≤ 0xBF) (bits : Nat) :
    tail (bits * 64 + (b.toNat - 0x80)) = b ∧ (bits * 64 + (b.toNat - 0x80)) / 64 = bits := by
  constructor
  · apply UInt8.toNat_inj.mp
    rw [toNat_tail]
    omega
  · omega

/-- The bytes that an unfinished sequence awaits are read as the number. -/
theorem Pending.Awaits.runFrom {p : Pending} {n : Nat} (h : p.Awaits n) (rest : List UInt8) :
    decoder.runFrom (some p) (tails n p.needed ++ rest) = scalar? n :: decoder.runFrom none rest := by
  obtain ⟨needed, low, high, bits⟩ := p
  induction needed generalizing low high bits with
  | zero => exact absurd h.needed (by simp)
  | succ k ih =>
    have hstart : bits = shifted n (k + 1) := h.bits
    have hnext : within low high (tail (shifted n k)) = true := h.next
    subst hstart
    have hbits : shifted n (k + 1) * 64 + ((tail (shifted n k)).toNat - 0x80) = shifted n k := by
      rw [toNat_tail, shifted]
      omega
    change (step (some _) _).1 ++ decoder.runFrom (step (some _) _).2 (tails n k ++ rest) = _
    rw [step, if_pos hnext]
    simp only [hbits]
    cases k with
    | zero => rfl
    | succ k =>
      rw [if_neg (by omega)]
      exact ih 0x80 0xBF _ ⟨by simp, rfl, within_tail _⟩

theorem Pending.IsBounded.exists_awaits {p : Pending} (hp : p.IsBounded) {bytes : List UInt8}
    (h : none ∉ decoder.runFrom (some p) bytes) :
    ∃ n rest, p.Awaits n ∧ bytes = tails n p.needed ++ rest := by
  obtain ⟨needed, low, high, bits⟩ := p
  induction needed generalizing low high bits bytes with
  | zero => exact absurd hp.needed (by simp)
  | succ k ih =>
    cases bytes with
    | nil => exact absurd (List.mem_singleton_self none) h
    | cons b bytes =>
      change none ∉ (step (some _) b).1 ++ decoder.runFrom (step (some _) b).2 bytes at h
      by_cases hb : within low high b = true
      · obtain ⟨hlow, hhigh⟩ := within_iff.mp hb
        have hlow' := Nat.le_trans hp.low hlow
        have hhigh' := Nat.le_trans hhigh hp.high
        obtain ⟨htail, hshift⟩ := tail_of_bounded hlow' hhigh' bits
        rw [step, if_pos hb] at h
        cases k with
        | zero =>
          refine ⟨bits * 64 + (b.toNat - 0x80), bytes, ⟨by simp, hshift.symm, ?_⟩, ?_⟩
          · exact (congrArg _ htail).trans hb
          · exact congrArg (· :: bytes) htail.symm
        | succ k =>
          rw [if_neg (by simp)] at h
          obtain ⟨n, rest, hawaits, rfl⟩ := ih 0x80 0xBF _ (isBounded_further k _) h
          have hbits : bits * 64 + (b.toNat - 0x80) = shifted n (k + 1) := hawaits.bits
          rw [hbits] at htail hshift
          refine ⟨n, rest, ⟨by simp, hshift.symm, ?_⟩, ?_⟩
          · exact (congrArg _ htail).trans hb
          · exact congrArg (· :: (tails n (k + 1) ++ rest)) htail.symm
      · rw [step, if_neg hb] at h
        exact absurd List.mem_cons_self h

/-- The bounds of the second byte, behind a first byte that may open a longer spelling or a surrogate. -/
theorem within_second {b first last low high : UInt8} {n : Nat} :
    within (if b = first then low else 0x80) (if b = last then high else 0xBF) (tail n) = true ↔
      (b = first → low.toNat ≤ 0x80 + n % 64) ∧ (b = last → 0x80 + n % 64 ≤ high.toNat) := by
  have hlow : (0x80 : UInt8).toNat = 128 := rfl
  have hhigh : (0xBF : UInt8).toNat = 191 := rfl
  rw [within_iff, toNat_tail]
  split <;> split <;> simp_all <;> omega

/-- What a first byte opens: a sequence of two, three or four bytes. -/
theorem opened?_eq_some_iff {b : UInt8} {p : Pending} :
    opened? b = some p ↔
      (0xC2 ≤ b.toNat ∧ b.toNat ≤ 0xDF) ∧ p = ⟨1, 0x80, 0xBF, b.toNat - 0xC0⟩ ∨
      (0xE0 ≤ b.toNat ∧ b.toNat ≤ 0xEF) ∧
        p = ⟨2, if b = 0xE0 then 0xA0 else 0x80, if b = 0xED then 0x9F else 0xBF, b.toNat - 0xE0⟩ ∨
      (0xF0 ≤ b.toNat ∧ b.toNat ≤ 0xF4) ∧
        p = ⟨3, if b = 0xF0 then 0x90 else 0x80, if b = 0xF4 then 0x8F else 0xBF, b.toNat - 0xF0⟩ := by
  have htwo : within 0xC2 0xDF b = true ↔ 0xC2 ≤ b.toNat ∧ b.toNat ≤ 0xDF := within_iff
  have hthree : within 0xE0 0xEF b = true ↔ 0xE0 ≤ b.toNat ∧ b.toNat ≤ 0xEF := within_iff
  have hfour : within 0xF0 0xF4 b = true ↔ 0xF0 ≤ b.toNat ∧ b.toNat ≤ 0xF4 := within_iff
  simp only [opened?, htwo, hthree, hfour]
  by_cases h₂ : 0xC2 ≤ b.toNat ∧ b.toNat ≤ 0xDF
  · rw [if_pos h₂, Option.some.injEq]
    refine ⟨fun h => .inl ⟨h₂, h.symm⟩, ?_⟩
    rintro (⟨-, rfl⟩ | ⟨h₃, -⟩ | ⟨h₄, -⟩)
    · rfl
    · omega
    · omega
  rw [if_neg h₂]
  by_cases h₃ : 0xE0 ≤ b.toNat ∧ b.toNat ≤ 0xEF
  · rw [if_pos h₃, Option.some.injEq]
    refine ⟨fun h => .inr (.inl ⟨h₃, h.symm⟩), ?_⟩
    rintro (⟨h₂', -⟩ | ⟨-, rfl⟩ | ⟨h₄, -⟩)
    · exact absurd h₂' h₂
    · rfl
    · omega
  rw [if_neg h₃]
  by_cases h₄ : 0xF0 ≤ b.toNat ∧ b.toNat ≤ 0xF4
  · rw [if_pos h₄, Option.some.injEq]
    refine ⟨fun h => .inr (.inr ⟨h₄, h.symm⟩), ?_⟩
    rintro (⟨h₂', -⟩ | ⟨h₃', -⟩ | ⟨-, rfl⟩)
    · exact absurd h₂' h₂
    · exact absurd h₃' h₃
    · rfl
  · rw [if_neg h₄]
    simp only [h₂, h₃, h₄, false_and, or_self, reduceCtorEq]

theorem Pending.isBounded_of_opened? {b : UInt8} {p : Pending} (h : opened? b = some p) : p.IsBounded := by
  have hall : ∀ b : UInt8, ∀ p ∈ opened? b, 1 ≤ p.needed ∧ 0x80 ≤ p.low.toNat ∧ p.high.toNat ≤ 0xBF :=
    forall_byte (by decide +kernel)
  obtain ⟨hneeded, hlow, hhigh⟩ := hall b p h
  exact ⟨hneeded, hlow, hhigh⟩

private theorem ofNat_eq_iff {b : UInt8} {n : Nat} (h : n < 256) : UInt8.ofNat n = b ↔ n = b.toNat := by
  rw [← UInt8.toNat_inj, UInt8.toNat_ofNat_of_lt' h]

/-- A character beyond ASCII is written as the byte that opens its sequence and the bytes awaited then. -/
theorem encodeChar_of_awaits {b : UInt8} {p : Pending} {c : Char} (hopened : opened? b = some p)
    (h : p.Awaits c.toNat) : encodeChar c = b :: tails c.toNat p.needed := by
  obtain ⟨-, hbits, hnext⟩ := h
  have hsize := b.toNat_lt
  rw [opened?_eq_some_iff] at hopened
  rw [encodeChar]
  rcases hopened with ⟨hb, rfl⟩ | ⟨hb, rfl⟩ | ⟨hb, rfl⟩
  · simp only [shifted] at hbits
    rw [if_neg (by omega), if_pos (by omega), (ofNat_eq_iff (by omega)).mpr (by omega : _ = b.toNat)]
    rfl
  · simp only [shifted] at hbits
    have hlow : b = 0xE0 → 0xA0 ≤ 0x80 + c.toNat / 64 % 64 := (within_second.mp hnext).1
    have hleast : 0x800 ≤ c.toNat := by
      by_cases hlead : b = 0xE0
      · have hspelled := hlow hlead
        omega
      · have hne : b.toNat ≠ 0xE0 := fun h => hlead (UInt8.toNat_inj.mp h)
        omega
    rw [if_neg (by omega), if_neg (by omega), if_pos (by omega),
      (ofNat_eq_iff (by omega)).mpr (by omega : _ = b.toNat)]
    rfl
  · simp only [shifted] at hbits
    have hlow : b = 0xF0 → 0x90 ≤ 0x80 + c.toNat / 64 / 64 % 64 := (within_second.mp hnext).1
    have hleast : 0x10000 ≤ c.toNat := by
      by_cases hlead : b = 0xF0
      · have hspelled := hlow hlead
        omega
      · have hne : b.toNat ≠ 0xF0 := fun h => hlead (UInt8.toNat_inj.mp h)
        omega
    rw [if_neg (by omega), if_neg (by omega), if_neg (by omega),
      (ofNat_eq_iff (by omega)).mpr (by omega : _ = b.toNat), ← Nat.div_div_eq_div_mul c.toNat 64 64]
    rfl

theorem exists_opened? {c : Char} (h : 0x80 ≤ c.toNat) : ∃ b p, opened? b = some p ∧ p.Awaits c.toNat := by
  have hvalid : c.toNat < 0xD800 ∨ 0xDFFF < c.toNat ∧ c.toNat < 0x110000 := c.valid
  have hbyte (m : Nat) (hm : m < 256) : ∃ b : UInt8, b.toNat = m :=
    ⟨UInt8.ofNat m, UInt8.toNat_ofNat_of_lt' hm⟩
  by_cases h₂ : c.toNat < 0x800
  · obtain ⟨b, hb⟩ := hbyte (0xC0 + c.toNat / 64) (by omega)
    refine ⟨b, _, opened?_eq_some_iff.mpr (.inl ⟨by omega, rfl⟩), by simp, ?_, within_tail _⟩
    simp only [shifted]
    omega
  by_cases h₃ : c.toNat < 0x10000
  · obtain ⟨b, hb⟩ := hbyte (0xE0 + c.toNat / 64 / 64) (by omega)
    refine ⟨b, _, opened?_eq_some_iff.mpr (.inr (.inl ⟨by omega, rfl⟩)), by simp, ?_, ?_⟩
    · simp only [shifted]
      omega
    · -- the bounds leave out what two bytes can spell, and the surrogates
      refine within_second.mpr ⟨?_, ?_⟩
      · rintro rfl
        change 160 ≤ 128 + c.toNat / 64 % 64
        have hlead : (224 : Nat) = 0xE0 + c.toNat / 64 / 64 := hb
        omega
      · rintro rfl
        change 128 + c.toNat / 64 % 64 ≤ 159
        have hlead : (237 : Nat) = 0xE0 + c.toNat / 64 / 64 := hb
        omega
  · obtain ⟨b, hb⟩ := hbyte (0xF0 + c.toNat / 64 / 64 / 64) (by omega)
    refine ⟨b, _, opened?_eq_some_iff.mpr (.inr (.inr ⟨by omega, rfl⟩)), by simp, ?_, ?_⟩
    · simp only [shifted]
      omega
    · -- the bounds leave out what three bytes can spell, and what is beyond the last code point
      refine within_second.mpr ⟨?_, ?_⟩
      · rintro rfl
        change 144 ≤ 128 + c.toNat / 64 / 64 % 64
        have hlead : (240 : Nat) = 0xF0 + c.toNat / 64 / 64 / 64 := hb
        omega
      · rintro rfl
        change 128 + c.toNat / 64 / 64 % 64 ≤ 143
        have hlead : (244 : Nat) = 0xF0 + c.toNat / 64 / 64 / 64 := hb
        omega

theorem scalar?_eq_some_iff {n : Nat} {c : Char} : scalar? n = some c ↔ c.toNat = n := by
  by_cases hvalid : n.isValidChar
  · have hn : (Char.ofNatAux n hvalid).toNat = n := rfl
    rw [scalar?, dif_pos hvalid, Option.some.injEq]
    constructor
    · rintro rfl
      exact hn
    · intro hc
      exact Char.toNat_inj.mp (hn.trans hc.symm)
  · rw [scalar?, dif_neg hvalid]
    refine iff_of_false (by simp) ?_
    rintro rfl
    exact hvalid c.valid

theorem encodeChar_asciiChar {b : UInt8} (h : isAscii b = true) : encodeChar (asciiChar b) = [b] := by
  simp only [encodeChar, toNat_asciiChar h, if_pos (isAscii_iff.mp h), UInt8.ofNat_toNat]

theorem first_of_isAscii {b : UInt8} (h : isAscii b = true) : first b = ([some (asciiChar b)], none) := by
  rw [first, if_pos h]

theorem first_of_opened? {b : UInt8} {p : Pending} (h : opened? b = some p) : first b = ([], some p) := by
  have hbeyond : ¬ isAscii b = true := by
    rw [isAscii_iff]
    rcases opened?_eq_some_iff.mp h with ⟨hb, -⟩ | ⟨hb, -⟩ | ⟨hb, -⟩
    · omega
    · omega
    · omega
  rw [first, if_neg hbeyond, h]

theorem runFrom_encodeChar (c : Char) (rest : List UInt8) :
    decoder.runFrom none (encodeChar c ++ rest) = some c :: decoder.runFrom none rest := by
  by_cases hc : c.toNat < 0x80
  · obtain ⟨b, hb, rfl⟩ := exists_asciiChar hc
    rw [encodeChar_asciiChar hb]
    change (first b).1 ++ decoder.runFrom (first b).2 rest = _
    rw [first_of_isAscii hb]
    rfl
  · obtain ⟨b, p, hopened, hawaits⟩ := exists_opened? (Nat.not_lt.mp hc)
    rw [encodeChar_of_awaits hopened hawaits]
    change (first b).1 ++ decoder.runFrom (first b).2 (tails c.toNat p.needed ++ rest) = _
    rw [first_of_opened? hopened, ← scalar?_eq_some_iff.mpr rfl, ← hawaits.runFrom]
    rfl

theorem encode_cons (c : Char) (s : List Char) : encode (c :: s) = encodeChar c ++ encode s :=
  List.flatMap_cons

theorem run_encode (s : List Char) : decoder.run (encode s) = s.map some := by
  induction s with
  | nil => rfl
  | cons c s ih =>
    rw [encode_cons, List.map_cons, ← ih]
    exact runFrom_encodeChar c (encode s)

theorem exists_eq_encode {bytes : List UInt8} (h : none ∉ decoder.run bytes) : ∃ s, bytes = encode s := by
  induction hlength : bytes.length using Nat.strongRecOn generalizing bytes with
  | _ length ih =>
    cases bytes with
    | nil => exact ⟨[], rfl⟩
    | cons b bytes =>
      change none ∉ (first b).1 ++ decoder.runFrom (first b).2 bytes at h
      rw [List.length_cons] at hlength
      by_cases hb : isAscii b = true
      · rw [first_of_isAscii hb] at h
        obtain ⟨s, rfl⟩ := ih bytes.length (by omega) (fun hrest => h (List.mem_append_right _ hrest)) rfl
        refine ⟨asciiChar b :: s, ?_⟩
        rw [encode_cons, encodeChar_asciiChar hb]
        rfl
      · cases hopened : opened? b with
        | none =>
          rw [first, if_neg hb, hopened] at h
          exact absurd List.mem_cons_self h
        | some p =>
          rw [first_of_opened? hopened] at h
          obtain ⟨n, rest, hawaits, rfl⟩ := (Pending.isBounded_of_opened? hopened).exists_awaits h
          rw [List.nil_append, hawaits.runFrom, List.mem_cons, not_or] at h
          obtain ⟨c, hc⟩ := Option.ne_none_iff_exists'.mp (Ne.symm h.1)
          obtain rfl := scalar?_eq_some_iff.mp hc
          rw [List.length_append] at hlength
          obtain ⟨s, rfl⟩ := ih rest.length (by omega) h.2 rfl
          refine ⟨c :: s, ?_⟩
          rw [encode_cons, encodeChar_of_awaits hopened hawaits]
          rfl

/-- The decoder accepts just the bytes that the encoder writes. -/
theorem decode?_eq_some_iff {bytes : List UInt8} {s : List Char} : decode? bytes = some s ↔ bytes = encode s := by
  rw [decode?, mapM_id_eq_some_iff]
  constructor
  · intro h
    have hwell : none ∉ decoder.run bytes := by simp [h]
    obtain ⟨s', rfl⟩ := exists_eq_encode hwell
    rw [run_encode] at h
    rw [(List.map_inj_right fun _ _ => Option.some.inj).mp h]
  · rintro rfl
    exact run_encode s

theorem decode?_encode (s : List Char) : decode? (encode s) = some s := decode?_eq_some_iff.mpr rfl

theorem encodeChar_eq (c : Char) : encodeChar c = String.utf8EncodeChar c := by
  have hval : c.val.toNat = c.toNat := rfl
  have hvalid : c.toNat < 0xD800 ∨ 0xDFFF < c.toNat ∧ c.toNat < 0x110000 := c.valid
  have h₁ : c.toNat < 0x80 ↔ c.toNat ≤ 127 := Nat.lt_succ_iff
  have h₂ : c.toNat < 0x800 ↔ c.toNat ≤ 2047 := Nat.lt_succ_iff
  have h₃ : c.toNat < 0x10000 ↔ c.toNat ≤ 65535 := Nat.lt_succ_iff
  simp only [encodeChar, String.utf8EncodeChar, hval, tail, h₁, h₂, h₃, Nat.add_comm 0x80]
  split
  · rfl
  split
  · rw [show 0xC0 + c.toNat / 64 = c.toNat / 64 % 32 + 192 by omega]
  split
  · rw [show 0xE0 + c.toNat / 4096 = c.toNat / 4096 % 16 + 224 by omega]
  · rw [show 0xF0 + c.toNat / 262144 = c.toNat / 262144 % 8 + 240 by omega]

theorem toByteArray_encode (s : List Char) : (encode s).toByteArray = s.utf8Encode := by
  rw [encode, funext encodeChar_eq]
  rfl

theorem encode_toList (s : String) : encode s.toList = s.toUTF8.data.toList := by
  rw [String.toUTF8, ← String.utf8Encode_toList, ← toByteArray_encode, List.toList_data_toByteArray]

theorem decode?_eq_none_iff {bytes : List UInt8} :
    decode? bytes = none ↔ ¬ bytes.toByteArray.IsValidUTF8 := by
  constructor
  · rintro hnone ⟨s, hs⟩
    rw [← toByteArray_encode] at hs
    have hbytes : bytes = encode s := by
      rw [← List.toList_data_toByteArray (l := bytes), hs, List.toList_data_toByteArray]
    rw [hbytes, decode?_encode] at hnone
    cases hnone
  · intro hinvalid
    cases hdecode : decode? bytes with
    | none => rfl
    | some s =>
      refine absurd ⟨s, ?_⟩ hinvalid
      rw [decode?_eq_some_iff.mp hdecode, toByteArray_encode]

end Xbase.Charset.Utf8
