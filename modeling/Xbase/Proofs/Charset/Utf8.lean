import Xbase.Charset.FieldText
import Xbase.Proofs.Charset.Ascii
/-!
# ASCII in UTF-8

Only an ASCII byte is read as an ASCII character: a sequence of several bytes stands for a character beyond
ASCII, or it is malformed. So a well-formed text of ASCII characters comes from ASCII bytes.
-/
namespace Xbase.Charset

def IsAsciiSymbol (s : Symbol) : Prop := ∃ c, s = some c ∧ c.toNat < 0x80

private theorem not_isAsciiSymbol_none : ¬ IsAsciiSymbol none := nofun

private theorem not_isAsciiSymbol_scalar? {n : Nat} (h : 0x80 ≤ n) : ¬ IsAsciiSymbol (scalar? n) := by
  rintro ⟨c, hc, hlt⟩
  by_cases hvalid : n.isValidChar
  · rw [scalar?, dif_pos hvalid] at hc
    obtain rfl := Option.some.inj hc
    have hn : (Char.ofNatAux n hvalid).toNat = n := rfl
    omega
  · rw [scalar?, dif_neg hvalid] at hc
    cases hc

theorem within_iff {low high b : UInt8} :
    within low high b = true ↔ low.toNat ≤ b.toNat ∧ b.toNat ≤ high.toNat := by
  simp only [within, Bool.and_eq_true, decide_eq_true_eq, UInt8.le_iff_toNat_le]

namespace Utf8

/-- The least number that the bits of an unfinished sequence and of its next byte can make up. -/
def Pending.least (p : Pending) : Nat := p.bits * 64 + (p.low.toNat - 0x80)

/-- An unfinished sequence that ends beyond ASCII, if it is well formed. -/
private structure Pending.IsLong (p : Pending) : Prop where
  two_le : 2 ≤ p.least
  last : p.needed ≤ 1 → 0x80 ≤ p.least

private theorem Pending.least_le {p : Pending} {b : UInt8} (h : within p.low p.high b = true) :
    p.least ≤ p.bits * 64 + (b.toNat - 0x80) := by
  exact Nat.add_le_add_left (Nat.sub_le_sub_right (within_iff.mp h).1 0x80) _

private theorem Pending.IsLong.next {p : Pending} {b : UInt8} (hp : p.IsLong)
    (h : within p.low p.high b = true) (needed : Nat) :
    Pending.IsLong ⟨needed, 0x80, 0xBF, p.bits * 64 + (b.toNat - 0x80)⟩ := by
  have hbits : 2 ≤ p.bits * 64 + (b.toNat - 0x80) := Nat.le_trans hp.two_le (p.least_le h)
  have hnext : 0x80 ≤ Pending.least ⟨needed, 0x80, 0xBF, p.bits * 64 + (b.toNat - 0x80)⟩ :=
    Nat.le_trans (Nat.mul_le_mul_right 64 hbits) (Nat.le_add_right _ _)
  exact ⟨Nat.le_trans (by decide) hnext, fun _ => hnext⟩

private theorem Pending.isLong_of_opened? {b : UInt8} {p : Pending} (h : opened? b = some p) : p.IsLong := by
  have hall : ∀ b : UInt8, ∀ p ∈ opened? b, 2 ≤ p.least ∧ (p.needed ≤ 1 → 0x80 ≤ p.least) :=
    forall_byte (by decide +kernel)
  obtain ⟨htwo, hlast⟩ := hall b p h
  exact ⟨htwo, hlast⟩

private theorem exists_not_isAsciiSymbol {p : Pending} (hp : p.IsLong) (bytes : List UInt8) :
    ∃ s ∈ decoder.runFrom (some p) bytes, ¬ IsAsciiSymbol s := by
  induction bytes generalizing p with
  | nil => exact ⟨none, List.mem_singleton_self _, not_isAsciiSymbol_none⟩
  | cons b bytes ih =>
    change ∃ s ∈ (step (some p) b).1 ++ decoder.runFrom (step (some p) b).2 bytes, _
    by_cases hb : within p.low p.high b = true
    · rw [step, if_pos hb]
      by_cases hneeded : p.needed ≤ 1
      · simp only [if_pos hneeded]
        have hscalar := Nat.le_trans (hp.last hneeded) (p.least_le hb)
        exact ⟨_, List.mem_cons_self, not_isAsciiSymbol_scalar? hscalar⟩
      · simp only [if_neg hneeded]
        exact ih (hp.next hb _)
    · rw [step, if_neg hb]
      exact ⟨none, List.mem_cons_self, not_isAsciiSymbol_none⟩

theorem isAscii_of_run {bytes : List UInt8} (h : ∀ s ∈ decoder.run bytes, IsAsciiSymbol s) :
    ∀ b ∈ bytes, isAscii b = true := by
  induction bytes with
  | nil => exact nofun
  | cons b bytes ih =>
    change ∀ s ∈ (first b).1 ++ decoder.runFrom (first b).2 bytes, IsAsciiSymbol s at h
    by_cases hb : isAscii b = true
    · rw [first, if_pos hb] at h
      have hrest := ih fun s hs => h s (List.mem_append_right _ hs)
      exact List.forall_mem_cons.mpr ⟨hb, hrest⟩
    · rw [first, if_neg hb] at h
      cases hopened : opened? b with
      | none =>
        rw [hopened] at h
        exact absurd (h none List.mem_cons_self) not_isAsciiSymbol_none
      | some p =>
        rw [hopened] at h
        obtain ⟨s, hs, hnot⟩ := exists_not_isAsciiSymbol (Pending.isLong_of_opened? hopened) bytes
        exact absurd (h s (List.mem_append_right _ hs)) hnot

private theorem mapM_id_cons (symbol : Symbol) (symbols : List Symbol) :
    (symbol :: symbols).mapM id = symbol.bind fun c => (symbols.mapM id).map (c :: ·) := by
  rw [List.mapM_cons]
  cases symbol with
  | none => rfl
  | some c => cases symbols.mapM id <;> rfl

theorem mapM_id_eq_some_iff {symbols : List Symbol} {s : List Char} :
    symbols.mapM id = some s ↔ symbols = s.map some := by
  induction symbols generalizing s with
  | nil => cases s <;> simp
  | cons symbol symbols ih =>
    rw [mapM_id_cons]
    cases symbol with
    | none => cases s <;> simp
    | some c =>
      cases s with
      | nil => simp
      | cons c' s =>
        have hswap := and_comm (a := symbols = s.map some) (b := c = c')
        simp [ih, hswap]

/-- A well-formed text is the one that is read when malformed sequences are marked. -/
theorem run_of_decode? {bytes : List UInt8} {s : List Char} (h : decode? bytes = some s) :
    decoder.run bytes = s.map some :=
  mapM_id_eq_some_iff.mp h

theorem decode_of_decode? {bytes : List UInt8} {s : List Char} (h : decode? bytes = some s) :
    Charset.utf8.decode bytes = s := by
  rw [decode, symbols, run_of_decode? h, symbolText, List.map_map]
  exact List.map_id s

/-- A well-formed text of ASCII characters comes from ASCII bytes. -/
theorem isAscii_of_decode? {bytes : List UInt8} {s : List Char} (h : decode? bytes = some s)
    (hs : ∀ c ∈ s, c.toNat < 0x80) : ∀ b ∈ bytes, isAscii b = true := by
  apply isAscii_of_run
  rw [run_of_decode? h]
  intro symbol hsymbol
  obtain ⟨c, hc, rfl⟩ := List.mem_map.mp hsymbol
  exact ⟨c, rfl, hs c hc⟩

end Utf8

end Xbase.Charset
