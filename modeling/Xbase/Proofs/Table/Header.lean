import Mathlib.Algebra.Group.Nat.Defs
import Xbase.Table.Layout
/-!
# Numbers and lengths in a header

Numbers of a fixed width survive being written and read, and the lengths in a header that decodes leave room
for a terminator and for a record.
-/
namespace Xbase.Table

private theorem littleEndian_lt (bytes : List UInt8) : littleEndian bytes < 256 ^ bytes.length := by
  induction bytes with
  | nil => decide
  | cons b bytes ih =>
    have hb := b.toNat_lt
    rw [littleEndian, List.length_cons, pow_succ]
    omega

theorem littleEndian_littleEndianBytes {count n : Nat} (h : n < 256 ^ count) :
    littleEndian (littleEndianBytes count n) = n := by
  induction count generalizing n with
  | zero =>
    have hn : n < 1 := h
    rw [littleEndianBytes, littleEndian]
    omega
  | succ count ih =>
    have hdiv : n / 256 < 256 ^ count := by
      rw [pow_succ] at h
      omega
    rw [littleEndianBytes, littleEndian, ih hdiv, UInt8.toNat_ofNat']
    omega

namespace Header

theorem eq_of_decode {bytes : List UInt8} {header : Header} (h : decode bytes = .ok header) :
    header = ofBytes bytes ∧ fixedLength + 1 ≤ header.headerLength ∧ 2 ≤ header.recordLength := by
  simp only [decode] at h
  split at h
  · cases h
  rename_i hheader
  split at h
  · cases h
  rename_i hrecord
  obtain rfl := Except.ok.inj h
  exact ⟨rfl, Nat.not_lt.mp hheader, Nat.not_lt.mp hrecord⟩

theorem recordCount_lt_of_decode {bytes : List UInt8} {header : Header} (h : decode bytes = .ok header) :
    header.recordCount < UInt32.size := by
  have hlength : (slice bytes 4 4).length ≤ 4 := List.length_take_le _ _
  rw [(eq_of_decode h).1]
  calc littleEndian (slice bytes 4 4)
    _ < 256 ^ (slice bytes 4 4).length := littleEndian_lt _
    _ ≤ 256 ^ 4 := Nat.pow_le_pow_right (by decide) hlength

end Header

end Xbase.Table
