import Xbase.Number.Decimal96
import Xbase.Proofs.Cursor.Step
import Xbase.Proofs.Row
/-!
# Columns by their position

A getter that is given a position takes the column declared there, and reads the value that the row has under
the name of that column. The two belong together unless a column before it has the same name.
-/
namespace Xbase

open RowSource (schema)

namespace Cursor

private theorem value_index {σ : Type} [RowSource σ] {c : Cursor σ} {values : List Value} {i j : Nat} {field : Field}
    (hfield : (schema c.source).fields[i]? = some field)
    (hpos : (schema c.source).position? field.name = some j) :
    (c.moveTo (.ofValues (schema c.source) values)).value (.index (i + 1)) =
      .ok (field, values[j]?.getD none) := by
  have hresolve : (schema c.source).resolve (.index (i + 1)) = .ok field := by
    rw [Schema.resolve, Schema.fieldAt, Schema.fieldAt?, hfield]
  have hsource : (c.moveTo (.ofValues (schema c.source) values)).source = c.source := rfl
  rw [value, hsource, hresolve]
  simp only [moveTo, Row.get_ofValues hpos]
  rfl

end Cursor

section Getters

variable [Number.DecimalArithmetic]

def Getter.result (g : Getter) (charset : Charset) (field : Field) (value : Value) :
    Except Error (Option Reading) :=
  (g.read charset field value).map (·.or g.ofNull)

theorem Getter.result_text_bytes (charset : Charset) (field : Field) (bytes : List UInt8) :
    Getter.text.result charset field (some bytes) = .ok (some (.text (charset.fieldText bytes).text)) := rfl

theorem Getter.result_text_none (charset : Charset) (field : Field) :
    Getter.text.result charset field none = .ok none := rfl

namespace Cursor

variable {σ : Type} [RowSource σ] {c : Cursor σ}

theorem get_fst (hopen : c.isClosed = false) (g : Getter) (column : ColumnRef) :
    (c.get g column).1 = (c.reading g column).map (·.or g.ofNull) := by
  rw [get_of_open hopen]
  cases c.reading g column with
  | error e => rfl
  | ok r => cases r <;> rfl

variable {values : List Value} {i j : Nat} {field : Field}

private theorem get_index_fst (hopen : c.isClosed = false) (hfield : (schema c.source).fields[i]? = some field)
    (hpos : (schema c.source).position? field.name = some j) (g : Getter) :
    ((c.moveTo (.ofValues (schema c.source) values)).get g (.index (i + 1))).1 =
      g.result (schema c.source).charset field (values[j]?.getD none) := by
  rw [get_fst (c := c.moveTo _) hopen, reading, value_index hfield hpos]
  rfl

/-- On a row of any values, a getter at a position reads the first value under the name of the column there
and takes it for a value of that column. It reads the value at the position itself, whatever the values are,
exactly if no column before has the same name. -/
theorem get_index (hopen : c.isClosed = false) (hi : i < (schema c.source).columnCount) :
    ∃ field j, (schema c.source).fields[i]? = some field ∧
      (schema c.source).position? field.name = some j ∧ j ≤ i ∧
      (∀ values g, ((c.moveTo (.ofValues (schema c.source) values)).get g (.index (i + 1))).1 =
        g.result (schema c.source).charset field (values[j]?.getD none)) ∧
      ((∀ values g, ((c.moveTo (.ofValues (schema c.source) values)).get g (.index (i + 1))).1 =
          g.result (schema c.source).charset field (values[i]?.getD none)) ↔
        ∀ k < i, ∀ other, (schema c.source).fields[k]? = some other → other.name ≠ field.name) := by
  have hfield := List.getElem?_eq_getElem hi
  generalize (schema c.source).fields[i] = field at hfield
  obtain ⟨j, hj, hpos⟩ := Schema.exists_position?_eq_some hfield
  have hget : ∀ values g, ((c.moveTo (.ofValues (schema c.source) values)).get g (.index (i + 1))).1 =
      g.result (schema c.source).charset field (values[j]?.getD none) :=
    fun values g => get_index_fst hopen hfield hpos g
  refine ⟨field, j, hfield, hpos, hj, hget, fun h => ?_, fun h values g => ?_⟩
  · -- a text at the first position of the name and nothing at the position itself tell the two apart
    suffices hji : j = i by
      rw [hji] at hpos
      exact (Schema.position?_eq_some_iff.mp hpos).2
    apply Nat.le_antisymm hj
    apply Nat.not_lt.mp
    intro hlt
    have hread := hget (List.replicate j none ++ [some []]) .text
    have hfirst : (List.replicate j none ++ [some []] : List Value)[j]? = some (some []) := by simp
    have hown : (List.replicate j none ++ [some []] : List Value)[i]? = none := by
      rw [List.getElem?_eq_none]
      simp only [List.length_append, List.length_replicate, List.length_singleton]
      omega
    rw [h, hfirst, hown] at hread
    simp only [Option.getD_some, Option.getD_none, Getter.result_text_bytes,
      Getter.result_text_none] at hread
    cases hread
  · have hpos' : (schema c.source).position? field.name = some i :=
      Schema.position?_eq_some_iff.mpr ⟨⟨field, hfield, rfl⟩, h⟩
    rw [hget, Option.some.inj (hpos.symm.trans hpos')]

end Cursor

end Getters

namespace Cursor

def twoColumns (first second : String) : Schema where
  table := "t"
  fields := [⟨first, .character, 5, 0⟩, ⟨second, .character, 5, 0⟩]
  charset := .page .windows1252

theorem get_index_twoColumns :
    ∃ c : Cursor MemorySource,
      ofQuery (.ofRows (twoColumns "A" "B") []) "SELECT * FROM t" .standard 0 = .ok c ∧
      c.isClosed = false ∧ 1 < (schema c.source).columnCount ∧
      ∀ values g, ((c.moveTo (.ofValues (twoColumns "A" "B") values)).get g (.index 2)).1 =
        g.result (twoColumns "A" "B").charset ⟨"B", .character, 5, 0⟩ (values[1]?.getD none) := by
  have hprepare : Query.prepare "SELECT * FROM t" (twoColumns "A" "B") = .ok ⟨.all, "t", none⟩ := by
    decide +kernel
  refine ⟨_, ofQuery_eq_ok_iff.mpr ⟨_, hprepare, rfl⟩, rfl, by decide, ?_⟩
  let c : Cursor MemorySource := ⟨.ofRows (twoColumns "A" "B") [], "SELECT * FROM t", none, .standard,
    .beforeFirst, none, false, false, []⟩
  obtain ⟨field, j, hfield, -, -, -, hown⟩ := get_index (c := c) (i := 1) rfl (by decide)
  obtain rfl := Option.some.inj hfield
  apply hown.mpr
  intro k hk other hother
  obtain rfl : k = 0 := by omega
  obtain rfl := Option.some.inj hother
  decide

/-- With two columns of one name, a text read at the second position is the value of the first. -/
theorem get_index_twoColumns_same :
    ∃ c : Cursor MemorySource,
      ofQuery (.ofRows (twoColumns "A" "A") [[some [0x78], some [0x79]]]) "SELECT * FROM t" .standard 0 =
        .ok c ∧
      (c.after [.next]).current = some (.ofValues (twoColumns "A" "A") [some [0x78], some [0x79]]) ∧
      ((c.after [.next]).get .text (.index 2)).1 = .ok (some (.text ['x'])) ∧
      Getter.text.result (twoColumns "A" "A").charset ⟨"A", .character, 5, 0⟩ (some [0x79]) =
        .ok (some (.text ['y'])) := by
  have hprepare : Query.prepare "SELECT * FROM t" (twoColumns "A" "A") = .ok ⟨.all, "t", none⟩ := by
    decide +kernel
  refine ⟨_, ofQuery_eq_ok_iff.mpr ⟨_, hprepare, rfl⟩, ?_, ?_, ?_⟩ <;> decide +kernel

end Cursor

end Xbase
