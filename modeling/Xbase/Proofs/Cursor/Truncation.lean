import Mathlib.Data.List.DropRight
import Xbase.Number.Decimal96
import Xbase.Proofs.Cursor.Step
import Xbase.Proofs.Table.Run
/-!
# Cursors over tables that break off

A table may declare more records than are there. A cursor over such a table goes through the matches among
the records that are there, and then fails: as records are still to be read, it never comes to an end, and
a match on the last record that is there is not the last one.
-/
namespace Xbase

open Table (Reader recordRow)
open RowSource (remaining)

namespace Table.Reader

variable {r q : Reader} {bytes : List UInt8} {condition : Option Query.Comparison} {k : Nat}

def rowAt (r : Reader) (bytes : List UInt8) (k : Nat) : Row :=
  recordRow r.schema (r.header.recordAt bytes k)

/-- The records from the one numbered `k` on that are there and satisfy a condition, counted from 0. -/
def matchesFrom (r : Reader) (bytes : List UInt8) (condition : Option Query.Comparison) (k : Nat) :
    List Nat :=
  (List.range' k (r.header.presentCount bytes - k)).filter fun i =>
    Query.satisfies condition (r.rowAt bytes i) = .ok true

theorem matchesFrom_presentCount : r.matchesFrom bytes condition (r.header.presentCount bytes) = [] := by
  rw [matchesFrom, Nat.sub_self]
  rfl

theorem matchesFrom_of_lt (hk : k < r.header.presentCount bytes) :
    r.matchesFrom bytes condition k =
      if Query.satisfies condition (r.rowAt bytes k) = .ok true then
        k :: r.matchesFrom bytes condition (k + 1)
      else r.matchesFrom bytes condition (k + 1) := by
  have hsub : r.header.presentCount bytes - k = r.header.presentCount bytes - (k + 1) + 1 := by omega
  rw [matchesFrom, hsub, List.range'_succ, List.filter_cons]
  simp only [decide_eq_true_eq]
  rfl

/-- Whether a condition can be decided on every record that is there. -/
def Decides (r : Reader) (bytes : List UInt8) (condition : Option Query.Comparison) : Prop :=
  ∀ i < r.header.presentCount bytes, ∃ found, Query.satisfies condition (r.rowAt bytes i) = .ok found

/-- Reading up to a match comes to the next match, or else to the error behind the records that are there. -/
theorem scan_of_hasRead (hover : r.IsOver bytes) (hdecides : r.Decides bytes condition) {n : Nat}
    (hk : k ≤ r.header.presentCount bytes) (hn : r.header.presentCount bytes < k + n)
    (hread : r.HasRead bytes k q) :
    match r.matchesFrom bytes condition k with
    | [] => ∃ q', Cursor.scan condition n q = (.error (r.endError bytes), q') ∧
        r.HasRead bytes (r.header.presentCount bytes) q'
    | i :: rest => Cursor.scan condition n q = (.ok (some (r.rowAt bytes i)), r.behind bytes (i + 1)) ∧
        i < r.header.presentCount bytes ∧ r.matchesFrom bytes condition (i + 1) = rest := by
  induction n generalizing k q with
  | zero => omega
  | succ n ih =>
    rcases Nat.lt_or_eq_of_le hk with hlt | rfl
    · obtain ⟨found, hfound⟩ := hdecides k hlt
      have hstep := hread.read_of_lt hover hlt
      change RowSource.read q = (.ok (r.rowAt bytes k), _) at hstep
      rw [matchesFrom_of_lt hlt, hfound, Cursor.scan, hstep]
      simp only [hfound]
      cases found with
      | true => exact ⟨rfl, hlt, rfl⟩
      | false => exact ih hlt (by omega) (.inl rfl)
    · obtain ⟨q', hstep, hq'⟩ := hread.read_of_eq hover
      change RowSource.read q = _ at hstep
      rw [matchesFrom_presentCount, Cursor.scan, hstep]
      exact ⟨q', rfl, hq'⟩

end Table.Reader

namespace Cursor

variable {r : Reader} {bytes : List UInt8} {c : Cursor Reader} {left : List Nat}

/-- A cursor over a table that is not behind the last row and has the given matches left. -/
structure HasLeft (c : Cursor Reader) (r : Reader) (bytes : List UInt8) (left : List Nat) : Prop where
  phase : c.phase ≠ .exhausted
  matchesFrom : ∃ k ≤ r.header.presentCount bytes, r.HasRead bytes k c.source ∧
    r.matchesFrom bytes c.condition k = left

/-- What a call of `next` does: it goes to a match, or it fails at the first record that is not there and
leaves everything but the source as it is. -/
def Advances (c : Cursor Reader) (r : Reader) (bytes : List UInt8) : Option Nat → Prop
  | some i => ∃ q, q.rowNumber = i + 1 ∧
    c.next = (.ok true, { c with source := q, phase := .onRow, current := some (r.rowAt bytes i) })
  | none => ∃ q, c.next =
    (.error (.invalidFormat r.identity
      (.truncatedRecord (r.header.presentCount bytes + 1) r.header.recordCount)), { c with source := q })

private theorem HasLeft.next (hover : r.IsOver bytes) (hbreak : r.header.presentCount bytes < r.header.recordCount)
    (hdecides : r.Decides bytes c.condition) (hopen : c.isClosed = false) (h : c.HasLeft r bytes left) :
    c.Advances r bytes left.head? ∧ c.next.2.HasLeft r bytes left.tail := by
  obtain ⟨hphase, k, hk, hread, hleft⟩ := h
  have hremaining {q : Reader} {j : Nat} (hj : j ≤ r.header.presentCount bytes)
      (hq : r.HasRead bytes j q) : remaining q = r.header.recordCount - j := by
    change q.header.recordCount - q.rowNumber = _
    rw [hq.header, hq.rowNumber]
  have hscan := Table.Reader.scan_of_hasRead hover hdecides (n := r.header.recordCount - k) hk
    (by omega) hread
  have hrem : remaining c.source ≠ 0 := by
    rw [hremaining hk hread]
    omega
  have hnext := next_of_scan hopen hphase hrem
  rw [hremaining hk hread] at hnext
  rw [hleft] at hscan
  cases left with
  | nil =>
    obtain ⟨q, hq, hend⟩ := hscan
    rw [hq, Table.Reader.endError, if_neg (Nat.ne_of_lt hbreak)] at hnext
    refine ⟨⟨q, hnext⟩, ?_⟩
    rw [hnext]
    exact ⟨hphase, _, Nat.le_refl _, hend, Table.Reader.matchesFrom_presentCount⟩
  | cons i rest =>
    obtain ⟨hq, hi, hrest⟩ := hscan
    have hbehind : r.HasRead bytes (i + 1) (r.behind bytes (i + 1)) := .inl rfl
    have hcounts : counts c.boundary (r.behind bytes (i + 1)) = true := by
      unfold counts
      split
      · rfl
      · rw [hremaining hi hbehind]
        exact decide_eq_true (by omega)
    rw [hq] at hnext
    simp only [Option.filter_some, hcounts, if_true] at hnext
    have hphase' : Phase.onRow ≠ .exhausted := by decide
    refine ⟨⟨_, rfl, hnext⟩, ?_⟩
    rw [hnext]
    exact ⟨hphase', _, hi, hbehind, hrest⟩

section Runs

variable [Number.DecimalArithmetic]

theorem HasLeft.perform {op : Operation} (hop : op ≠ .next) (h : c.HasLeft r bytes left) :
    (c.perform op).2.HasLeft r bytes left := by
  cases op with
  | next => exact absurd rfl hop
  | get g column =>
    change (c.get g column).2.HasLeft r bytes left
    obtain ⟨wasNull, hget⟩ := get_snd (c := c) g column
    rw [hget]
    exact ⟨h.phase, h.matchesFrom⟩
  | close => exact ⟨h.phase, h.matchesFrom⟩
  | closeOwner i => exact ⟨h.phase, h.matchesFrom⟩

private theorem HasLeft.after (hover : r.IsOver bytes)
    (hbreak : r.header.presentCount bytes < r.header.recordCount)
    (hdecides : r.Decides bytes c.condition) {ops : List Operation}
    (hopen : (c.after ops).isClosed = false) (h : c.HasLeft r bytes left) :
    (c.after ops).HasLeft r bytes (left.drop (ops.count .next)) := by
  induction ops generalizing c left with
  | nil => exact h
  | cons op ops ih =>
    have hcondition : r.Decides bytes (c.perform op).2.condition := by
      rwa [(perform_sameQuery op).condition]
    change ((c.perform op).2.after ops).HasLeft r bytes _
    by_cases hop : op = .next
    · subst hop
      rw [List.count_cons_self, ← List.drop_tail]
      exact ih hcondition hopen (h.next hover hbreak hdecides (isClosed_of_after hopen)).2
    · rw [List.count_cons_of_ne hop]
      exact ih hcondition hopen (h.perform hop)

/-- In a run of a cursor over a table that breaks off, under either boundary, each call of `next` goes to the
next match among the records that are there, in order and to each once. Every call after the last match fails at
the first record that is not there and moves nothing; no call ever says that there are no more rows. -/
theorem next_after_of_breaksOff {naming : Reader.Naming} {sql : String} {boundary : Boundary} {owners : Nat}
    (h : Reader.ofBytes naming bytes = .ok r)
    (hbreak : r.header.presentCount bytes < r.header.recordCount)
    (hc : ofQuery r sql boundary owners = .ok c) (hdecides : r.Decides bytes c.condition)
    (ops : List Operation) (hopen : (c.after ops).isClosed = false) :
    (c.after ops).Advances r bytes (r.matchesFrom bytes c.condition 0)[ops.count .next]? ∧
      (c.after ops).next.1 ≠ .ok false ∧
      ∀ sql identity, (c.after ops).next.1 ≠ .error (.noResult sql identity) := by
  obtain ⟨hover, hstart⟩ := Table.Reader.isOver_of_ofBytes h
  have hleft : c.HasLeft r bytes (r.matchesFrom bytes c.condition 0) := by
    obtain ⟨statement, -, rfl⟩ := ofQuery_eq_ok_iff.mp hc
    exact ⟨nofun, 0, Nat.zero_le _, .inl hstart, rfl⟩
  have hdecides' : r.Decides bytes (c.after ops).condition := by
    rwa [(after_sameQuery ops).condition]
  have hadvances := ((hleft.after hover hbreak hdecides hopen).next hover hbreak hdecides' hopen).1
  rw [List.head?_drop] at hadvances
  refine ⟨hadvances, ?_⟩
  cases hstop : (r.matchesFrom bytes c.condition 0)[ops.count .next]? with
  | some i =>
    rw [hstop] at hadvances
    obtain ⟨q, -, hnext⟩ := hadvances
    rw [hnext]
    exact ⟨nofun, nofun⟩
  | none =>
    rw [hstop] at hadvances
    obtain ⟨q, hnext⟩ := hadvances
    rw [hnext]
    exact ⟨nofun, nofun⟩

end Runs

/-- The match on the last record that is there counts under the legacy boundary too. -/
theorem next_after_of_breaksOff_cutTable :
    ∃ c, Reader.ofBytes ⟨"t", "t", none, none⟩ Reader.cutTable = .ok Reader.cutReader ∧
      Reader.cutReader.header.presentCount Reader.cutTable < Reader.cutReader.header.recordCount ∧
      ofQuery Reader.cutReader "SELECT * FROM t WHERE A = 'x'" .legacy 0 = .ok c ∧
      Reader.cutReader.Decides Reader.cutTable c.condition ∧
      (c.after [.next]).isClosed = false ∧
      c.next.1 = .ok true ∧
      (c.after [.next]).next.1 = .error (.invalidFormat "t" (.truncatedRecord 2 2)) := by
  have hprepare : Query.prepare "SELECT * FROM t WHERE A = 'x'" Reader.cutReader.schema =
      .ok ⟨.all, "t", some ⟨"A", .eq, .string "x"⟩⟩ := by
    decide +kernel
  have hc : ofQuery Reader.cutReader "SELECT * FROM t WHERE A = 'x'" .legacy 0 = .ok _ :=
    ofQuery_eq_ok_iff.mpr ⟨_, hprepare, rfl⟩
  have hbreak : Reader.cutReader.header.presentCount Reader.cutTable <
      Reader.cutReader.header.recordCount := by
    decide
  have hmatch : Query.satisfies (some ⟨"A", .eq, .string "x"⟩)
      (Reader.cutReader.rowAt Reader.cutTable 0) = .ok true := by
    decide +kernel
  have hdecides : Reader.cutReader.Decides Reader.cutTable (some ⟨"A", .eq, .string "x"⟩) := by
    intro i hi
    have hpresent : Reader.cutReader.header.presentCount Reader.cutTable = 1 := by decide
    obtain rfl : i = 0 := by omega
    exact ⟨true, hmatch⟩
  have hmatches : Reader.cutReader.matchesFrom Reader.cutTable (some ⟨"A", .eq, .string "x"⟩) 0 = [0] := by
    decide +kernel
  obtain ⟨hfirst, -⟩ := next_after_of_breaksOff Table.Reader.ofBytes_cutTable hbreak hc hdecides [] rfl
  obtain ⟨hsecond, -⟩ := next_after_of_breaksOff Table.Reader.ofBytes_cutTable hbreak hc hdecides [.next]
    (by decide +kernel)
  rw [hmatches] at hfirst hsecond
  obtain ⟨q, -, hq⟩ := hfirst
  obtain ⟨q', hq'⟩ := hsecond
  refine ⟨_, Table.Reader.ofBytes_cutTable, hbreak, hc, hdecides, by decide +kernel, ?_, ?_⟩
  · exact congrArg Prod.fst hq
  · exact congrArg Prod.fst hq'

end Cursor

end Xbase
