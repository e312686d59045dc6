import Mathlib.Data.List.DropRight
import Xbase.Number.Decimal96
import Xbase.Proofs.Cursor.Step
import Xbase.Proofs.Source
/-!
# Walks over the rows in memory

A walk stops at every row that satisfies the condition and at every row that cannot be compared, and behind
the last row if it has passed rows since the last stop. The calls of `next` on a cursor make these stops
one after the other, and then there is nothing left to read.
-/
namespace Xbase

/-- A place where a walk over rows stops, with the number of rows read: at a row that satisfies the condition, at an
error of comparing, or behind the last row, where there is nothing. -/
structure Stop where
  number : Nat
  outcome : Except Error (Option Row)
deriving DecidableEq

namespace Stop

/-- The stop at the row of a number. The walk passes a row that does not satisfy the condition. -/
def at? (condition : Option Query.Comparison) (number : Nat) (row : Row) : Option Stop :=
  match Query.satisfies condition row with
  | .ok true => some ⟨number, .ok (some row)⟩
  | .ok false => none
  | .error e => some ⟨number, .error e⟩

/-- What a call of `next` that makes the stop returns, and where it leaves the cursor. -/
def land (stop : Stop) (c : Cursor MemorySource) : Except Error Bool × Cursor MemorySource :=
  let c := { c with source := { c.source with position := stop.number } }
  match stop.outcome with
  | .ok (some row) => (.ok true, { c with phase := .onRow, current := some row })
  | .ok none => (.ok false, { c with phase := .exhausted, current := none })
  | .error e => (.error e, c)

end Stop

/-- Whether a walk passes a row, which does not satisfy the condition then. -/
def passes (condition : Option Query.Comparison) (row : Row) : Bool :=
  match Query.satisfies condition row with
  | .ok false => true
  | _ => false

/-- The stop behind rows, if there are rows at the end that the walk passes. -/
def Stop.behind? (condition : Option Query.Comparison) (before : Nat) (rows : List Row) : Option Stop :=
  if rows.rtakeWhile (passes condition) = [] then none else some ⟨before + rows.length, .ok none⟩

/-- The stops of a walk over rows when a number of rows has been read before. -/
def stops (condition : Option Query.Comparison) (before : Nat) (rows : List Row) : List Stop :=
  (rows.zipIdx (before + 1)).filterMap (fun (row, number) => Stop.at? condition number row) ++
    (Stop.behind? condition before rows).toList

variable {condition : Option Query.Comparison} {before : Nat} {row : Row} {rows : List Row}

theorem Stop.at?_eq_none_iff {number : Nat} :
    Stop.at? condition number row = none ↔ passes condition row = true := by
  unfold Stop.at? passes
  cases Query.satisfies condition row with
  | error e => simp
  | ok found => cases found <;> simp

theorem Stop.behind?_cons (h : rows ≠ []) :
    Stop.behind? condition before (row :: rows) = Stop.behind? condition (before + 1) rows := by
  have hiff : (row :: rows).rtakeWhile (passes condition) = [] ↔
      rows.rtakeWhile (passes condition) = [] := by
    rw [List.rtakeWhile_eq_nil_iff, List.rtakeWhile_eq_nil_iff]
    simp [h, List.getLast_cons h]
  simp only [Stop.behind?, hiff, List.length_cons, Nat.add_right_comm before 1, Nat.add_assoc before]

theorem Stop.behind?_singleton :
    Stop.behind? condition before [row] =
      if passes condition row then some ⟨before + 1, .ok none⟩ else none := by
  cases hp : passes condition row <;> simp [Stop.behind?, List.rtakeWhile, hp]

theorem stops_cons_of_stop {stop : Stop} (h : Stop.at? condition (before + 1) row = some stop) :
    stops condition before (row :: rows) = stop :: stops condition (before + 1) rows := by
  simp only [stops, List.zipIdx_cons, List.filterMap_cons, h, List.cons_append]
  cases rows with
  | nil =>
    have hpass : ¬ passes condition row = true := fun hp => by
      rw [Stop.at?_eq_none_iff.mpr hp] at h
      cases h
    rw [Stop.behind?_singleton, if_neg hpass]
    rfl
  | cons next rows => rw [Stop.behind?_cons (by simp)]

theorem stops_cons_of_pass (h : Stop.at? condition (before + 1) row = none) :
    stops condition before (row :: rows) =
      if rows = [] then [⟨before + 1, .ok none⟩] else stops condition (before + 1) rows := by
  simp only [stops, List.zipIdx_cons, List.filterMap_cons, h]
  cases rows with
  | nil =>
    rw [Stop.behind?_singleton, if_pos (Stop.at?_eq_none_iff.mp h)]
    rfl
  | cons next rows => rw [Stop.behind?_cons (by simp), if_neg (by simp)]

private theorem stops_ne_nil (h : rows ≠ []) : stops condition before rows ≠ [] := by
  induction rows generalizing before with
  | nil => exact absurd rfl h
  | cons row rows ih =>
    cases hat : Stop.at? condition (before + 1) row with
    | some stop => simp [stops_cons_of_stop hat]
    | none =>
      rw [stops_cons_of_pass hat]
      split
      · simp
      · rename_i hne
        exact ih hne

namespace Cursor

/-- Reading from a source in memory ends at the next stop. What is left then are the further stops. -/
theorem scan_memory {s : MemorySource} {rows : List Row} (hrows : s.pending = rows) (hne : rows ≠ []) :
    ∃ stop rest, stops condition s.position rows = stop :: rest ∧
      scan condition rows.length s = (stop.outcome, { s with position := stop.number }) ∧
      (stop.outcome = .ok none → rest = []) ∧
      (stop.outcome ≠ .ok none →
        rest = stops condition stop.number (MemorySource.pending { s with position := stop.number })) := by
  induction rows generalizing s with
  | nil => exact absurd rfl hne
  | cons row rows ih =>
    have hread := MemorySource.read_of_pending hrows
    have hpending := MemorySource.pending_succ hrows
    simp only [List.length_cons, scan, hread]
    cases hs : Query.satisfies condition row with
    | error e =>
      have hat : Stop.at? condition (s.position + 1) row = some ⟨s.position + 1, .error e⟩ := by
        simp [Stop.at?, hs]
      refine ⟨_, _, stops_cons_of_stop hat, rfl, ?_, ?_⟩
      · intro h
        cases h
      · intro _
        rw [hpending]
    | ok found =>
      cases found with
      | true =>
        have hat : Stop.at? condition (s.position + 1) row = some ⟨s.position + 1, .ok (some row)⟩ := by
          simp [Stop.at?, hs]
        refine ⟨_, _, stops_cons_of_stop hat, rfl, ?_, ?_⟩
        · intro h
          cases h
        · intro _
          rw [hpending]
      | false =>
        have hat : Stop.at? condition (s.position + 1) row = none := by
          simp [Stop.at?, hs]
        rw [stops_cons_of_pass hat]
        by_cases hempty : rows = []
        · subst hempty
          exact ⟨_, _, rfl, rfl, fun _ => rfl, fun h => absurd rfl h⟩
        · rw [if_neg hempty]
          exact ih hpending hempty

/-- The stops that a cursor over a source in memory has not made yet. -/
def todo (c : Cursor MemorySource) : List Stop :=
  if c.phase = .exhausted then [] else stops c.condition c.source.position c.source.pending

variable {c : Cursor MemorySource}

theorem next_of_todo_nil (hopen : c.isClosed = false) (h : c.todo = []) :
    c.next = (.error c.noResult, c) := by
  apply next_of_spent hopen
  by_cases hphase : c.phase = .exhausted
  · exact .inl hphase
  · right
    rw [todo, if_neg hphase] at h
    rw [MemorySource.remaining_eq_length, List.length_eq_zero_iff]
    by_contra hne
    exact stops_ne_nil hne h

/-- A call of `next` makes the first stop that has not been made. -/
theorem next_of_todo_cons {stop : Stop} {rest : List Stop} (hopen : c.isClosed = false)
    (hboundary : c.boundary = .includeLast) (h : c.todo = stop :: rest) :
    c.next = stop.land c ∧ c.next.2.todo = rest := by
  have hphase : c.phase ≠ .exhausted := fun hp => by
    rw [todo, if_pos hp] at h
    cases h
  have hne : c.source.pending ≠ [] := fun he => by
    rw [todo, if_neg hphase, he] at h
    cases h
  have hrem : RowSource.remaining c.source ≠ 0 := by
    rw [MemorySource.remaining_eq_length]
    exact fun h0 => hne (List.length_eq_zero_iff.mp h0)
  obtain ⟨stop', rest', hstops, hscan, hnone, hsome⟩ := @scan_memory c.condition _ _ rfl hne
  rw [todo, if_neg hphase, hstops] at h
  obtain ⟨rfl, rfl⟩ := List.cons.inj h
  rw [next_of_scan hopen hphase hrem, MemorySource.remaining_eq_length, hscan]
  obtain ⟨number, outcome⟩ := stop'
  cases outcome with
  | error e =>
    refine ⟨rfl, ?_⟩
    rw [hsome nofun, todo, if_neg hphase]
  | ok found =>
    cases found with
    | none => exact ⟨rfl, (hnone rfl).symm⟩
    | some row =>
      have hcounts : counts c.boundary ({ c.source with position := number } : MemorySource) = true := by
        rw [hboundary]
        rfl
      simp only [Option.filter_some, hcounts]
      refine ⟨rfl, ?_⟩
      rw [hsome nofun]
      rfl

section Runs

variable [Number.DecimalArithmetic]

private theorem todo_perform {op : Operation} (h : op ≠ .next) : (c.perform op).2.todo = c.todo := by
  cases op with
  | next => exact absurd rfl h
  | get g column =>
    change (c.get g column).2.todo = c.todo
    obtain ⟨wasNull, hget⟩ := get_snd (c := c) g column
    rw [hget]
    rfl
  | close => rfl
  | closeOwner i => rfl

/-- Each call of `next` in a run takes one stop off. -/
theorem todo_after {ops : List Operation} (hopen : (c.after ops).isClosed = false)
    (hboundary : c.boundary = .includeLast) :
    (c.after ops).todo = c.todo.drop (ops.count .next) := by
  induction ops generalizing c with
  | nil => rfl
  | cons op ops ih =>
    have hrun := ih (c := (c.perform op).2) hopen ((perform_sameQuery op).boundary.trans hboundary)
    change ((c.perform op).2.after ops).todo = _
    by_cases hop : op = .next
    · subst hop
      have htail : c.next.2.todo = c.todo.tail := by
        cases htodo : c.todo with
        | nil => rw [next_of_todo_nil (isClosed_of_after hopen) htodo]; exact htodo
        | cons stop rest => exact (next_of_todo_cons (isClosed_of_after hopen) hboundary htodo).2
      have hnext : c.next.2.todo.drop (ops.count .next) = c.todo.drop (ops.count .next + 1) := by
        rw [htail, ← List.drop_one, List.drop_drop, Nat.add_comm]
      rw [hrun, List.count_cons_self]
      exact hnext
    · rw [hrun, todo_perform hop, List.count_cons_of_ne hop]

/-- In a run of a cursor over rows in memory that is never closed, each call of `next` makes the next stop of
the walk over the rows. The calls after the last stop find nothing left to read and change nothing. -/
theorem next_after_of_ofQuery {schema : Schema} {records : List (List Value)} {sql : String}
    {owners : Nat} (h : ofQuery (.ofRows schema records) sql .standard owners = .ok c) :
    ∃ statement, Query.prepare sql schema = .ok statement ∧
      ∀ ops, (c.after ops).isClosed = false →
        (c.after ops).next =
          match (stops statement.condition 0 (records.map (Row.ofValues schema)))[ops.count .next]? with
          | some stop => stop.land (c.after ops)
          | none => (.error (.noResult sql schema.table), c.after ops) := by
  obtain ⟨statement, hstatement, hc⟩ := ofQuery_eq_ok_iff.mp h
  refine ⟨statement, hstatement, fun ops hopen => ?_⟩
  have hboundary : c.boundary = .includeLast := by rw [hc]; rfl
  have htodo : (c.after ops).todo =
      (stops statement.condition 0 (records.map (Row.ofValues schema))).drop (ops.count .next) := by
    rw [todo_after hopen hboundary, hc]
    rfl
  have hnone : (c.after ops).noResult = .noResult sql schema.table := by
    rw [noResult, (after_sameQuery ops).sql, (after_sameTable ops).identity, hc]
    rfl
  rw [← List.head?_drop, ← htodo]
  cases hnext : (c.after ops).todo with
  | nil => rw [next_of_todo_nil hopen hnext, hnone]; rfl
  | cons stop rest =>
    exact (next_of_todo_cons hopen ((after_sameQuery ops).boundary.trans hboundary) hnext).1

end Runs

def numberColumn : Schema := ⟨"t", [⟨"N", .numeric, 3, 0⟩], .page .windows1252⟩

def numberRecords : List (List Value) := [[some [0x32]], [some [0x78]], [some [0x33]], [some [0x30]]]

/-- Behind the stops at the first three records, the walk stops once more behind the last. -/
theorem next_after_of_ofQuery_numberRecords :
    ∃ c : Cursor MemorySource,
      ofQuery (.ofRows numberColumn numberRecords) "SELECT * FROM t WHERE N >= 1" .standard 0 = .ok c ∧
      (c.after [.next, .get .text (.name "N"), .next, .next]).isClosed = false ∧
      (c.after [.next, .get .text (.name "N"), .next, .next]).next =
        Stop.land ⟨4, .ok none⟩ (c.after [.next, .get .text (.name "N"), .next, .next]) := by
  have hprepare : Query.prepare "SELECT * FROM t WHERE N >= 1" numberColumn =
      .ok ⟨.all, "t", some ⟨"N", .ge, .integer 1⟩⟩ := by
    decide +kernel
  have hc : ofQuery (MemorySource.ofRows numberColumn numberRecords) "SELECT * FROM t WHERE N >= 1"
      .standard 0 = .ok _ := ofQuery_eq_ok_iff.mpr ⟨_, hprepare, rfl⟩
  refine ⟨_, hc, by decide +kernel, ?_⟩
  obtain ⟨statement, hstatement, hnext⟩ := next_after_of_ofQuery hc
  have hstop : (stops statement.condition 0 (numberRecords.map (Row.ofValues numberColumn)))[
      [Operation.next, .get .text (.name "N"), .next, .next].count .next]? = some ⟨4, .ok none⟩ := by
    rw [← Except.ok.inj (hprepare.symm.trans hstatement)]
    decide +kernel
  rw [hnext _ (by decide +kernel), hstop]

end Cursor

end Xbase
