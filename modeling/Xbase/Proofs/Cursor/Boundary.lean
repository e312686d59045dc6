import Xbase.Proofs.Cursor.Lifecycle
import Xbase.Proofs.Cursor.Walk
/-!
# The boundary

Under the legacy boundary a cursor does what it does under the standard one, up to the call of `next` that
finds a match in the last row. That call takes the match for the end of the rows instead, and where the last
row is no match, no run tells the two boundaries apart.
-/
namespace Xbase

open RowSource (remaining rowCount)

namespace Stop

variable {condition : Option Query.Comparison} {before number : Nat} {row : Row} {rows : List Row}

/-- The stop that a walk makes at the last of the rows, or behind it. -/
def last (condition : Option Query.Comparison) (number : Nat) (row : Row) : Stop :=
  (at? condition number row).getD ⟨number, .ok none⟩

private theorem last_of_match (h : Query.satisfies condition row = .ok true) :
    last condition number row = ⟨number, .ok (some row)⟩ := by
  rw [last, at?, h]
  rfl

private theorem number_of_at? {stop : Stop} (h : at? condition number row = some stop) : stop.number = number := by
  unfold at? at h
  split at h
  · rw [← Option.some.inj h]
  · cases h
  · rw [← Option.some.inj h]

private theorem satisfies_of_last {found : Row} (h : (last condition number row).outcome = .ok (some found)) :
    Query.satisfies condition row = .ok true := by
  unfold last at? at h
  split at h
  · assumption
  · cases h
  · cases h

end Stop

variable {condition : Option Query.Comparison} {before : Nat} {row : Row} {rows : List Row}

private theorem stops_concat : ∃ front, stops condition before (rows ++ [row]) =
      front ++ [Stop.last condition (before + rows.length + 1) row] ∧
    ∀ stop ∈ front, stop.number ≤ before + rows.length := by
  refine ⟨(rows.zipIdx (before + 1)).filterMap fun p => Stop.at? condition p.2 p.1, ?_, ?_⟩
  · have hnumber : before + 1 + rows.length = before + rows.length + 1 := by omega
    rw [stops, List.zipIdx_append, List.filterMap_append, List.append_assoc, List.zipIdx_singleton, hnumber]
    congr 1
    cases hat : Stop.at? condition (before + rows.length + 1) row with
    | none =>
      rw [Stop.behind?, List.rtakeWhile_concat_pos _ _ _ (Stop.at?_eq_none_iff.mp hat), Stop.last, hat]
      rw [Nat.add_assoc] at hat
      simp [hat, Nat.add_assoc]
    | some stop =>
      have hpass : ¬ passes condition row = true := fun hp => by
        rw [Stop.at?_eq_none_iff.mpr hp] at hat
        cases hat
      rw [Stop.behind?, List.rtakeWhile_concat_neg _ _ _ hpass, Stop.last, hat]
      simp [hat]
  · intro stop hstop
    obtain ⟨⟨other, number⟩, hmem, hat⟩ := List.mem_filterMap.mp hstop
    have hlt := List.snd_lt_of_mem_zipIdx hmem
    have hnumber : stop.number = number := Stop.number_of_at? hat
    omega

private theorem exists_split_of_lt_count {α : Type} [DecidableEq α] {a : α} {k : Nat} {l : List α}
    (h : k < l.count a) : ∃ front back, l = front ++ a :: back ∧ front.count a = k := by
  induction l generalizing k with
  | nil => simp at h
  | cons b l ih =>
    by_cases hb : b = a
    · subst hb
      cases k with
      | zero => exact ⟨[], l, rfl, List.count_nil⟩
      | succ k =>
        rw [List.count_cons_self] at h
        obtain ⟨front, back, rfl, hcount⟩ := ih (Nat.lt_of_succ_lt_succ h)
        exact ⟨b :: front, back, rfl, by rw [List.count_cons_self, hcount]⟩
    · rw [List.count_cons_of_ne hb] at h
      obtain ⟨front, back, rfl, hcount⟩ := ih h
      exact ⟨b :: front, back, rfl, by rw [List.count_cons_of_ne hb, hcount]⟩

namespace Cursor

variable {σ : Type} [RowSource σ] {c : Cursor σ}

def withBoundary (c : Cursor σ) (boundary : Boundary) : Cursor σ := { c with boundary := boundary }

/-- Whether the next call of `next` finds a match behind which there is no row. -/
def FindsLast (c : Cursor σ) : Prop := c.next.1 = .ok true ∧ remaining c.next.2.source = 0

private theorem next_withBoundary (hboundary : c.boundary = .includeLast) :
    (¬ c.FindsLast →
        (c.withBoundary .excludeLast).next = (c.next.1, c.next.2.withBoundary .excludeLast)) ∧
      (c.FindsLast →
        (c.withBoundary .excludeLast).next =
          (.ok false, c.next.2.moveBehind.withBoundary .excludeLast)) := by
  unfold FindsLast
  cases hclosed : c.isClosed with
  | true =>
    have hlegacy : (c.withBoundary .excludeLast).next =
        (.error c.closedError, c.withBoundary .excludeLast) := next_of_isClosed hclosed
    rw [next_of_isClosed hclosed, hlegacy]
    exact ⟨fun _ => rfl, nofun⟩
  | false =>
    by_cases hspent : c.phase = .exhausted ∨ remaining c.source = 0
    · have hlegacy : (c.withBoundary .excludeLast).next =
          (.error c.noResult, c.withBoundary .excludeLast) := next_of_spent hclosed hspent
      rw [next_of_spent hclosed hspent, hlegacy]
      exact ⟨fun _ => rfl, nofun⟩
    obtain ⟨hphase, hrem⟩ := not_or.mp hspent
    have hlegacy := next_of_scan (c := c.withBoundary .excludeLast) hclosed hphase hrem
    have hscan : scan (c.withBoundary .excludeLast).condition (remaining (c.withBoundary .excludeLast).source)
        (c.withBoundary .excludeLast).source = scan c.condition (remaining c.source) c.source := rfl
    rw [next_of_scan hclosed hphase hrem, hlegacy, hscan, hboundary]
    rcases scan c.condition (remaining c.source) c.source with ⟨e | found, s⟩
    · exact ⟨fun _ => rfl, nofun⟩
    cases found with
    | none => exact ⟨fun _ => rfl, nofun⟩
    | some row =>
      have hlegacy : counts (c.withBoundary .excludeLast).boundary s = decide (0 < remaining s) := rfl
      have hstandard : counts .includeLast s = true := rfl
      simp only [Option.filter_some, hlegacy, hstandard, if_true]
      by_cases hlast : remaining s = 0
      · simp only [hlast]
        exact ⟨fun h => absurd ⟨trivial, hlast⟩ h, fun _ => rfl⟩
      · have hleft : decide (0 < remaining s) = true := decide_eq_true (Nat.pos_of_ne_zero hlast)
        simp only [hleft, if_true]
        exact ⟨fun _ => rfl, fun h => absurd h.2 hlast⟩

private theorem remaining_ne_zero_of_next (hboundary : c.boundary = .excludeLast) (h : c.next.1 = .ok true) :
    remaining c.next.2.source ≠ 0 := by
  have hmoves := c.moves_next
  generalize c.next = r at hmoves h
  cases hmoves with
  | refused e => cases h
  | failed => cases h
  | found phase_ne scan_eq counts_eq =>
    rw [hboundary] at counts_eq
    exact Nat.ne_of_gt (of_decide_eq_true counts_eq)
  | ended => cases h

section Memory

variable {c : Cursor MemorySource}

private theorem todo_concat (hphase : c.phase ≠ .exhausted) (hlast : c.source.pending.getLast? = some row) :
    ∃ front, c.todo = front ++ [Stop.last c.condition c.source.rows.length row] ∧
      ∀ stop ∈ front, stop.number < c.source.rows.length := by
  obtain ⟨rows, hpending⟩ := List.getLast?_eq_some_iff.mp hlast
  have hlength : c.source.position + rows.length + 1 = c.source.rows.length := by
    have hcount := congrArg List.length hpending
    simp only [MemorySource.pending, List.length_map, List.length_drop, List.length_append,
      List.length_singleton] at hcount
    omega
  obtain ⟨front, hstops, hfront⟩ := @stops_concat c.condition c.source.position row rows
  refine ⟨front, ?_, fun stop hstop => ?_⟩
  · rw [todo, if_neg hphase, hpending, hstops, hlength]
  · have hle := hfront stop hstop
    omega

private theorem todo_of_findsLast (hboundary : c.boundary = .includeLast) (h : c.FindsLast) :
    c.isClosed = false ∧ ∃ number row rest, c.todo = ⟨number, .ok (some row)⟩ :: rest ∧
      c.source.rows.length ≤ number := by
  obtain ⟨hfound, hrem⟩ := h
  cases hclosed : c.isClosed with
  | true =>
    rw [next_of_isClosed hclosed] at hfound
    cases hfound
  | false =>
    refine ⟨rfl, ?_⟩
    cases htodo : c.todo with
    | nil =>
      rw [next_of_todo_nil hclosed htodo] at hfound
      cases hfound
    | cons stop rest =>
      rw [(next_of_todo_cons hclosed hboundary htodo).1] at hfound hrem
      obtain ⟨number, e | _ | row⟩ := stop
      · cases hfound
      · cases hfound
      · exact ⟨number, row, rest, rfl, Nat.le_of_sub_eq_zero hrem⟩

end Memory

section Runs

variable [Number.DecimalArithmetic]

private theorem perform_withBoundary {op : Operation} (h : op ≠ .next) (boundary : Boundary) :
    (c.withBoundary boundary).perform op = ((c.perform op).1, (c.perform op).2.withBoundary boundary) := by
  cases op with
  | next => exact absurd rfl h
  | get g column =>
    have hget : (c.withBoundary boundary).get g column =
        ((c.get g column).1, (c.get g column).2.withBoundary boundary) := by
      cases hclosed : c.isClosed with
      | true =>
        rw [get_of_isClosed hclosed]
        exact get_of_isClosed (c := c.withBoundary boundary) hclosed g column
      | false =>
        have hreading : (c.withBoundary boundary).reading g column = c.reading g column := rfl
        rw [get_of_open hclosed, get_of_open (c := c.withBoundary boundary) hclosed, hreading]
        rcases c.reading g column with e | _ | r <;> rfl
    rw [perform, hget]
    rfl
  | close => rfl
  | closeOwner i => rfl

/-- Whether a run and the cursor it leaves are the same under the legacy boundary. -/
def IgnoresBoundary (c : Cursor σ) (ops : List Operation) : Prop :=
  (c.withBoundary .excludeLast).run ops = c.run ops ∧
    (c.withBoundary .excludeLast).after ops = (c.after ops).withBoundary .excludeLast

private theorem ignoresBoundary_of_not_findsLast (hboundary : c.boundary = .includeLast) {ops : List Operation}
    (h : ∀ front back, ops = front ++ .next :: back → ¬ (c.after front).FindsLast) :
    c.IgnoresBoundary ops := by
  induction ops generalizing c with
  | nil => exact ⟨rfl, rfl⟩
  | cons op ops ih =>
    have hperform : (c.withBoundary .excludeLast).perform op =
        ((c.perform op).1, (c.perform op).2.withBoundary .excludeLast) := by
      by_cases hop : op = .next
      · subst hop
        rw [perform, (next_withBoundary hboundary).1 (h [] ops rfl)]
        rfl
      · exact perform_withBoundary hop _
    obtain ⟨hrun, hafter⟩ := ih (c := (c.perform op).2) ((perform_sameQuery op).boundary.trans hboundary)
      fun front back hops => h (op :: front) back (by rw [hops]; rfl)
    constructor
    · rw [run, run, hperform, hrun]
      rfl
    · change ((c.withBoundary .excludeLast).perform op).2.after ops = _
      rw [hperform, hafter]
      rfl

section Memory

variable {c : Cursor MemorySource}

private theorem rows_length_after (ops : List Operation) :
    (c.after ops).source.rows.length = c.source.rows.length :=
  (after_sameTable (c := c) ops).rowCount

private theorem count_of_findsLast (hboundary : c.boundary = .includeLast) {front : List Stop}
    (hstops : c.todo = front ++ [Stop.last c.condition c.source.rows.length row])
    (hfront : ∀ stop ∈ front, stop.number < c.source.rows.length) {ops : List Operation}
    (h : (c.after ops).FindsLast) :
    ops.count .next = front.length ∧ Query.satisfies c.condition row = .ok true := by
  have hafter : (c.after ops).boundary = .includeLast := (after_sameQuery ops).boundary.trans hboundary
  obtain ⟨hopen, number, found, rest, htodo, hle⟩ := todo_of_findsLast hafter h
  have hrows := rows_length_after (c := c) ops
  have hget : (front ++ [Stop.last c.condition c.source.rows.length row])[ops.count .next]? =
      some ⟨number, .ok (some found)⟩ := by
    rw [← hstops, ← List.head?_drop, ← todo_after hopen hboundary, htodo]
    rfl
  rcases Nat.lt_trichotomy (ops.count .next) front.length with hlt | heq | hgt
  · -- The stops in front are at lower numbers.
    rw [List.getElem?_append_left hlt] at hget
    have hnumber := hfront _ (List.mem_of_getElem? hget)
    simp only at hnumber
    omega
  · rw [heq, List.getElem?_concat_length] at hget
    exact ⟨heq, Stop.satisfies_of_last (by rw [Option.some.inj hget])⟩
  · rw [List.getElem?_eq_none (by rw [List.length_append, List.length_singleton]; omega)] at hget
    cases hget

/-- How a cursor parts from itself under the legacy boundary at the last row, which matches: both do the same in `k`
calls of `next`, and the one after them reads this row and finds a match or the end. Behind it both find nothing. -/
structure PartsAtLast (c : Cursor MemorySource) (row : Row) (k : Nat) : Prop where
  ignores : ∀ ops, ops.count .next ≤ k → c.IgnoresBoundary ops
  finds : ∀ ops, ops.count .next = k → (c.after ops).isClosed = false → (c.after ops).next =
    (.ok true, { c.after ops with
      source := { (c.after ops).source with position := c.source.rows.length }
      phase := .onRow
      current := some row })
  misses : ∀ ops, ops.count .next = k → ((c.withBoundary .excludeLast).after ops).isClosed = false →
    ((c.withBoundary .excludeLast).after ops).next =
    (.ok false, { (c.withBoundary .excludeLast).after ops with
      source := { ((c.withBoundary .excludeLast).after ops).source with position := c.source.rows.length }
      phase := .exhausted
      current := none })
  behind : ∀ ops, k < ops.count .next → ∀ d ∈ [c, c.withBoundary .excludeLast],
    (d.after ops).isClosed = false → (d.after ops).next = (.error c.noResult, d.after ops)

private theorem exists_partsAtLast (hboundary : c.boundary = .includeLast) (hphase : c.phase ≠ .exhausted)
    (hlast : c.source.pending.getLast? = some row) (hmatch : Query.satisfies c.condition row = .ok true) :
    ∃ k, c.PartsAtLast row k := by
  obtain ⟨front, hstops, hfront⟩ := todo_concat hphase hlast
  have hignores : ∀ ops, ops.count .next ≤ front.length → c.IgnoresBoundary ops := by
    intro ops hcount
    refine ignoresBoundary_of_not_findsLast hboundary fun before back hops hfinds => ?_
    have hbefore := (count_of_findsLast hboundary hstops hfront hfinds).1
    rw [hops, List.count_append, List.count_cons_self] at hcount
    omega
  have hfinds : ∀ ops, ops.count .next = front.length → (c.after ops).isClosed = false →
      (c.after ops).next = (.ok true, { c.after ops with
        source := { (c.after ops).source with position := c.source.rows.length }
        phase := .onRow
        current := some row }) := by
    intro ops hcount hopen
    have htodo : (c.after ops).todo = [Stop.last c.condition c.source.rows.length row] := by
      rw [todo_after hopen hboundary, hstops, hcount, List.drop_left]
    rw [(next_of_todo_cons hopen ((after_sameQuery ops).boundary.trans hboundary) htodo).1,
      Stop.last_of_match hmatch]
    rfl
  have hmisses : ∀ ops, ops.count .next = front.length →
      ((c.withBoundary .excludeLast).after ops).isClosed = false →
      ((c.withBoundary .excludeLast).after ops).next =
        (.ok false, { (c.withBoundary .excludeLast).after ops with
          source := { ((c.withBoundary .excludeLast).after ops).source with
            position := c.source.rows.length }
          phase := .exhausted
          current := none }) := by
    intro ops hcount hopen
    have hafter := (hignores ops (Nat.le_of_eq hcount)).2
    rw [hafter] at hopen ⊢
    have hnext := hfinds ops hcount hopen
    have hfindsLast : (c.after ops).FindsLast := by
      refine ⟨by rw [hnext], ?_⟩
      rw [hnext]
      exact Nat.sub_eq_zero_of_le (Nat.le_of_eq (rows_length_after ops))
    rw [(next_withBoundary ((after_sameQuery ops).boundary.trans hboundary)).2 hfindsLast, hnext]
    rfl
  refine ⟨front.length, hignores, hfinds, hmisses, fun ops hcount d hd hopen => ?_⟩
  have hnoResult : (d.after ops).noResult = d.noResult := by
    rw [noResult, noResult, (after_sameQuery ops).sql, (after_sameTable ops).identity]
  obtain rfl | rfl := List.mem_pair.mp hd
  · have htodo : (d.after ops).todo = [] := by
      rw [todo_after hopen hboundary, hstops]
      exact List.drop_eq_nil_of_le (by rw [List.length_append, List.length_singleton]; omega)
    rw [next_of_todo_nil hopen htodo, hnoResult]
  · obtain ⟨before, back, rfl, hbefore⟩ := exists_split_of_lt_count hcount
    rw [after_append] at hopen ⊢
    have hexhausted : (((c.withBoundary .excludeLast).after before).perform .next).2.phase = .exhausted := by
      rw [perform, hmisses before hbefore (isClosed_of_after hopen)]
    rw [next_of_spent hopen (.inl (phase_after_of_exhausted hexhausted back)), ← after_append, hnoResult]
    rfl

/-- For every query over rows in memory, the legacy boundary makes a difference only at the last row. Where
that row is no match, no run tells the boundaries apart. Where it is one, runs are the same up to the call of
`next` that reads it, which finds it under the one boundary and the end of the rows under the other. No call
of `next` under the legacy boundary finds a row behind which there is none. A cursor that is only moved stays
open under both. -/
theorem ofQuery_excludeLast {source : MemorySource} {sql : String} {owners : Nat}
    (h : ofQuery source sql .includeLast owners = .ok c) :
    ofQuery source sql .excludeLast owners = .ok (c.withBoundary .excludeLast) ∧
      ((∀ row, source.pending.getLast? = some row → Query.satisfies c.condition row ≠ .ok true) →
        ∀ ops, c.IgnoresBoundary ops) ∧
      (∀ row, source.pending.getLast? = some row → Query.satisfies c.condition row = .ok true →
        ∃ k, c.PartsAtLast row k) ∧
      (∀ ops, ((c.withBoundary .excludeLast).after ops).next.1 = .ok true →
        remaining ((c.withBoundary .excludeLast).after ops).next.2.source ≠ 0) ∧
      ∀ n, (c.after (List.replicate n .next)).isClosed = false ∧
        ((c.withBoundary .excludeLast).after (List.replicate n .next)).isClosed = false := by
  obtain ⟨statement, hstatement, hc⟩ := ofQuery_eq_ok_iff.mp h
  have hboundary : c.boundary = .includeLast := by rw [hc]
  have hphase : c.phase ≠ .exhausted := by rw [hc]; nofun
  have hsource : c.source = source := by rw [hc]
  have hopen : c.isClosed = false := by
    rw [hc]
    simp [isClosed]
  refine ⟨?_, fun hmiss ops => ?_, fun row hlast hmatch => ?_, fun ops => ?_, fun n => ?_⟩
  · exact ofQuery_eq_ok_iff.mpr ⟨statement, hstatement, by rw [hc]; rfl⟩
  · refine ignoresBoundary_of_not_findsLast hboundary fun front back _ hfinds => ?_
    cases hlast : source.pending.getLast? with
    | some row =>
      obtain ⟨stops, hstops, hnumbers⟩ := todo_concat hphase (by rw [hsource, hlast])
      exact hmiss row hlast (count_of_findsLast hboundary hstops hnumbers hfinds).2
    | none =>
      have htodo : c.todo = [] := by
        rw [todo, if_neg hphase, hsource, List.getLast?_eq_none_iff.mp hlast]
        rfl
      obtain ⟨hopen, number, row, rest, hcons, -⟩ :=
        todo_of_findsLast ((after_sameQuery front).boundary.trans hboundary) hfinds
      rw [todo_after hopen hboundary, htodo, List.drop_nil] at hcons
      cases hcons
  · exact exists_partsAtLast hboundary hphase (by rw [hsource, hlast]) hmatch
  · exact remaining_ne_zero_of_next (after_sameQuery ops).boundary
  · rw [isClosed_after_replicate_next, isClosed_after_replicate_next]
    exact ⟨hopen, hopen⟩

end Memory

end Runs

/-- The second record cannot be compared, and the last one is a match, which the second call finds. -/
theorem ofQuery_excludeLast_numberRecords :
    ∃ c, ofQuery (MemorySource.ofRows numberColumn numberRecords) "SELECT * FROM t WHERE N < 1"
        .includeLast 0 = .ok c ∧
      ofQuery (MemorySource.ofRows numberColumn numberRecords) "SELECT * FROM t WHERE N < 1"
        .excludeLast 0 = .ok (c.withBoundary .excludeLast) ∧
      c.PartsAtLast (Row.ofValues numberColumn [some [0x30]]) 1 := by
  have hprepare : Query.prepare "SELECT * FROM t WHERE N < 1" numberColumn =
      .ok ⟨.all, "t", some ⟨"N", .lt, .integer 1⟩⟩ := by
    decide +kernel
  have hc : ofQuery (MemorySource.ofRows numberColumn numberRecords) "SELECT * FROM t WHERE N < 1"
      .includeLast 0 = .ok _ := ofQuery_eq_ok_iff.mpr ⟨_, hprepare, rfl⟩
  obtain ⟨hlegacy, -, hparts, -⟩ := ofQuery_excludeLast hc
  refine ⟨_, hc, hlegacy, ?_⟩
  obtain ⟨k, hk⟩ := hparts (Row.ofValues numberColumn [some [0x30]]) rfl (by decide +kernel)
  have hpos : k ≠ 0 := by
    rintro rfl
    exact absurd (congrArg Prod.fst (hk.finds [] rfl rfl)) (by decide +kernel)
  have hlt : ¬ 2 ≤ k := fun hle => absurd (hk.ignores [.next, .next] hle).1 (by decide +kernel)
  rwa [show k = 1 by omega] at hk

end Cursor

end Xbase
