import Xbase.Number.Decimal96
import Xbase.Proofs.Cursor.Step
import Xbase.Proofs.Row
import Xbase.Proofs.Table.Run
/-!
# The life of a cursor

A cursor starts before the first row, stands on rows as long as `next` finds some, and is then behind the
last. It never goes back, a closed cursor never opens again, and a row is there exactly while the cursor
stands on one. Whether a getter has a value to read depends on these things alone.
-/
namespace Xbase.Cursor

open RowSource (schema identity rowCount rowNumber remaining)

variable {σ : Type} [RowSource σ] {c : Cursor σ}

/-- What a call of `next` returns, with the cursor it leaves: it is refused, or it reads rows up to an error,
up to a row that it moves to, or up to the end. -/
inductive Moves (c : Cursor σ) : Except Error Bool × Cursor σ → Prop where
  | refused (e : Error) : Moves c (.error e, c)
  | failed {e : Error} {s : σ} (phase_ne : c.phase ≠ .exhausted)
      (scan_eq : scan c.condition (remaining c.source) c.source = (.error e, s)) :
      Moves c (.error e, { c with source := s })
  | found {row : Row} {s : σ} (phase_ne : c.phase ≠ .exhausted)
      (scan_eq : scan c.condition (remaining c.source) c.source = (.ok (some row), s))
      (counts_eq : counts c.boundary s = true) :
      Moves c (.ok true, { c with source := s }.moveTo row)
  | ended {match? : Option Row} {s : σ} (phase_ne : c.phase ≠ .exhausted)
      (scan_eq : scan c.condition (remaining c.source) c.source = (.ok match?, s)) :
      Moves c (.ok false, { c with source := s }.moveBehind)

theorem moves_next (c : Cursor σ) : c.Moves c.next := by
  cases hclosed : c.isClosed with
  | true =>
    rw [next_of_isClosed hclosed]
    exact .refused _
  | false =>
    by_cases hspent : c.phase = .exhausted ∨ remaining c.source = 0
    · rw [next_of_spent hclosed hspent]
      exact .refused _
    obtain ⟨hphase, hrem⟩ := not_or.mp hspent
    rw [next_of_scan hclosed hphase hrem]
    rcases hscan : scan c.condition (remaining c.source) c.source with ⟨e | match?, s⟩
    · exact .failed hphase hscan
    simp only
    cases hcounts : match?.filter fun _ => counts c.boundary s with
    | none => exact .ended hphase hscan
    | some row =>
      obtain ⟨hfound, hcounts⟩ := Option.filter_eq_some_iff.mp hcounts
      rw [hfound] at hscan
      exact .found hphase hscan hcounts

private theorem Moves.source {r : Except Error Bool × Cursor σ} (h : c.Moves r) :
    r.2.source = c.source ∨ r.2.source = (scan c.condition (remaining c.source) c.source).2 := by
  cases h with
  | refused e => exact .inl rfl
  | failed phase_ne scan_eq => exact .inr (by rw [scan_eq])
  | found phase_ne scan_eq => exact .inr (by rw [scan_eq]; rfl)
  | ended phase_ne scan_eq => exact .inr (by rw [scan_eq]; rfl)

section Counting

variable [CountingRowSource σ]

private theorem rowNumber_scan (condition : Option Query.Comparison) (n : Nat) (s : σ) :
    rowNumber s ≤ rowNumber (scan condition n s).2 ∧
      rowNumber (scan condition n s).2 ≤ rowNumber s + n := by
  induction n generalizing s with
  | zero => exact ⟨Nat.le_refl _, Nat.le_refl _⟩
  | succ n ih =>
    unfold scan
    split
    · rename_i e t hread
      simp only [CountingRowSource.rowNumber_of_error hread]
      omega
    · rename_i row t hread
      have hcount := CountingRowSource.rowNumber_of_ok hread
      split
      · simp only [hcount]
        omega
      · simp only [hcount]
        omega
      · obtain ⟨hge, hle⟩ := ih t
        omega

/-- What is true of a cursor at any time: it has a row only while it stands on one, it has that row unless it
was closed, and no more rows have been read than there are. -/
structure Sound (c : Cursor σ) : Prop where
  onRow_of_isSome : c.current.isSome = true → c.phase = .onRow
  isSome_of_onRow : c.closed = false → c.phase = .onRow → c.current.isSome = true
  rowNumber_le : rowNumber c.source ≤ rowCount c.source

theorem rowNumber_next : rowNumber c.source ≤ rowNumber c.next.2.source ∧
    (rowNumber c.source ≤ rowCount c.source → rowNumber c.next.2.source ≤ rowCount c.next.2.source) := by
  have hcount : rowCount c.next.2.source = rowCount c.source := next_sameTable.rowCount
  have hrem : remaining c.source = rowCount c.source - rowNumber c.source := rfl
  have hscan := rowNumber_scan c.condition (remaining c.source) c.source
  rw [hcount]
  rcases c.moves_next.source with hsource | hsource
  · rw [hsource]
    exact ⟨Nat.le_refl _, id⟩
  · rw [hsource]
    omega

private theorem Sound.next (h : c.Sound) : c.next.2.Sound := by
  have hle := rowNumber_next.2 h.rowNumber_le
  have hmoves := c.moves_next
  generalize c.next = r at hmoves hle
  cases hmoves with
  | refused e => exact h
  | failed => exact ⟨h.onRow_of_isSome, h.isSome_of_onRow, hle⟩
  | found => exact ⟨fun _ => rfl, fun _ _ => rfl, hle⟩
  | ended => exact ⟨nofun, nofun, hle⟩

end Counting

section Runs

variable [Number.DecimalArithmetic]

/-- No operation but `next` touches the phase or the source. -/
theorem frame_of_ne_next {op : Operation} (h : op ≠ .next) :
    (c.perform op).2.phase = c.phase ∧ (c.perform op).2.source = c.source := by
  cases op with
  | next => exact absurd rfl h
  | get g column =>
    obtain ⟨wasNull, hget⟩ := get_snd (c := c) g column
    change (c.get g column).2.phase = c.phase ∧ (c.get g column).2.source = c.source
    rw [hget]
    exact ⟨rfl, rfl⟩
  | close => exact ⟨rfl, rfl⟩
  | closeOwner i => exact ⟨rfl, rfl⟩

theorem after_induction {P : Cursor σ → Prop} (hstep : ∀ d op, P d → P (d.perform op).2) (h : P c)
    (ops : List Operation) : P (c.after ops) := by
  induction ops generalizing c with
  | nil => exact h
  | cons op ops ih => exact ih (hstep c op h)

theorem after_append (ops more : List Operation) : c.after (ops ++ more) = (c.after ops).after more :=
  List.foldl_append

theorem phase_after_of_exhausted (h : c.phase = .exhausted) (ops : List Operation) :
    (c.after ops).phase = .exhausted := by
  refine after_induction (P := fun d => d.phase = .exhausted) (fun d op hd => ?_) h ops
  by_cases hop : op = .next
  · subst hop
    change d.next.2.phase = .exhausted
    have hmoves := d.moves_next
    generalize d.next = r at hmoves
    cases hmoves with
    | refused e => exact hd
    | failed phase_ne => exact absurd hd phase_ne
    | found phase_ne => exact absurd hd phase_ne
    | ended => rfl
  · rw [(frame_of_ne_next hop).1, hd]

private theorem phase_after_ne_beforeFirst (h : c.phase ≠ .beforeFirst) (ops : List Operation) :
    (c.after ops).phase ≠ .beforeFirst := by
  refine after_induction (P := fun d => d.phase ≠ .beforeFirst) (fun d op hd => ?_) h ops
  by_cases hop : op = .next
  · subst hop
    change d.next.2.phase ≠ .beforeFirst
    have hmoves := d.moves_next
    generalize d.next = r at hmoves
    cases hmoves with
    | refused e => exact hd
    | failed => exact hd
    | found => exact nofun
    | ended => exact nofun
  · rwa [(frame_of_ne_next hop).1]

theorem closed_after (hc : c.closed = false) {ops : List Operation} (h : .close ∉ ops) :
    (c.after ops).closed = false := by
  induction ops generalizing c with
  | nil => exact hc
  | cons op ops ih =>
    obtain ⟨hop, hops⟩ := not_or.mp (mt List.mem_cons.mpr h)
    refine ih ?_ hops
    rw [closed_perform, hc, Bool.false_or]
    exact decide_eq_false (Ne.symm hop)

theorem isClosed_after_replicate_next (n : Nat) :
    (c.after (List.replicate n .next)).isClosed = c.isClosed := by
  induction n generalizing c with
  | zero => rfl
  | succ n ih => exact (ih (c := c.next.2)).trans isClosed_next

section Counting

variable [CountingRowSource σ]

theorem Sound.perform (h : c.Sound) (op : Operation) : (c.perform op).2.Sound := by
  cases op with
  | next => exact h.next
  | get g column =>
    obtain ⟨wasNull, hget⟩ := get_snd (c := c) g column
    change (c.get g column).2.Sound
    rw [hget]
    exact ⟨h.onRow_of_isSome, h.isSome_of_onRow, h.rowNumber_le⟩
  | close => exact ⟨nofun, nofun, h.rowNumber_le⟩
  | closeOwner i => exact ⟨h.onRow_of_isSome, h.isSome_of_onRow, h.rowNumber_le⟩

private theorem rowNumber_perform_le (op : Operation) :
    rowNumber c.source ≤ rowNumber (c.perform op).2.source := by
  by_cases hop : op = .next
  · subst hop
    exact rowNumber_next.1
  · rw [(frame_of_ne_next hop).2]

private theorem rowNumber_le_after (ops : List Operation) : rowNumber c.source ≤ rowNumber (c.after ops).source :=
  after_induction (P := fun d => rowNumber c.source ≤ rowNumber d.source)
    (fun _ op hd => hd.trans (rowNumber_perform_le op)) (Nat.le_refl _) ops

end Counting

private theorem get_of_current_none (hopen : c.isClosed = false) (h : c.current = none) (g : Getter)
    (column : ColumnRef) :
    ((schema c.source).HasColumn column → c.get g column = (.error c.noResult, c)) ∧
      (¬ (schema c.source).HasColumn column →
        c.get g column = (.error ((schema c.source).missingColumn column), c)) := by
  constructor
  · intro hcolumn
    obtain ⟨field, hfield⟩ := Schema.exists_resolve_eq_ok hcolumn
    have hreading : c.reading g column = .error c.noResult := by
      simp only [reading, value, hfield, h]
    rw [get_of_open hopen, hreading]
  · intro hcolumn
    have hreading : c.reading g column = .error ((schema c.source).missingColumn column) := by
      simp only [reading, value, Schema.resolve_of_not_hasColumn hcolumn]
    rw [get_of_open hopen, hreading]

/-- The rules that a cursor for a query over a source keeps, in the state `d` that a history of operations has led to. A
closed cursor fails as such. Off the rows of an open one a getter fails for the column that it asks for, if there is no
such column, and for the missing row otherwise. -/
structure Lawful (source : σ) (sql : String) (history : List Operation) (d : Cursor σ) : Prop where
  current_iff : .close ∉ history → (d.current.isSome = true ↔ d.phase = .onRow)
  rowNumber_le : rowNumber d.source ≤ rowCount source
  rowNumber_mono : ∀ more, rowNumber d.source ≤ rowNumber (d.after more).source
  moved : d.phase ≠ .beforeFirst → ∀ more, (d.after more).phase ≠ .beforeFirst
  exhausted : d.phase = .exhausted → ∀ more, (d.after more).phase = .exhausted
  next_exhausted : d.phase = .exhausted → d.isClosed = false →
    d.next = (.error (.noResult sql (identity source)), d)
  closed : d.isClosed = true → ∀ more, (d.after more).isClosed = true
  next_closed : d.isClosed = true → d.next = (.error (.closed (identity source)), d)
  get_closed : d.isClosed = true → ∀ g column, d.get g column = (.error (.closed (identity source)), d)
  get_offRow : d.isClosed = false → d.phase ≠ .onRow → ∀ g column, (schema source).HasColumn column →
    d.get g column = (.error (.noResult sql (identity source)), d)
  get_missing : d.isClosed = false → d.phase ≠ .onRow → ∀ g column, ¬ (schema source).HasColumn column →
    d.get g column = (.error ((schema source).missingColumn column), d)

/-- After every run of operations, a cursor for a query keeps the rules of a cursor, whatever the source, the
query, the boundary and the number of owners. -/
theorem lawful_after [CountingRowSource σ] {source : σ} {sql : String} {boundary : Boundary} {owners : Nat}
    (hsource : rowNumber source ≤ rowCount source) (h : ofQuery source sql boundary owners = .ok c)
    (ops : List Operation) : Lawful source sql ops (c.after ops) := by
  obtain ⟨statement, -, hc⟩ := ofQuery_eq_ok_iff.mp h
  have hstart : c.Sound := by
    rw [hc]
    exact ⟨nofun, nofun, hsource⟩
  have hclosed : c.closed = false := by rw [hc]
  have hsql : (c.after ops).sql = sql := by rw [(after_sameQuery ops).sql, hc]
  have htable : RowSource.SameTable (c.after ops).source source := by
    have hrun := after_sameTable (c := c) ops
    rwa [hc] at hrun ⊢
  have hnoResult : (c.after ops).noResult = .noResult sql (identity source) := by
    rw [noResult, hsql, htable.identity]
  have hclosedError : (c.after ops).closedError = .closed (identity source) := by
    rw [closedError, htable.identity]
  have hsound : (c.after ops).Sound := after_induction (fun _ op hd => hd.perform op) hstart ops
  have hnone (hphase : (c.after ops).phase ≠ .onRow) : (c.after ops).current = none := by
    cases hcurrent : (c.after ops).current with
    | none => rfl
    | some row => exact absurd (hsound.onRow_of_isSome (by rw [hcurrent]; rfl)) hphase
  constructor
  case current_iff =>
    intro hhistory
    exact ⟨hsound.onRow_of_isSome, hsound.isSome_of_onRow (closed_after hclosed hhistory)⟩
  case rowNumber_le =>
    rw [← htable.rowCount]
    exact hsound.rowNumber_le
  case rowNumber_mono => exact rowNumber_le_after
  case moved => exact phase_after_ne_beforeFirst
  case exhausted => exact phase_after_of_exhausted
  case next_exhausted =>
    intro hphase hopen
    rw [next_of_spent hopen (.inl hphase), hnoResult]
  case closed => exact isClosed_after
  case next_closed =>
    intro hd
    rw [next_of_isClosed hd, hclosedError]
  case get_closed =>
    intro hd g column
    rw [get_of_isClosed hd, hclosedError]
  case get_offRow =>
    intro hopen hphase g column hcolumn
    rw [← htable.schema] at hcolumn
    rw [(get_of_current_none hopen (hnone hphase) g column).1 hcolumn, hnoResult]
  case get_missing =>
    intro hopen hphase g column hcolumn
    rw [← htable.schema] at hcolumn ⊢
    exact (get_of_current_none hopen (hnone hphase) g column).2 hcolumn

end Runs

/-- A cursor over a table that breaks off, behind its only record and with its owner closed. -/
theorem lawful_after_cutTable :
    ∃ c, rowNumber Table.Reader.cutReader ≤ rowCount Table.Reader.cutReader ∧
      ofQuery Table.Reader.cutReader "SELECT * FROM t WHERE A = 'x'" .legacy 1 = .ok c ∧
      Lawful Table.Reader.cutReader "SELECT * FROM t WHERE A = 'x'"
        [.next, .next, .closeOwner 0] (c.after [.next, .next, .closeOwner 0]) ∧
      (c.after [.next, .next, .closeOwner 0]).current.isSome = true ∧
      ((c.after [.next, .next, .closeOwner 0]).get .date (.name "B")).1 = .error (.closed "t") := by
  have hprepare : Query.prepare "SELECT * FROM t WHERE A = 'x'" Table.Reader.cutReader.schema =
      .ok ⟨.all, "t", some ⟨"A", .eq, .string "x"⟩⟩ := by
    decide +kernel
  have hc : ofQuery Table.Reader.cutReader "SELECT * FROM t WHERE A = 'x'" .legacy 1 = .ok _ :=
    ofQuery_eq_ok_iff.mpr ⟨_, hprepare, rfl⟩
  have hlawful := lawful_after (Nat.zero_le _) hc [.next, .next, .closeOwner 0]
  refine ⟨_, Nat.zero_le _, hc, hlawful, ?_, ?_⟩
  · exact (hlawful.current_iff (by decide)).mpr (by decide +kernel)
  · rw [hlawful.get_closed (by decide +kernel)]
    rfl

end Xbase.Cursor
