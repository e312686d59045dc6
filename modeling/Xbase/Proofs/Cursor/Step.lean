import Xbase.Cursor.Operation
import Xbase.Proofs.Source
/-!
# Steps of a cursor

What each operation does to a cursor, and what a run of operations keeps: the query stays, and a cursor
that is closed stays closed.
-/
namespace Xbase.Cursor

open RowSource (remaining SameTable)

variable {σ : Type} [RowSource σ] {c : Cursor σ}

theorem ofQuery_eq_ok_iff {source : σ} {sql : String} {boundary : Boundary} {owners : Nat} :
    ofQuery source sql boundary owners = .ok c ↔
      ∃ statement, Query.prepare sql (RowSource.schema source) = .ok statement ∧ c =
        { source := source, sql := sql, condition := statement.condition, boundary := boundary,
          phase := .beforeFirst, current := none, wasNull := false, closed := false,
          owners := List.replicate owners false } := by
  unfold ofQuery
  cases Query.prepare sql (RowSource.schema source) with
  | error e => simp
  | ok statement => simp [eq_comm]

theorem next_of_isClosed (h : c.isClosed = true) : c.next = (.error c.closedError, c) := by
  rw [next, if_pos h]

theorem next_of_spent (hopen : c.isClosed = false)
    (h : c.phase = .exhausted ∨ remaining c.source = 0) : c.next = (.error c.noResult, c) := by
  rw [next, if_neg (by simp [hopen]), if_pos h]

theorem next_of_scan (hopen : c.isClosed = false) (hphase : c.phase ≠ .exhausted)
    (hrem : remaining c.source ≠ 0) :
    c.next =
      match scan c.condition (remaining c.source) c.source with
      | (.error e, s) => (.error e, { c with source := s })
      | (.ok found, s) =>
        match found.filter fun _ => counts c.boundary s with
        | some row => (.ok true, { c with source := s }.moveTo row)
        | none => (.ok false, { c with source := s }.moveBehind) := by
  have hclosed : ¬ c.isClosed = true := by simp [hopen]
  have hspent : ¬ (c.phase = .exhausted ∨ remaining c.source = 0) := by simp [hphase, hrem]
  unfold next
  exact (if_neg hclosed).trans (if_neg hspent)

theorem scan_sameTable [LawfulRowSource σ] (condition : Option Query.Comparison) (n : Nat) (s : σ) :
    SameTable (scan condition n s).2 s := by
  induction n generalizing s with
  | zero => exact SameTable.refl s
  | succ n ih =>
    have hread := LawfulRowSource.sameTable_read s
    unfold scan
    split
    · rename_i hr
      rwa [hr] at hread
    · rename_i row t hr
      rw [hr] at hread
      split
      · exact hread
      · exact hread
      · exact (ih t).trans hread

theorem next_snd :
    ∃ s phase current, c.next.2 = { c with source := s, phase := phase, current := current } := by
  unfold next
  split
  · exact ⟨_, _, _, rfl⟩
  split
  · exact ⟨_, _, _, rfl⟩
  split
  · exact ⟨_, _, _, rfl⟩
  · split <;> exact ⟨_, _, _, rfl⟩

theorem next_sameTable [LawfulRowSource σ] : SameTable c.next.2.source c.source := by
  have hscan := scan_sameTable c.condition (remaining c.source) c.source
  unfold next
  split
  · exact SameTable.refl _
  split
  · exact SameTable.refl _
  split
  · rename_i hs
    rwa [hs] at hscan
  · rename_i hs
    rw [hs] at hscan
    split <;> exact hscan

structure SameQuery (c d : Cursor σ) : Prop where
  sql : c.sql = d.sql
  condition : c.condition = d.condition
  boundary : c.boundary = d.boundary

theorem isClosed_next : c.next.2.isClosed = c.isClosed := by
  obtain ⟨s, phase, current, hnext⟩ := next_snd (c := c)
  rw [hnext]
  rfl

private theorem any_set_true {owners : List Bool} (h : owners.any id = true) (i : Nat) :
    (owners.set i true).any id = true := by
  induction owners generalizing i with
  | nil => exact h
  | cons b owners ih =>
    cases i with
    | zero => rfl
    | succ i =>
      rw [List.any_cons, Bool.or_eq_true] at h
      rw [List.set_cons_succ, List.any_cons, Bool.or_eq_true]
      exact h.imp_right (ih · i)

variable [Number.DecimalArithmetic]

theorem get_of_isClosed (h : c.isClosed = true) (g : Getter) (column : ColumnRef) :
    c.get g column = (.error c.closedError, c) := by
  rw [get, if_pos h]

theorem get_of_open (hopen : c.isClosed = false) (g : Getter) (column : ColumnRef) :
    c.get g column =
      match c.reading g column with
      | .error e => (.error e, c)
      | .ok none => (.ok g.ofNull, { c with wasNull := true })
      | .ok (some r) => (.ok (some r), { c with wasNull := false }) := by
  have hclosed : ¬ c.isClosed = true := by simp [hopen]
  unfold get
  exact if_neg hclosed

theorem get_snd (g : Getter) (column : ColumnRef) :
    ∃ wasNull, (c.get g column).2 = { c with wasNull := wasNull } := by
  unfold get
  split
  · exact ⟨c.wasNull, rfl⟩
  split
  · exact ⟨c.wasNull, rfl⟩
  · exact ⟨true, rfl⟩
  · exact ⟨false, rfl⟩

theorem perform_sameQuery (op : Operation) : SameQuery (c.perform op).2 c := by
  cases op with
  | next =>
    change SameQuery c.next.2 c
    obtain ⟨s, phase, current, h⟩ := next_snd (c := c)
    rw [h]
    exact ⟨rfl, rfl, rfl⟩
  | get g column =>
    change SameQuery (c.get g column).2 c
    obtain ⟨wasNull, h⟩ := get_snd (c := c) g column
    rw [h]
    exact ⟨rfl, rfl, rfl⟩
  | close => exact ⟨rfl, rfl, rfl⟩
  | closeOwner i => exact ⟨rfl, rfl, rfl⟩

theorem closed_perform (op : Operation) :
    (c.perform op).2.closed = (c.closed || op = .close) := by
  cases op with
  | next =>
    change c.next.2.closed = _
    obtain ⟨s, phase, current, hnext⟩ := next_snd (c := c)
    rw [hnext]
    exact (Bool.or_false _).symm
  | get g column =>
    change (c.get g column).2.closed = _
    obtain ⟨wasNull, hget⟩ := get_snd (c := c) g column
    rw [hget]
    exact (Bool.or_false _).symm
  | close => exact (Bool.or_true _).symm
  | closeOwner i => exact (Bool.or_false _).symm

theorem owners_perform (op : Operation) (h : ∀ i, op ≠ .closeOwner i) :
    (c.perform op).2.owners = c.owners := by
  cases op with
  | next =>
    change c.next.2.owners = _
    obtain ⟨s, phase, current, hnext⟩ := next_snd (c := c)
    rw [hnext]
  | get g column =>
    change (c.get g column).2.owners = _
    obtain ⟨wasNull, hget⟩ := get_snd (c := c) g column
    rw [hget]
  | close => rfl
  | closeOwner i => exact absurd rfl (h i)

private theorem isClosed_perform (h : c.isClosed = true) (op : Operation) :
    (c.perform op).2.isClosed = true := by
  rw [isClosed, Bool.or_eq_true] at h ⊢
  rw [closed_perform, Bool.or_eq_true]
  refine h.imp Or.inl fun howners => ?_
  cases op with
  | next => rwa [owners_perform .next nofun]
  | get g column => rwa [owners_perform (.get g column) nofun]
  | close => exact howners
  | closeOwner i => exact any_set_true howners i

theorem isClosed_after (h : c.isClosed = true) (ops : List Operation) :
    (c.after ops).isClosed = true := by
  induction ops generalizing c with
  | nil => exact h
  | cons op ops ih => exact ih (isClosed_perform h op)

theorem isClosed_of_after {ops : List Operation} (h : (c.after ops).isClosed = false) :
    c.isClosed = false := by
  cases hc : c.isClosed with
  | false => rfl
  | true => rw [isClosed_after hc] at h; exact h

theorem after_sameQuery (ops : List Operation) : SameQuery (c.after ops) c := by
  induction ops generalizing c with
  | nil => exact ⟨rfl, rfl, rfl⟩
  | cons op ops ih =>
    have h := perform_sameQuery (c := c) op
    have hrun := ih (c := (c.perform op).2)
    exact ⟨hrun.sql.trans h.sql, hrun.condition.trans h.condition, hrun.boundary.trans h.boundary⟩

private theorem perform_sameTable [LawfulRowSource σ] (op : Operation) :
    SameTable (c.perform op).2.source c.source := by
  cases op with
  | next => exact next_sameTable
  | get g column =>
    change SameTable (c.get g column).2.source c.source
    obtain ⟨wasNull, h⟩ := get_snd (c := c) g column
    rw [h]
    exact SameTable.refl _
  | close => exact SameTable.refl _
  | closeOwner i => exact SameTable.refl _

theorem after_sameTable [LawfulRowSource σ] (ops : List Operation) :
    SameTable (c.after ops).source c.source := by
  induction ops generalizing c with
  | nil => exact SameTable.refl _
  | cons op ops ih => exact (ih (c := (c.perform op).2)).trans (perform_sameTable op)

end Xbase.Cursor
