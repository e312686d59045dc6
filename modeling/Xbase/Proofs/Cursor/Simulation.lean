import Xbase.Proofs.Cursor.Step
/-!
# Cursors over sources that correspond

Two sources may keep their rows in different ways, or keep different rows. If their states correspond, and keep
corresponding as both are read, then a condition that makes no difference between corresponding rows makes none
between cursors. If the rows are the same, no run of operations tells the two cursors apart.
-/
namespace Xbase

open RowSource (remaining rowNumber)

/-- Results that fail alike, or succeed with values in a relation. -/
inductive Alike {α β : Type} (P : α → β → Prop) : Except Error α → Except Error β → Prop where
  | ok {a : α} {b : β} (h : P a b) : Alike P (.ok a) (.ok b)
  | error (e : Error) : Alike P (.error e) (.error e)

theorem Alike.imp {α β : Type} {P P' : α → β → Prop} {x : Except Error α} {y : Except Error β}
    (hP : ∀ {a b}, P a b → P' a b) (h : Alike P x y) : Alike P' x y := by
  cases h with
  | ok h => exact .ok (hP h)
  | error e => exact .error e

/-- A relation between the states of two sources, and one between the rows that both hand out as the row of some
number. The sources count alike and fail alike, and stay related as both are read. -/
structure RowSimulation {σ τ : Type} [RowSource σ] [RowSource τ] (R : σ → τ → Prop)
    (Q : Nat → Row → Row → Prop) : Prop where
  schema : ∀ {s t}, R s t → RowSource.schema s = RowSource.schema t
  identity : ∀ {s t}, R s t → RowSource.identity s = RowSource.identity t
  rowCount : ∀ {s t}, R s t → RowSource.rowCount s = RowSource.rowCount t
  rowNumber : ∀ {s t}, R s t → rowNumber s = rowNumber t
  read_fst : ∀ {s t}, R s t →
    Alike (Q (RowSource.rowNumber (RowSource.read s).2)) (RowSource.read s).1 (RowSource.read t).1
  read_snd : ∀ {s t}, R s t → R (RowSource.read s).2 (RowSource.read t).2

def Cursor.onSource {σ τ : Type} (c : Cursor σ) (t : τ) : Cursor τ where
  source := t
  sql := c.sql
  condition := c.condition
  boundary := c.boundary
  phase := c.phase
  current := c.current
  wasNull := c.wasNull
  closed := c.closed
  owners := c.owners

def Cursor.onSourceAt {σ τ : Type} (c : Cursor σ) (t : τ) (current : Option Row) : Cursor τ :=
  { c.onSource t with current := current }

/-- Cursors that differ in nothing but their sources, whose states are related, and in their rows, which are
related too. -/
def Cursor.Resembles {σ τ : Type} (R : σ → τ → Prop) (Q : Nat → Row → Row → Prop) (c : Cursor σ)
    (d : Cursor τ) : Prop :=
  ∃ t current, R c.source t ∧ Option.Rel (fun row row' => ∃ n, Q n row row') c.current current ∧
    d = c.onSourceAt t current

theorem Cursor.resembles_eq_iff {σ τ : Type} {R : σ → τ → Prop} {c : Cursor σ} {d : Cursor τ} :
    c.Resembles R (fun _ row row' => row = row') d ↔ ∃ t, R c.source t ∧ d = c.onSource t := by
  have hrel (current : Option Row) :
      Option.Rel (fun row row' => ∃ _ : Nat, row = row') c.current current ↔ c.current = current := by
    constructor
    · generalize c.current = before
      rintro (⟨_, rfl⟩ | -) <;> rfl
    · rintro rfl
      cases c.current with
      | none => exact .none
      | some row => exact .some ⟨0, rfl⟩
  constructor
  · rintro ⟨t, current, ht, hcurrent, rfl⟩
    refine ⟨t, ht, ?_⟩
    rw [← (hrel current).mp hcurrent]
    rfl
  · rintro ⟨t, ht, rfl⟩
    exact ⟨t, c.current, ht, (hrel _).mpr rfl, rfl⟩

namespace RowSimulation

variable {σ τ : Type} [RowSource σ] [RowSource τ] {R : σ → τ → Prop} {Q : Nat → Row → Row → Prop}

private theorem remaining_eq (sim : RowSimulation R Q) {s : σ} {t : τ} (h : R s t) : remaining s = remaining t := by
  rw [remaining, remaining, sim.rowCount h, sim.rowNumber h]

private theorem counts_eq (sim : RowSimulation R Q) (boundary : Boundary) {s : σ} {t : τ} (h : R s t) :
    Cursor.counts boundary s = Cursor.counts boundary t := by
  cases boundary with
  | includeLast => rfl
  | excludeLast => rw [Cursor.counts, Cursor.counts, sim.remaining_eq h]

/-- A condition that comes to the same on related rows. -/
def Respects (Q : Nat → Row → Row → Prop) (condition : Option Query.Comparison) : Prop :=
  ∀ n row row', Q n row row' → Query.satisfies condition row = Query.satisfies condition row'

private theorem scan (sim : RowSimulation R Q) {condition : Option Query.Comparison} (hQ : Respects Q condition)
    (n : Nat) {s : σ} {t : τ} (h : R s t) :
    Alike (Option.Rel (Q (RowSource.rowNumber (Cursor.scan condition n s).2)))
        (Cursor.scan condition n s).1 (Cursor.scan condition n t).1 ∧
      R (Cursor.scan condition n s).2 (Cursor.scan condition n t).2 := by
  induction n generalizing s t with
  | zero => exact ⟨.ok .none, h⟩
  | succ n ih =>
    have hfst := sim.read_fst h
    have hsnd := sim.read_snd h
    unfold Cursor.scan
    generalize RowSource.read s = rs at hfst hsnd
    generalize RowSource.read t = rt at hfst hsnd
    obtain ⟨x, s'⟩ := rs
    obtain ⟨y, t'⟩ := rt
    cases hfst with
    | error e => exact ⟨.error e, hsnd⟩
    | @ok row row' hrows =>
      simp only [← hQ _ _ _ hrows]
      cases Query.satisfies condition row with
      | error e => exact ⟨.error e, hsnd⟩
      | ok found =>
        cases found with
        | true => exact ⟨.ok (.some hrows), hsnd⟩
        | false => exact ih hsnd

variable {c : Cursor σ} {d : Cursor τ}

theorem view_eq (sim : RowSimulation R Q) (h : c.Resembles R Q d) : d.view = c.view := by
  obtain ⟨t, current, hsource, -, rfl⟩ := h
  rw [Cursor.view, Cursor.view, sim.rowNumber hsource]
  rfl

/-- Cursors that resemble each other still do after a call of `next`, which returns the same. If it finds a row,
then it is one of the same number for both. -/
theorem next (sim : RowSimulation R Q) (hQ : Respects Q c.condition) (h : c.Resembles R Q d) :
    d.next.1 = c.next.1 ∧ c.next.2.Resembles R Q d.next.2 ∧
      (c.next.1 = .ok true → ∃ row row', c.next.2.current = some row ∧ d.next.2.current = some row' ∧
        Q (RowSource.rowNumber c.next.2.source) row row') := by
  have hsame := h
  obtain ⟨t, current, hsource, hcurrent, hd⟩ := h
  have hdsource : d.source = t := by rw [hd]; rfl
  have hidentity : RowSource.identity d.source = RowSource.identity c.source := by
    rw [hdsource, sim.identity hsource]
  have hrem : remaining d.source = remaining c.source := by rw [hdsource, sim.remaining_eq hsource]
  have hisClosed : d.isClosed = c.isClosed := by rw [hd]; rfl
  have hphase : d.phase = c.phase := by rw [hd]; rfl
  have hsql : d.sql = c.sql := by rw [hd]; rfl
  have hcondition : d.condition = c.condition := by rw [hd]; rfl
  have hboundary : d.boundary = c.boundary := by rw [hd]; rfl
  by_cases hclosed : c.isClosed = true
  · rw [Cursor.next_of_isClosed hclosed, Cursor.next_of_isClosed (hisClosed.trans hclosed),
      Cursor.closedError, Cursor.closedError, hidentity]
    refine ⟨rfl, hsame, fun herror => ?_⟩
    cases herror
  have hopen : c.isClosed = false := Bool.eq_false_iff.mpr hclosed
  by_cases hspent : c.phase = .exhausted ∨ remaining c.source = 0
  · have hspent' : d.phase = .exhausted ∨ remaining d.source = 0 := by rwa [hphase, hrem]
    rw [Cursor.next_of_spent hopen hspent, Cursor.next_of_spent (hisClosed.trans hopen) hspent',
      Cursor.noResult, Cursor.noResult, hidentity, hsql]
    refine ⟨rfl, hsame, fun herror => ?_⟩
    cases herror
  obtain ⟨hphase', hleft⟩ := not_or.mp hspent
  have hnext := Cursor.next_of_scan (hisClosed.trans hopen) (hphase ▸ hphase') (hrem ▸ hleft)
  obtain ⟨hfst, hsnd⟩ := sim.scan hQ (remaining c.source) hsource
  rw [hcondition, hrem, hdsource, hboundary] at hnext
  rw [Cursor.next_of_scan hopen hphase' hleft, hnext]
  generalize Cursor.scan c.condition (remaining c.source) c.source = rs at hfst hsnd
  generalize Cursor.scan c.condition (remaining c.source) t = rt at hfst hsnd
  obtain ⟨x, s'⟩ := rs
  obtain ⟨y, t'⟩ := rt
  subst hd
  cases hfst with
  | error e =>
    refine ⟨rfl, ⟨t', current, hsnd, hcurrent, rfl⟩, fun herror => ?_⟩
    cases herror
  | ok hfound =>
    simp only [← sim.counts_eq c.boundary hsnd]
    cases hfound with
    | none =>
      refine ⟨rfl, ⟨t', none, hsnd, .none, rfl⟩, fun hend => ?_⟩
      cases hend
    | some hrows =>
      cases Cursor.counts c.boundary s' with
      | false =>
        refine ⟨rfl, ⟨t', none, hsnd, .none, rfl⟩, fun hend => ?_⟩
        cases hend
      | true => exact ⟨rfl, ⟨t', _, hsnd, .some ⟨_, hrows⟩, rfl⟩, fun _ => ⟨_, _, rfl, rfl, hrows⟩⟩

theorem run_next [Number.DecimalArithmetic] (sim : RowSimulation R Q) (hQ : Respects Q c.condition)
    (h : c.Resembles R Q d) (n : Nat) :
    d.run (List.replicate n .next) = c.run (List.replicate n .next) ∧
      (c.after (List.replicate n .next)).Resembles R Q (d.after (List.replicate n .next)) := by
  induction n generalizing c d with
  | zero => exact ⟨rfl, h⟩
  | succ n ih =>
    obtain ⟨hfst, hsnd, -⟩ := sim.next hQ h
    have hcondition : c.next.2.condition = c.condition := (Cursor.perform_sameQuery .next).condition
    have hQ' : Respects Q c.next.2.condition := by rwa [hcondition]
    obtain ⟨hrun, hafter⟩ := ih hQ' hsnd
    refine ⟨?_, hafter⟩
    rw [List.replicate_succ, Cursor.run, Cursor.run]
    simp only [Cursor.perform, hfst, sim.view_eq hsnd, hrun]

theorem ofQuery (sim : RowSimulation R Q) {s : σ} {t : τ} (h : R s t) {sql : String}
    {statement : Query.Statement} (hparse : Query.parse sql.toList = .ok statement) (boundary : Boundary)
    (owners : Nat) :
    Alike (fun c d => c.condition = statement.condition ∧ c.Resembles R Q d)
      (Cursor.ofQuery s sql boundary owners) (Cursor.ofQuery t sql boundary owners) := by
  unfold Cursor.ofQuery
  rw [sim.schema h]
  simp only [Query.prepare, hparse]
  cases Query.requireColumns (RowSource.schema t) statement.namedColumns with
  | error e => exact .error e
  | ok => exact .ok ⟨rfl, t, none, h, .none, rfl⟩

end RowSimulation

/-- A relation between the states of two sources that show the same, and keep showing the same as both are
read. -/
structure Simulation {σ τ : Type} [RowSource σ] [RowSource τ] (R : σ → τ → Prop) : Prop where
  schema : ∀ {s t}, R s t → RowSource.schema s = RowSource.schema t
  identity : ∀ {s t}, R s t → RowSource.identity s = RowSource.identity t
  rowCount : ∀ {s t}, R s t → RowSource.rowCount s = RowSource.rowCount t
  rowNumber : ∀ {s t}, R s t → RowSource.rowNumber s = RowSource.rowNumber t
  read_fst : ∀ {s t}, R s t → (RowSource.read s).1 = (RowSource.read t).1
  read_snd : ∀ {s t}, R s t → R (RowSource.read s).2 (RowSource.read t).2

namespace Simulation

variable {σ τ : Type} [RowSource σ] [RowSource τ] {R : σ → τ → Prop}

theorem rowSimulation (sim : Simulation R) : RowSimulation R fun _ row row' => row = row' where
  schema := sim.schema
  identity := sim.identity
  rowCount := sim.rowCount
  rowNumber := sim.rowNumber
  read_fst {s t} h := by
    rw [← sim.read_fst h]
    cases (RowSource.read s).1 with
    | ok row => exact .ok rfl
    | error e => exact .error e
  read_snd := sim.read_snd

variable {c : Cursor σ} {t : τ}

theorem noResult_eq (sim : Simulation R) (h : R c.source t) :
    (c.onSource t).noResult = c.noResult := by
  rw [Cursor.noResult, Cursor.noResult, sim.identity h]
  rfl

theorem closedError_eq (sim : Simulation R) (h : R c.source t) :
    (c.onSource t).closedError = c.closedError := by
  rw [Cursor.closedError, Cursor.closedError, sim.identity h]
  rfl

theorem next (sim : Simulation R) (h : R c.source t) :
    ∃ t', R c.next.2.source t' ∧ (c.onSource t).next = (c.next.1, c.next.2.onSource t') := by
  have hresembles := Cursor.resembles_eq_iff.mpr ⟨t, h, rfl⟩
  obtain ⟨hfst, hsnd, -⟩ := sim.rowSimulation.next (fun _ _ _ hrow => hrow ▸ rfl) hresembles
  obtain ⟨t', ht', heq⟩ := Cursor.resembles_eq_iff.mp hsnd
  exact ⟨t', ht', Prod.ext hfst heq⟩

theorem value_eq (sim : Simulation R) (h : R c.source t) (column : ColumnRef) :
    (c.onSource t).value column = c.value column := by
  unfold Cursor.value
  rw [sim.noResult_eq h, sim.schema h]
  rfl

theorem view_eq (sim : Simulation R) (h : R c.source t) : (c.onSource t).view = c.view := by
  rw [Cursor.view, Cursor.view, sim.rowNumber h]
  rfl

theorem ofQuery_eq (sim : Simulation R) {s : σ} (h : R s t) (sql : String) (boundary : Boundary)
    (owners : Nat) :
    Cursor.ofQuery t sql boundary owners =
      (Cursor.ofQuery s sql boundary owners).map (·.onSource t) := by
  unfold Cursor.ofQuery
  rw [sim.schema h]
  cases Query.prepare sql (RowSource.schema t) with
  | ok statement => rfl
  | error e => rfl

variable [Number.DecimalArithmetic]

theorem reading_eq (sim : Simulation R) (h : R c.source t) (g : Getter) (column : ColumnRef) :
    (c.onSource t).reading g column = c.reading g column := by
  unfold Cursor.reading
  rw [sim.value_eq h, sim.schema h]
  rfl

theorem get (sim : Simulation R) (h : R c.source t) (g : Getter) (column : ColumnRef) :
    (c.onSource t).get g column = ((c.get g column).1, (c.get g column).2.onSource t) := by
  by_cases hclosed : c.isClosed = true
  · rw [Cursor.get_of_isClosed hclosed, Cursor.get_of_isClosed (c := c.onSource t) hclosed,
      sim.closedError_eq h]
  have hopen : c.isClosed = false := Bool.eq_false_iff.mpr hclosed
  rw [Cursor.get_of_open hopen, Cursor.get_of_open (c := c.onSource t) hopen, sim.reading_eq h]
  cases c.reading g column with
  | error e => rfl
  | ok r => cases r <;> rfl

theorem perform (sim : Simulation R) (h : R c.source t) (op : Operation) :
    ∃ t', R (c.perform op).2.source t' ∧
      (c.onSource t).perform op = ((c.perform op).1, (c.perform op).2.onSource t') := by
  cases op with
  | next =>
    obtain ⟨t', ht', hnext⟩ := sim.next h
    refine ⟨t', ht', ?_⟩
    rw [Cursor.perform, hnext]
    rfl
  | get g column =>
    obtain ⟨wasNull, hget⟩ := Cursor.get_snd (c := c) g column
    refine ⟨t, ?_, ?_⟩
    · change R (c.get g column).2.source t
      rwa [hget]
    · rw [Cursor.perform, sim.get h]
      rfl
  | close => exact ⟨t, h, rfl⟩
  | closeOwner i => exact ⟨t, h, rfl⟩

/-- No run tells the cursors over two corresponding sources apart. -/
theorem run_eq (sim : Simulation R) (h : R c.source t) (ops : List Operation) :
    (c.onSource t).run ops = c.run ops := by
  induction ops generalizing c t with
  | nil => rfl
  | cons op ops ih =>
    obtain ⟨t', ht', hperform⟩ := sim.perform h op
    rw [Cursor.run, Cursor.run, hperform, sim.view_eq ht', ih ht']

theorem after (sim : Simulation R) (h : R c.source t) (ops : List Operation) :
    ∃ t', R (c.after ops).source t' ∧ (c.onSource t).after ops = (c.after ops).onSource t' := by
  induction ops generalizing c t with
  | nil => exact ⟨t, h, rfl⟩
  | cons op ops ih =>
    obtain ⟨t', ht', hperform⟩ := sim.perform h op
    obtain ⟨t'', ht'', hafter⟩ := ih ht'
    refine ⟨t'', ht'', ?_⟩
    change ((c.onSource t).perform op).2.after ops = _
    rw [hperform]
    exact hafter

end Simulation

end Xbase
