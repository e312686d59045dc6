import Xbase.Proofs.Cursor.Column
import Xbase.Proofs.Cursor.Lifecycle
import Xbase.Proofs.Query.Misfit
import Xbase.Proofs.Query.Preparation
/-!
# Columns are checked once

The columns that a query names are looked for when its cursor is made, before any row is read. Every row that
the cursor reads later has the columns that were checked, so no column is missing then: not when the condition
is evaluated, and not when a column that exists is read.
-/
namespace Xbase

open RowSource (schema remaining)

section Results

variable {α β : Type}

private theorem not_lacksField_ok (a : α) : ¬ LacksField (Except.ok a) := by
  rintro ⟨column, table, h⟩
  cases h

private theorem LacksField.cast {e : Error} (h : LacksField (Except.error e : Except Error α)) :
    LacksField (Except.error e : Except Error β) := by
  obtain ⟨column, table, h⟩ := h
  exact ⟨column, table, congrArg Except.error (Except.error.inj h)⟩

private theorem not_lacksField_bind {x : Except Error α} {f : α → Except Error β} (hx : ¬ LacksField x)
    (hf : ∀ a, ¬ LacksField (f a)) : ¬ LacksField (Except.bind x f) := by
  cases x with
  | ok a => exact hf a
  | error e => exact fun h => hx h.cast

private theorem not_lacksField_map {x : Except Error α} {f : α → β} (hx : ¬ LacksField x) :
    ¬ LacksField (x.map f) := by
  cases x with
  | ok a => exact not_lacksField_ok (f a)
  | error e => exact fun h => hx h.cast

end Results

namespace Field

variable {f : Field} {s : List Char}

private theorem not_lacksField_number {α : Type} {ofText? : List Char → Option α} :
    ¬ LacksField (f.number ofText? s) := by
  rintro ⟨column, table, h⟩
  cases eq_of_number_error h

private theorem not_lacksField_date : ¬ LacksField (f.date s) := by
  rintro ⟨column, table, h⟩
  cases eq_of_date_error h

private theorem not_lacksField_decimal [Number.DecimalArithmetic] {x : Number.Binary64} {places : Nat} :
    ¬ LacksField (f.decimal x places) := by
  rintro ⟨column, table, h⟩
  unfold decimal at h
  split at h <;> cases h

end Field

private theorem Getter.not_lacksField_read [Number.DecimalArithmetic] (g : Getter) (charset : Charset) (field : Field)
    (value : Value) :
    ¬ LacksField (g.read charset field value) := by
  cases value with
  | none => exact not_lacksField_ok none
  | some bytes =>
    have hdecimal (places : Nat) : ¬ LacksField (interpret.decimalOf charset field bytes places) :=
      not_lacksField_bind Field.not_lacksField_number fun x => Field.not_lacksField_decimal
    cases g with
    | text => exact not_lacksField_ok _
    | integer w => exact not_lacksField_bind Field.not_lacksField_number fun n => not_lacksField_ok _
    | single => exact not_lacksField_bind Field.not_lacksField_number fun x => not_lacksField_ok _
    | double => exact not_lacksField_bind Field.not_lacksField_number fun x => not_lacksField_ok _
    | decimal => exact not_lacksField_bind (hdecimal field.scale) fun d => not_lacksField_ok _
    | decimalWith places => exact not_lacksField_bind (hdecimal places) fun d => not_lacksField_ok _
    | date => exact not_lacksField_bind Field.not_lacksField_date fun d => not_lacksField_ok _

namespace Query

private theorem Comparison.not_lacksField_holds {q : Comparison} {row : Row}
    (h : row.schema.HasColumn (.name q.column)) : ¬ LacksField (q.holds row) := by
  obtain ⟨field, hfield⟩ := Schema.exists_resolve_eq_ok h
  rintro ⟨column, table, hlacks⟩
  have hfit := q.fit_operand field
  rw [(holds_eq_misfit_iff hfield (.noSuchField column table)).mp hlacks] at hfit
  cases hfit

/-- Whether the column of a condition exists, if there is a condition. -/
def HasConditionColumn (schema : Schema) (condition : Option Comparison) : Prop :=
  ∀ q ∈ condition, schema.HasColumn (.name q.column)

private theorem not_lacksField_satisfies {condition : Option Comparison} {row : Row}
    (h : HasConditionColumn row.schema condition) : ¬ LacksField (satisfies condition row) := by
  cases condition with
  | none => exact not_lacksField_ok true
  | some q => exact Comparison.not_lacksField_holds (h q rfl)

private theorem HasColumns.condition {schema : Schema} {s : Statement} (h : HasColumns schema s.namedColumns) :
    HasConditionColumn schema s.condition :=
  fun q hq => h q.column (Statement.mem_namedColumns.mpr (.inr ⟨q, hq, rfl⟩))

end Query

namespace Cursor

open Query (HasColumns HasConditionColumn FirstMissing Statement)

variable {σ : Type} [RowSource σ] {c : Cursor σ}

private theorem scan_typed [TypedRowSource σ] {condition : Option Query.Comparison} (n : Nat) {s : σ}
    (h : HasConditionColumn (schema s) condition) :
    ¬ LacksField (scan condition n s).1 ∧
      ∀ row, (scan condition n s).1 = .ok (some row) → row.schema = schema s := by
  induction n generalizing s with
  | zero =>
    refine ⟨not_lacksField_ok none, ?_⟩
    intro row hrow
    cases hrow
  | succ n ih =>
    have htable := LawfulRowSource.sameTable_read s
    have hlacks := TypedRowSource.not_lacksField_read s
    unfold scan
    rcases hread : RowSource.read s with ⟨e | row, t⟩
    · rw [hread] at hlacks
      refine ⟨fun he => hlacks he.cast, ?_⟩
      intro row hrow
      cases hrow
    have hrow : row.schema = schema s := TypedRowSource.schema_of_read hread
    have ht : schema t = schema s := by
      rw [hread] at htable
      exact htable.schema
    have hsatisfies : ¬ LacksField (Query.satisfies condition row) := by
      apply Query.not_lacksField_satisfies
      rwa [hrow]
    simp only
    cases hverdict : Query.satisfies condition row with
    | error e =>
      rw [hverdict] at hsatisfies
      refine ⟨fun he => hsatisfies he.cast, ?_⟩
      intro other hother
      cases hother
    | ok found =>
      cases found with
      | true =>
        refine ⟨not_lacksField_ok _, ?_⟩
        intro other hother
        cases hother
        exact hrow
      | false =>
        rw [← ht] at h ⊢
        exact ih h

/-- A cursor whose condition is on a column of its source, and whose row has the columns of its source. -/
structure IsTyped (c : Cursor σ) : Prop where
  condition : HasConditionColumn (schema c.source) c.condition
  current : ∀ row, c.current = some row → row.schema = schema c.source

private theorem not_lacksField_closedError {α : Type} :
    ¬ LacksField (Except.error c.closedError : Except Error α) := by
  rintro ⟨column, table, h⟩
  cases h

private theorem not_lacksField_noResult {α : Type} :
    ¬ LacksField (Except.error c.noResult : Except Error α) := by
  rintro ⟨column, table, h⟩
  cases h

private theorem IsTyped.next [TypedRowSource σ] (h : c.IsTyped) : ¬ LacksField c.next.1 ∧ c.next.2.IsTyped := by
  cases hclosed : c.isClosed with
  | true =>
    rw [next_of_isClosed hclosed]
    exact ⟨not_lacksField_closedError, h⟩
  | false =>
    by_cases hspent : c.phase = .exhausted ∨ remaining c.source = 0
    · rw [next_of_spent hclosed hspent]
      exact ⟨not_lacksField_noResult, h⟩
    obtain ⟨hphase, hrem⟩ := not_or.mp hspent
    obtain ⟨hlacks, hrow⟩ := scan_typed (remaining c.source) h.condition
    have htable := (scan_sameTable c.condition (remaining c.source) c.source).schema
    rw [next_of_scan hclosed hphase hrem]
    rcases hscan : scan c.condition (remaining c.source) c.source with ⟨e | match?, s⟩
    · rw [hscan] at hlacks htable
      refine ⟨fun he => hlacks he.cast, ?_, ?_⟩
      · rw [htable]
        exact h.condition
      · rw [htable]
        exact h.current
    rw [hscan] at hrow htable
    have hcondition : HasConditionColumn (schema s) c.condition := by
      rw [htable]
      exact h.condition
    simp only
    cases hfound : match?.filter fun _ => counts c.boundary s with
    | none => exact ⟨not_lacksField_ok false, hcondition, nofun⟩
    | some row =>
      refine ⟨not_lacksField_ok true, hcondition, ?_⟩
      rintro other ⟨⟩
      obtain ⟨hmatch, -⟩ := Option.filter_eq_some_iff.mp hfound
      exact (hrow row (congrArg Except.ok hmatch)).trans htable.symm

private theorem isTyped_of_ofQuery {source : σ} {sql : String} {boundary : Boundary} {owners : Nat}
    (h : ofQuery source sql boundary owners = .ok c) : c.IsTyped := by
  obtain ⟨statement, hstatement, rfl⟩ := ofQuery_eq_ok_iff.mp h
  exact ⟨(Query.prepare_eq_ok_iff.mp hstatement).2.condition, nofun⟩

section Runs

variable [Number.DecimalArithmetic]

theorem IsTyped.perform [TypedRowSource σ] (h : c.IsTyped) (op : Operation) : (c.perform op).2.IsTyped := by
  cases op with
  | next => exact h.next.2
  | get g column =>
    obtain ⟨wasNull, hget⟩ := get_snd (c := c) g column
    change (c.get g column).2.IsTyped
    rw [hget]
    exact ⟨h.condition, h.current⟩
  | close => exact ⟨h.condition, nofun⟩
  | closeOwner i => exact ⟨h.condition, h.current⟩

private theorem IsTyped.not_lacksField_get (h : c.IsTyped) {column : ColumnRef}
    (hcolumn : (schema c.source).HasColumn column) (g : Getter) : ¬ LacksField (c.get g column).1 := by
  cases hclosed : c.isClosed with
  | true =>
    rw [get_of_isClosed hclosed]
    exact not_lacksField_closedError
  | false =>
    obtain ⟨field, hfield⟩ := Schema.exists_resolve_eq_ok hcolumn
    rw [get_fst hclosed]
    apply not_lacksField_map
    unfold reading value
    rw [hfield]
    cases hcurrent : c.current with
    | none => exact not_lacksField_noResult
    | some row =>
      have hrowField : row.schema.HasColumn (.name field.name) := by
        rw [h.current row hcurrent]
        exact ⟨field, Schema.mem_of_resolve hfield, rfl⟩
      obtain ⟨found, hfound⟩ := Schema.exists_resolve_eq_ok hrowField
      obtain ⟨value, hvalue⟩ := Row.exists_get_eq_ok hfound
      simp only [hvalue]
      exact g.not_lacksField_read (schema c.source).charset field value

/-- No run of a cursor for a statement finds a column missing: not a call of `next`, and not a getter on a
column that the statement names or the source has. -/
theorem not_lacksField_after [TypedRowSource σ] {source : σ} {sql : String} {boundary : Boundary}
    {owners : Nat} {s : Statement} (hs : s.IsWrittenAs sql.toList)
    (h : ofQuery source sql boundary owners = .ok c) (ops : List Operation) :
    ¬ LacksField (c.after ops).next.1 ∧
      ∀ name, name ∈ s.namedColumns ∨ (schema source).HasColumn (.name name) →
        ∀ g, ¬ LacksField ((c.after ops).get g (.name name)).1 := by
  have htyped : (c.after ops).IsTyped :=
    after_induction (fun _ op hd => hd.perform op) (isTyped_of_ofQuery h) ops
  obtain ⟨statement, hstatement, hc⟩ := ofQuery_eq_ok_iff.mp h
  have hsource : schema (c.after ops).source = schema source := by
    rw [(after_sameTable ops).schema, hc]
  obtain ⟨hwritten, hcolumns⟩ := Query.prepare_eq_ok_iff.mp hstatement
  have heq : statement = s :=
    Except.ok.inj ((Query.parse_eq_ok_iff.mpr hwritten).symm.trans (Query.parse_eq_ok_iff.mpr hs))
  rw [heq] at hcolumns
  refine ⟨htyped.next.1, ?_⟩
  intro name hname g
  apply htyped.not_lacksField_get
  rw [hsource]
  exact hname.elim (hcolumns name) id

/-- A text that is no statement makes a cursor over no source, and the reason is the same for all. A statement
makes a cursor, over the source as it is, exactly if all columns that it names exist, and otherwise fails with
the first that is missing. No run of that cursor finds a column missing after that. -/
theorem ofQuery_validates (source : σ) (sql : String) (boundary : Boundary) (owners : Nat) :
    ((∀ s : Statement, ¬ s.IsWrittenAs sql.toList) →
      ∃ fault, ∀ other : σ, ofQuery other sql boundary owners = .error (.query sql fault)) ∧
    ∀ s : Statement, s.IsWrittenAs sql.toList →
      (LacksField (ofQuery source sql boundary owners) ↔
        ∃ name ∈ s.namedColumns, ¬ (schema source).HasColumn (.name name)) ∧
      (∀ name, FirstMissing (schema source) s.namedColumns name →
        ofQuery source sql boundary owners = .error (.noSuchField name (schema source).table)) ∧
      (HasColumns (schema source) s.namedColumns →
        ∃ c, ofQuery source sql boundary owners = .ok c ∧ c.source = source) ∧
      ∀ [TypedRowSource σ], ∀ c, ofQuery source sql boundary owners = .ok c → ∀ ops,
        ¬ LacksField (c.after ops).next.1 ∧
        ∀ name, name ∈ s.namedColumns ∨ (schema source).HasColumn (.name name) →
          ∀ g, ¬ LacksField ((c.after ops).get g (.name name)).1 := by
  constructor
  · intro hnone
    obtain ⟨fault, hfault⟩ := Query.prepare_of_not_written hnone
    exact ⟨fault, fun other => by rw [ofQuery, hfault]⟩
  intro s hs
  have hok (hall : HasColumns (schema source) s.namedColumns) :
      ∃ c, ofQuery source sql boundary owners = .ok c ∧ c.source = source :=
    ⟨_, by rw [ofQuery, Query.prepare_of_hasColumns hs hall], rfl⟩
  have hmissing (name : String) (hname : FirstMissing (schema source) s.namedColumns name) :
      ofQuery source sql boundary owners = .error (.noSuchField name (schema source).table) := by
    rw [ofQuery, Query.prepare_of_firstMissing hs hname]
  refine ⟨⟨fun hlacks => ?_, fun h => ?_⟩, hmissing, hok, fun c hc ops => not_lacksField_after hs hc ops⟩
  · by_contra hall
    obtain ⟨c, hc, -⟩ := hok fun name hname => by_contra fun h => hall ⟨name, hname, h⟩
    rw [hc] at hlacks
    exact not_lacksField_ok c hlacks
  · obtain ⟨name, hname⟩ := Query.exists_firstMissing_iff.mpr h
    exact ⟨name, _, hmissing name hname⟩

end Runs

/-- Of two missing columns the first is reported, and a statement whose columns exist finds none missing, not
even behind the last row. -/
theorem ofQuery_validates_twoColumns :
    (∃ s : Statement, s.IsWrittenAs "SELECT B, X FROM t WHERE Y = 1".toList ∧
      ofQuery (MemorySource.ofRows (twoColumns "A" "B") []) "SELECT B, X FROM t WHERE Y = 1" .legacy 0 =
        .error (.noSuchField "X" "t")) ∧
    ∃ c, ofQuery (MemorySource.ofRows (twoColumns "A" "B") [[some [0x78]]]) "SELECT B FROM t WHERE A = 'x'"
        .standard 0 = .ok c ∧
      ¬ LacksField ((c.after [.next, .next]).get .date (.name "A")).1 := by
  have hmissing : Statement.IsWrittenAs ⟨.columns ["B", "X"], "t", some ⟨"Y", .eq, .integer 1⟩⟩
      "SELECT B, X FROM t WHERE Y = 1".toList := Query.parse_eq_ok_iff.mp (by decide +kernel)
  have hwritten : Statement.IsWrittenAs ⟨.columns ["B"], "t", some ⟨"A", .eq, .string "x"⟩⟩
      "SELECT B FROM t WHERE A = 'x'".toList := Query.parse_eq_ok_iff.mp (by decide +kernel)
  have hA : (twoColumns "A" "B").HasColumn (.name "A") := ⟨_, .head _, rfl⟩
  have hB : (twoColumns "A" "B").HasColumn (.name "B") := ⟨_, .tail _ (.head _), rfl⟩
  have hX : ¬ (twoColumns "A" "B").HasColumn (.name "X") := by
    rintro ⟨field, hfield, hname⟩
    revert field
    decide
  obtain ⟨-, hfirst, -⟩ :=
    (ofQuery_validates (MemorySource.ofRows (twoColumns "A" "B") []) _ .legacy 0).2 _ hmissing
  obtain ⟨-, -, hok, hafter⟩ :=
    (ofQuery_validates (MemorySource.ofRows (twoColumns "A" "B") [[some [0x78]]]) _ .standard 0).2 _ hwritten
  refine ⟨⟨_, hmissing, hfirst "X" ⟨["B"], ["Y"], rfl, ?_, hX⟩⟩, ?_⟩
  · exact List.forall_mem_singleton.mpr hB
  · obtain ⟨c, hc, -⟩ := hok (List.forall_mem_cons.mpr ⟨hB, List.forall_mem_singleton.mpr hA⟩)
    exact ⟨c, hc, (hafter c hc [.next, .next]).2 "A" (.inl (.tail _ (.head _))) .date⟩

end Cursor

end Xbase
