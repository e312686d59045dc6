import Xbase.Proofs.Cursor.Lifecycle
import Xbase.Proofs.Cursor.Walk
import Xbase.Proofs.Query.Misfit
/-!
# Walks under a condition that does not fit

A condition fits all rows of a table or none. So a walk meets the error of a condition that does not fit at each
row that it reads or at none.
-/
namespace Xbase

open RowSource (schema rowNumber read remaining)

/-- The rows of a number of reads, up to the first that fails. -/
def RowSource.handed {σ : Type} [RowSource σ] : Nat → σ → List Row
  | 0, _ => []
  | n + 1, s =>
    match read s with
    | (.ok row, t) => row :: handed n t
    | (.error _, _) => []

/-- A source whose attempts to read never fail as if a condition did not fit. -/
class BlamelessRowSource (σ : Type) [RowSource σ] : Prop extends TypedRowSource σ where
  not_isMisfit_of_read {s t : σ} {e : Error} (h : read s = (.error e, t)) : ¬ e.IsMisfit

instance : BlamelessRowSource MemorySource where
  not_isMisfit_of_read {s t e} h := by
    change s.read = _ at h
    unfold MemorySource.read at h
    split at h
    · cases h
    · cases h
      exact nofun

instance : BlamelessRowSource Table.Reader where
  not_isMisfit_of_read {r r' e} h := by
    change r.read = _ at h
    unfold Table.Reader.read at h
    split at h
    · cases h
      exact nofun
    · split at h
      · cases h
        exact nofun
      · cases h

namespace Cursor

open RowSource (handed)

variable {σ : Type} [RowSource σ] {c : Cursor σ}

/-- The rows that a call of `next` reads and compares with its condition. -/
def evaluated (c : Cursor σ) : List Row := handed (rowNumber c.next.2.source - rowNumber c.source) c.source

private theorem schema_of_mem_handed [TypedRowSource σ] {n : Nat} {s : σ} {row : Row} (h : row ∈ handed n s) :
    row.schema = schema s := by
  induction n generalizing s with
  | zero => cases h
  | succ n ih =>
    have htable := LawfulRowSource.sameTable_read s
    unfold handed at h
    rcases hread : read s with ⟨e | first, t⟩
    · rw [hread] at h
      cases h
    · rw [hread] at h htable
      rcases List.mem_cons.mp h with rfl | h
      · exact TypedRowSource.schema_of_read hread
      · exact (ih h).trans htable.schema

/-- Whether the result of a scan is settled by a number of rows that it has read: it counts them, it fails as
the condition fails on any of them, and it fails as a misfit on account of one of them only. -/
structure Settled (condition : Option Query.Comparison) (s : σ) (k : Nat)
    (r : Except Error (Option Row) × σ) : Prop where
  rowNumber_eq : rowNumber r.2 = rowNumber s + k
  length_eq : (handed k s).length = k
  error_of_mem : ∀ row ∈ handed k s, ∀ e, Query.satisfies condition row = .error e → r.1 = .error e
  exists_mem : ∀ e, e.IsMisfit → r.1 = .error e → ∃ row ∈ handed k s, Query.satisfies condition row = .error e

private theorem Settled.cons [CountingRowSource σ] {condition : Option Query.Comparison} {s t : σ} {row : Row} {k : Nat}
    {r : Except Error (Option Row) × σ} (hread : read s = (.ok row, t))
    (hrow : Query.satisfies condition row = .ok false) (h : Settled condition t k r) :
    Settled condition s (k + 1) r := by
  have hhanded : handed (k + 1) s = row :: handed k t := by rw [handed, hread]
  refine ⟨?_, ?_, ?_, ?_⟩
  · rw [h.rowNumber_eq, CountingRowSource.rowNumber_of_ok hread]
    omega
  · rw [hhanded, List.length_cons, h.length_eq]
  · rw [hhanded]
    intro other hother e he
    rcases List.mem_cons.mp hother with rfl | hother
    · cases hrow.symm.trans he
    · exact h.error_of_mem other hother e he
  · intro e he hr
    obtain ⟨other, hother, hfails⟩ := h.exists_mem e he hr
    rw [hhanded]
    exact ⟨other, List.mem_cons_of_mem _ hother, hfails⟩

private theorem settled_last [CountingRowSource σ] {condition : Option Query.Comparison} {s t : σ} {row : Row}
    {found : Except Error (Option Row)} (hread : read s = (.ok row, t))
    (hrow : ∀ e, Query.satisfies condition row = .error e ↔ found = .error e) :
    Settled condition s 1 (found, t) := by
  have hhanded : handed 1 s = [row] := by rw [handed, hread]; rfl
  refine ⟨CountingRowSource.rowNumber_of_ok hread, ?_, ?_, ?_⟩
  · rw [hhanded]
    rfl
  · rw [hhanded]
    rintro other (_ | ⟨_, ⟨⟩⟩) e he
    exact (hrow e).mp he
  · rw [hhanded]
    intro e _ hfound
    exact ⟨row, .head _, (hrow e).mpr hfound⟩

private theorem exists_settled [CountingRowSource σ] [BlamelessRowSource σ] (condition : Option Query.Comparison)
    (n : Nat) (s : σ) : ∃ k, Settled condition s k (scan condition n s) := by
  induction n generalizing s with
  | zero =>
    refine ⟨0, rfl, rfl, nofun, ?_⟩
    intro e _ h
    cases h
  | succ n ih =>
    unfold scan
    rcases hread : read s with ⟨e | row, t⟩
    · -- A read that fails is not counted, and the source is not at fault as a condition would be.
      refine ⟨0, CountingRowSource.rowNumber_of_error hread, rfl, nofun, ?_⟩
      intro e' he' heq
      cases heq
      exact absurd he' (BlamelessRowSource.not_isMisfit_of_read hread)
    simp only
    cases hrow : Query.satisfies condition row with
    | error e =>
      refine ⟨1, settled_last hread fun e' => ?_⟩
      rw [hrow, Except.error.injEq, Except.error.injEq]
    | ok holds =>
      cases holds with
      | true =>
        refine ⟨1, settled_last hread fun e' => ?_⟩
        rw [hrow]
        exact iff_of_false nofun nofun
      | false =>
        obtain ⟨k, hk⟩ := ih t
        exact ⟨k + 1, hk.cons hread hrow⟩

/-- What a call of `next` comes to, as far as the rows it evaluates settle it. -/
structure NextSettled (c : Cursor σ) : Prop where
  rowNumber_eq : rowNumber c.next.2.source = rowNumber c.source + c.evaluated.length
  error_of_mem : ∀ row ∈ c.evaluated, ∀ e, Query.satisfies c.condition row = .error e → c.next.1 = .error e
  exists_mem : ∀ e, e.IsMisfit → c.next.1 = .error e →
    ∃ row ∈ c.evaluated, Query.satisfies c.condition row = .error e

private theorem nextSettled_of_refused {e : Error} (hnext : c.next = (.error e, c)) (he : ¬ e.IsMisfit) :
    c.NextSettled := by
  have hevaluated : c.evaluated = [] := by
    rw [evaluated, hnext, Nat.sub_self]
    rfl
  refine ⟨?_, ?_, ?_⟩
  · rw [hevaluated, hnext]
    rfl
  · rw [hevaluated]
    exact nofun
  · intro e' he' heq
    rw [hnext] at heq
    cases heq
    exact absurd he' he

private theorem next_error_iff_of_scan (hopen : c.isClosed = false) (hphase : c.phase ≠ .exhausted)
    (hrem : remaining c.source ≠ 0) :
    c.next.2.source = (scan c.condition (remaining c.source) c.source).2 ∧
      ∀ e, c.next.1 = .error e ↔ (scan c.condition (remaining c.source) c.source).1 = .error e := by
  rw [next_of_scan hopen hphase hrem]
  rcases scan c.condition (remaining c.source) c.source with ⟨e | match?, s⟩
  · refine ⟨rfl, fun e' => ?_⟩
    rw [Except.error.injEq, Except.error.injEq]
  · simp only
    split <;> exact ⟨rfl, fun e => iff_of_false nofun nofun⟩

theorem nextSettled [CountingRowSource σ] [BlamelessRowSource σ] (c : Cursor σ) : c.NextSettled := by
  cases hclosed : c.isClosed with
  | true => exact nextSettled_of_refused (next_of_isClosed hclosed) nofun
  | false =>
    by_cases hspent : c.phase = .exhausted ∨ remaining c.source = 0
    · exact nextSettled_of_refused (next_of_spent hclosed hspent) nofun
    obtain ⟨hphase, hrem⟩ := not_or.mp hspent
    obtain ⟨hsource, hiff⟩ := next_error_iff_of_scan hclosed hphase hrem
    obtain ⟨k, hk⟩ := exists_settled c.condition (remaining c.source) c.source
    have hevaluated : c.evaluated = handed k c.source := by
      rw [evaluated, hsource, hk.rowNumber_eq, Nat.add_sub_cancel_left]
    refine ⟨?_, ?_, ?_⟩
    · rw [hsource, hevaluated, hk.length_eq, hk.rowNumber_eq]
    · rw [hevaluated]
      exact fun row hrow e he => (hiff e).mpr (hk.error_of_mem row hrow e he)
    · rw [hevaluated]
      exact fun e he hnext => hk.exists_mem e he ((hiff e).mp hnext)

section Runs

variable [Number.DecimalArithmetic]

private theorem schema_of_mem_evaluated [TypedRowSource σ] {ops : List Operation} {row : Row}
    (h : row ∈ (c.after ops).evaluated) : row.schema = schema c.source :=
  (schema_of_mem_handed h).trans (after_sameTable ops).schema

private theorem satisfies_misfit_congr [TypedRowSource σ] {ops ops' : List Operation} {row row' : Row} {e : Error}
    (h : row ∈ (c.after ops).evaluated) (h' : row' ∈ (c.after ops').evaluated) (he : e.IsMisfit) :
    Query.satisfies c.condition row = .error e ↔ Query.satisfies c.condition row' = .error e := by
  cases c.condition with
  | none => exact iff_of_false nofun nofun
  | some q =>
    exact q.holds_eq_misfit_congr ((schema_of_mem_evaluated h).trans (schema_of_mem_evaluated h').symm) he

/-- Whether a condition fits is settled by the columns and not by the data. It fails as a misfit on all rows of a
table, with the same error, or on none; only the type of its column counts, and a literal that does not fit is
reported whatever the value is. So if a walk evaluates a row on which the condition is no misfit, `next` never
fails as if it were one, and if the condition is a misfit on a row then `next` fails with that error whenever it
evaluates any. -/
theorem misfit_of_schema [CountingRowSource σ] [BlamelessRowSource σ] (c : Cursor σ) :
    (∀ (q : Query.Comparison) (row row' : Row) (e : Error), row.schema = row'.schema → e.IsMisfit →
      (q.holds row = .error e ↔ q.holds row' = .error e)) ∧
    (∀ (q q' : Query.Comparison) (row row' : Row) (field field' : Field),
      row.schema.field q.column = .ok field → row'.schema.field q'.column = .ok field' →
      field.type = field'.type → q.operator = q'.operator → q.literal = q'.literal →
      ((∃ e, e.IsMisfit ∧ q.holds row = .error e) ↔ ∃ e, e.IsMisfit ∧ q'.holds row' = .error e)) ∧
    (∀ (q : Query.Comparison) (row : Row) (field : Field) (e : Error),
      row.schema.field q.column = .ok field → q.operand field = .error e →
      e.IsMisfit ∧ q.holds row = .error e) ∧
    (∀ ops, rowNumber (c.after ops).next.2.source =
      rowNumber (c.after ops).source + (c.after ops).evaluated.length) ∧
    (∀ ops, ∀ row ∈ (c.after ops).evaluated,
      (∀ e, e.IsMisfit → Query.satisfies c.condition row ≠ .error e) →
      ∀ ops' e, e.IsMisfit → (c.after ops').next.1 ≠ .error e) ∧
    (∀ ops, ∀ row ∈ (c.after ops).evaluated, ∀ e, e.IsMisfit → Query.satisfies c.condition row = .error e →
      ∀ ops', (c.after ops').evaluated ≠ [] → (c.after ops').next.1 = .error e) := by
  refine ⟨fun q row row' e hschema he => q.holds_eq_misfit_congr hschema he,
    fun q q' row row' field field' hfield hfield' htype hoperator hliteral =>
      Query.Comparison.exists_misfit_congr hfield hfield' htype hoperator hliteral,
    fun q row field e hfield hoperand => ?_, fun ops => (c.after ops).nextSettled.rowNumber_eq, ?_, ?_⟩
  · have hfit := q.fit_operand field
    rw [hoperand] at hfit
    exact ⟨hfit.isMisfit, Query.Comparison.holds_of_operand_error hfield hoperand⟩
  · intro ops row hrow hfits ops' e he hnext
    obtain ⟨row', hrow', hfails⟩ := (c.after ops').nextSettled.exists_mem e he hnext
    rw [(after_sameQuery ops').condition] at hfails
    exact hfits e he ((satisfies_misfit_congr hrow hrow' he).mpr hfails)
  · intro ops row hrow e he hfails ops' hne
    obtain ⟨row', hrow'⟩ := List.exists_mem_of_ne_nil _ hne
    have hfails' := (satisfies_misfit_congr hrow hrow' he).mp hfails
    rw [← (after_sameQuery ops').condition] at hfails'
    exact (c.after ops').nextSettled.error_of_mem row' hrow' e hfails'

end Runs

/-- A cursor for the numbers greater than a literal, over records of which the second holds no number. -/
def greaterCursor (literal : Query.Literal) : Cursor MemorySource where
  source := .ofRows numberColumn numberRecords
  sql := "SELECT * FROM t"
  condition := some ⟨"N", .gt, literal⟩
  boundary := .standard
  phase := .beforeFirst
  current := none
  wasNull := false
  closed := false
  owners := []

/-- A text that is no number is refused at the record that holds none, as it was at the first, and a number is
never refused there. -/
theorem misfit_of_schema_numberRecords :
    (greaterCursor (.string "abc")).next.1 =
        .error (.illegalParameter "N" .numeric (.string "abc") .notNumber) ∧
      ((greaterCursor (.string "abc")).after [.next]).next.1 =
        .error (.illegalParameter "N" .numeric (.string "abc") .notNumber) ∧
      ((greaterCursor (.integer 1)).after [.next]).next.1 = .error (.notNumeric "N" .numeric "x") ∧
      ∀ ops e, e.IsMisfit → ((greaterCursor (.integer 1)).after ops).next.1 ≠ .error e := by
  obtain ⟨-, -, -, -, -, hall⟩ := misfit_of_schema (greaterCursor (.string "abc"))
  obtain ⟨-, -, -, -, hnever, -⟩ := misfit_of_schema (greaterCursor (.integer 1))
  have hmisfit := hall [] (.ofValues numberColumn [some [0x32]]) (by decide +kernel) _
    (.illegalParameter "N" .numeric (.string "abc") .notNumber) (by decide +kernel)
  have hok : Query.satisfies (greaterCursor (.integer 1)).condition (.ofValues numberColumn [some [0x32]]) =
      .ok true := by decide +kernel
  refine ⟨hmisfit [] (by decide +kernel), hmisfit [.next] (by decide +kernel), by decide +kernel,
    hnever [] (.ofValues numberColumn [some [0x32]]) (by decide +kernel) fun e _ herror => ?_⟩
  cases hok.symm.trans herror

end Cursor

end Xbase
