import Xbase.Proofs.Query.Sentence
import Xbase.Proofs.Row
import Xbase.Query.Preparation
/-!
# What preparing a query requires

A text is a query on a table exactly if it is written as a statement and every column that the statement names
exists. If it is no statement, the table does not matter; otherwise the missing column that is named first is
the one reported.
-/
namespace Xbase.Query

variable {schema : Schema} {sql : String} {s : Statement} {names : List String}

def Statement.IsWrittenAs (s : Statement) (sql : List Char) : Prop :=
  ∃ tokens, tokenize sql = .ok tokens ∧ IsSentence s tokens

def HasColumns (schema : Schema) (names : List String) : Prop := ∀ name ∈ names, schema.HasColumn (.name name)

/-- Whether a name is the first in a list for which there is no column. -/
def FirstMissing (schema : Schema) (names : List String) (name : String) : Prop :=
  ∃ before after, names = before ++ name :: after ∧ HasColumns schema before ∧ ¬ schema.HasColumn (.name name)

theorem parse_eq_ok_iff {sql : List Char} : parse sql = .ok s ↔ s.IsWrittenAs sql := by
  unfold parse Statement.IsWrittenAs
  cases htokens : tokenize sql with
  | error fault => simp
  | ok tokens => simp [readStatement_eq_ok_iff (endsOnce_of_tokenize htokens)]

theorem hasColumns_cons {name : String} :
    HasColumns schema (name :: names) ↔ schema.HasColumn (.name name) ∧ HasColumns schema names :=
  List.forall_mem_cons

theorem firstMissing_cons {name other : String} :
    FirstMissing schema (name :: names) other ↔
      (¬ schema.HasColumn (.name name) ∧ name = other) ∨
        (schema.HasColumn (.name name) ∧ FirstMissing schema names other) := by
  constructor
  · rintro ⟨before, after, h, hbefore, hother⟩
    cases before with
    | nil =>
      obtain ⟨rfl, -⟩ := List.cons.inj h
      exact .inl ⟨hother, rfl⟩
    | cons first before =>
      obtain ⟨rfl, htail⟩ := List.cons.inj h
      obtain ⟨hfirst, hbefore⟩ := hasColumns_cons.mp hbefore
      exact .inr ⟨hfirst, before, after, htail, hbefore, hother⟩
  · rintro (⟨hname, rfl⟩ | ⟨hname, before, after, rfl, hbefore, hother⟩)
    · exact ⟨[], names, rfl, nofun, hname⟩
    · exact ⟨name :: before, after, rfl, hasColumns_cons.mpr ⟨hname, hbefore⟩, hother⟩

theorem exists_firstMissing_iff :
    (∃ name, FirstMissing schema names name) ↔ ∃ name ∈ names, ¬ schema.HasColumn (.name name) := by
  induction names with
  | nil =>
    constructor
    · rintro ⟨name, before, after, h, -⟩
      cases before <;> cases h
    · rintro ⟨name, h, -⟩
      cases h
  | cons name names ih =>
    simp only [firstMissing_cons, List.mem_cons, exists_eq_or_imp]
    by_cases h : schema.HasColumn (.name name)
    · simp only [h, not_true_eq_false, false_and, true_and, false_or, ih]
    · simp only [h, not_false_eq_true, true_and, false_and, or_false, true_or, exists_eq']

theorem requireColumns_eq_ok_iff : requireColumns schema names = .ok () ↔ HasColumns schema names := by
  induction names with
  | nil => exact ⟨fun _ => nofun, fun _ => rfl⟩
  | cons name names ih =>
    rw [hasColumns_cons, ← ih, requireColumns]
    by_cases h : schema.HasColumn (.name name)
    · obtain ⟨field, hfield⟩ := Schema.exists_resolve_eq_ok h
      change schema.field name = .ok field at hfield
      simp only [hfield, h, true_and]
    · have hfield : schema.field name = .error _ := Schema.resolve_of_not_hasColumn h
      simp only [hfield, h, false_and, reduceCtorEq]

theorem requireColumns_eq_error_iff {e : Error} :
    requireColumns schema names = .error e ↔
      ∃ name, FirstMissing schema names name ∧ e = .noSuchField name schema.table := by
  induction names with
  | nil =>
    constructor
    · nofun
    · rintro ⟨name, ⟨before, after, h, -⟩, -⟩
      cases before <;> cases h
  | cons name names ih =>
    simp only [firstMissing_cons, requireColumns]
    by_cases h : schema.HasColumn (.name name)
    · obtain ⟨field, hfield⟩ := Schema.exists_resolve_eq_ok h
      change schema.field name = .ok field at hfield
      simp only [hfield, ih, h, not_true_eq_false, false_and, true_and, false_or]
    · have hfield : schema.field name = .error _ := Schema.resolve_of_not_hasColumn h
      simp only [hfield, h, not_false_eq_true, true_and, false_and, or_false, exists_eq_left',
        Except.error.injEq]
      exact eq_comm

theorem prepare_of_not_written (h : ∀ s : Statement, ¬ s.IsWrittenAs sql.toList) :
    ∃ fault, ∀ schema, prepare sql schema = .error (.query sql fault) := by
  cases hparse : parse sql.toList with
  | ok s => exact absurd (parse_eq_ok_iff.mp hparse) (h s)
  | error fault => exact ⟨fault, fun schema => by rw [prepare, hparse]⟩

theorem prepare_of_hasColumns (h : s.IsWrittenAs sql.toList) (hcolumns : HasColumns schema s.namedColumns) :
    prepare sql schema = .ok s := by
  simp only [prepare, parse_eq_ok_iff.mpr h, requireColumns_eq_ok_iff.mpr hcolumns]

/-- A statement that names a missing column is refused with the first one. -/
theorem prepare_of_firstMissing {name : String} (h : s.IsWrittenAs sql.toList)
    (hmissing : FirstMissing schema s.namedColumns name) :
    prepare sql schema = .error (.noSuchField name schema.table) := by
  simp only [prepare, parse_eq_ok_iff.mpr h, requireColumns_eq_error_iff.mpr ⟨name, hmissing, rfl⟩]

theorem prepare_eq_ok_iff :
    prepare sql schema = .ok s ↔ s.IsWrittenAs sql.toList ∧ HasColumns schema s.namedColumns := by
  constructor
  · intro h
    unfold prepare at h
    split at h
    · cases h
    rename_i hparse
    split at h
    · rename_i hcolumns
      obtain rfl := Except.ok.inj h
      exact ⟨parse_eq_ok_iff.mp hparse, requireColumns_eq_ok_iff.mp hcolumns⟩
    · cases h
  · rintro ⟨h, hcolumns⟩
    exact prepare_of_hasColumns h hcolumns

end Xbase.Query
