import Mathlib.Data.List.Induction
import Mathlib.Data.String.Basic
import Xbase.Proofs.Session.Step
import Xbase.Proofs.Table.MemoryCopy
/-!
# What a history makes

What was made in a history is there at its end, with the switches that it was handed, and nothing else is there.
-/
namespace Xbase.Session

private theorem concat_eq_none_or {α : Type} {xs : List α} {i : Nat} (h : xs[i]? = none) (x : α) :
    (xs ++ [x])[i]? = none ∨ i = xs.length := by
  rw [getElem?_concat]
  split
  · rename_i hi
    exact .inr hi
  · exact .inl h

section Runs

variable [Number.DecimalArithmetic] {s : Session} {history : List Action} {j m k : Nat}

theorem after_induction {p : Session → Prop} (hstep : ∀ s a, p s → p (s.perform a).2) (h : p s)
    (history : List Action) : p (s.after history) := by
  induction history generalizing s with
  | nil => exact h
  | cons a history ih => exact ih (hstep s a h)

theorem after_append (history more : List Action) : s.after (history ++ more) = (s.after history).after more :=
  List.foldl_append

theorem wired_after (history : List Action) : (empty.after history).Wired := by
  refine after_induction (fun _ a h => h.perform a) ⟨?_, ?_⟩ history
  · intro a i ha
    cases a <;> cases ha
  · intro a b i ha
    cases a <;> cases ha

/-- Whether an action is part of a history and was answered as given. -/
def Returned (history : List Action) (a : Action) (answer : Answer) : Prop :=
  ∃ before rest, history = before ++ a :: rest ∧ ((empty.after before).perform a).1 = answer

theorem Returned.mem {a : Action} {answer : Answer} (h : Returned history a answer) : a ∈ history := by
  obtain ⟨before, rest, rfl, -⟩ := h
  exact List.mem_append_right _ List.mem_cons_self

theorem after_concat (history : List Action) (a : Action) :
    s.after (history ++ [a]) = ((s.after history).perform a).2 := after_append history [a]

theorem returned_concat {a b : Action} {answer : Answer} :
    Returned (history ++ [b]) a answer ↔
      Returned history a answer ∨ b = a ∧ ((empty.after history).perform a).1 = answer := by
  constructor
  · rintro ⟨before, rest, h, hanswer⟩
    rcases List.eq_nil_or_concat rest with rfl | ⟨rest, last, rfl⟩
    · obtain ⟨rfl, hlast⟩ := List.append_inj' h rfl
      exact .inr ⟨List.singleton_inj.mp hlast, hanswer⟩
    · rw [List.concat_eq_append, ← List.cons_append, ← List.append_assoc] at h
      obtain ⟨rfl, -⟩ := List.append_inj' h rfl
      exact .inl ⟨before, rest, rfl, hanswer⟩
  · rintro (⟨before, rest, rfl, hanswer⟩ | ⟨rfl, hanswer⟩)
    · exact ⟨before, rest ++ [b], by simp, hanswer⟩
    · exact ⟨history, [], rfl, hanswer⟩

/-- What an answer brings about, and each action keeps, is so at the end of a history with that answer. -/
theorem of_returned {p : Session → Prop} {a : Action} {answer : Answer} (h : Returned history a answer)
    (hmade : ∀ s : Session, (s.perform a).1 = answer → p (s.perform a).2)
    (hstep : ∀ s a, p s → p (s.perform a).2) : p (empty.after history) := by
  obtain ⟨before, rest, rfl, hanswer⟩ := h
  rw [after_append]
  exact after_induction hstep (hmade _ hanswer) rest

theorem exists_opened_of_returned {path : String} {options : Options}
    (h : Returned history (.connect path options) (.created j)) :
    ∃ c, (empty.after history).opened[j]? = some c ∧ c.path = path ∧ c.options = options := by
  apply of_returned (p := fun s => ∃ c, s.opened[j]? = some c ∧ c.path = path ∧ c.options = options) h
  · intro s hanswer
    have heffect := s.effect_perform (.connect path options)
    generalize s.perform _ = r at heffect hanswer
    cases heffect with
    | spared files spares answer_ne => exact absurd hanswer (answer_ne j)
    | thrown => cases hanswer
    | connected hpath hoptions =>
      cases hanswer
      exact ⟨_, List.getElem?_concat_length, hpath, hoptions⟩
  · rintro s a ⟨c, hc, hpath, hoptions⟩
    exact ⟨c, opened_perform hc a, hpath, hoptions⟩

theorem exists_statementOf_of_returned (h : Returned history (.createStatement j) (.created m)) :
    ∃ c x, (empty.after history).StatementOf j m c x := by
  apply of_returned (p := fun s => ∃ c x, s.StatementOf j m c x) h
  · intro s hanswer
    have heffect := s.effect_perform (.createStatement j)
    generalize s.perform _ = r at heffect hanswer
    cases heffect with
    | spared files spares answer_ne => exact absurd hanswer (answer_ne m)
    | thrown => cases hanswer
    | @stated _ c hc =>
      cases hanswer
      exact ⟨c, _, hc, List.getElem?_concat_length, rfl, rfl, rfl⟩
  · rintro s a ⟨c, x, hx⟩
    exact ⟨c, x, hx.perform a⟩

/-- A query that is answered with a result has a table and a cursor, and puts the result behind the others. -/
theorem eq_of_execute_created {sql : String} (h : (s.perform (.execute m sql)).1 = .created k) :
    ∃ x reader cursor, s.statements[m]? = some x ∧ s.isClosed x = false ∧
      openTable s.files x.path x.options = .ok reader ∧
      Cursor.ofQuery reader sql x.options.boundary 2 = .ok cursor ∧
      (s.perform (.execute m sql)).2.ResultOf k x ⟨[x.connection, x.closed], cursor⟩ := by
  have heffect := s.effect_perform (.execute m sql)
  generalize s.perform _ = r at heffect h
  cases heffect with
  | spared files spares answer_ne => exact absurd h (answer_ne k)
  | thrown => cases h
  | executed hx isOpen hreader hcursor =>
    cases h
    exact ⟨_, _, _, hx, isOpen, hreader, hcursor, List.getElem?_concat_length, rfl⟩

theorem exists_resultOf_of_returned {sql : String} (h : Returned history (.execute m sql) (.created k)) :
    ∃ x r, (empty.after history).statements[m]? = some x ∧ (empty.after history).ResultOf k x r := by
  apply of_returned (p := fun s => ∃ x r, s.statements[m]? = some x ∧ s.ResultOf k x r) h
  · intro s hanswer
    obtain ⟨x, reader, cursor, hx, -, -, -, hr⟩ := eq_of_execute_created hanswer
    exact ⟨x, _, statements_perform hx _, hr⟩
  · rintro s a ⟨x, r, hx, hr⟩
    exact ⟨x, _, statements_perform hx a, hr.perform a⟩

private theorem returned_of_getElem? {α : Type} {list : Session → List α} {i : Nat} {made : Action → Prop}
    (hempty : list empty = [])
    (hstep : ∀ s a, (list s)[i]? = none → (list (s.perform a).2)[i]? = none ∨ made a ∧ (s.perform a).1 = .created i)
    {history : List Action} {x : α} (h : (list (empty.after history))[i]? = some x) :
    ∃ a, made a ∧ Returned history a (.created i) := by
  induction history using List.reverseRecOn generalizing x with
  | nil =>
    rw [after, List.foldl_nil, hempty] at h
    cases h
  | append_singleton history a ih =>
    rw [after_concat] at h
    cases hold : (list (empty.after history))[i]? with
    | some y =>
      obtain ⟨b, hb, hreturned⟩ := ih hold
      exact ⟨b, hb, returned_concat.mpr (.inl hreturned)⟩
    | none =>
      rcases hstep _ a hold with hnone | ⟨ha, hanswer⟩
      · cases hnone.symm.trans h
      · exact ⟨a, ha, returned_concat.mpr (.inr ⟨rfl, hanswer⟩)⟩

theorem returned_of_opened {c : Handle} (h : (empty.after history).opened[j]? = some c) :
    ∃ path options, Returned history (.connect path options) (.created j) := by
  have hstep (s : Session) (a : Action) (hnone : s.opened[j]? = none) :
      (s.perform a).2.opened[j]? = none ∨
        (∃ path options, a = .connect path options) ∧ (s.perform a).1 = .created j := by
    have heffect := s.effect_perform a
    generalize s.perform a = after at heffect
    cases heffect with
    | connected => exact (concat_eq_none_or hnone _).imp_right fun hj => ⟨⟨_, _, rfl⟩, congrArg _ hj.symm⟩
    | _ => exact .inl hnone
  obtain ⟨_, ⟨path, options, rfl⟩, hreturned⟩ := returned_of_getElem? rfl hstep h
  exact ⟨path, options, hreturned⟩

theorem returned_of_statement {x : Statement} (h : (empty.after history).statements[m]? = some x) :
    ∃ j, Returned history (.createStatement j) (.created m) := by
  have hstep (s : Session) (a : Action) (hnone : s.statements[m]? = none) :
      (s.perform a).2.statements[m]? = none ∨
        (∃ j, a = .createStatement j) ∧ (s.perform a).1 = .created m := by
    have heffect := s.effect_perform a
    generalize s.perform a = after at heffect
    cases heffect with
    | stated => exact (concat_eq_none_or hnone _).imp_right fun hm => ⟨⟨_, rfl⟩, congrArg _ hm.symm⟩
    | _ => exact .inl hnone
  obtain ⟨_, ⟨j, rfl⟩, hreturned⟩ := returned_of_getElem? rfl hstep h
  exact ⟨j, hreturned⟩

theorem returned_of_executed {r : Result} (h : (empty.after history).executed[k]? = some r) :
    ∃ m sql, Returned history (.execute m sql) (.created k) := by
  have hstep (s : Session) (a : Action) (hnone : s.executed[k]? = none) :
      (s.perform a).2.executed[k]? = none ∨
        (∃ m sql, a = .execute m sql) ∧ (s.perform a).1 = .created k := by
    have heffect := s.effect_perform a
    generalize s.perform a = after at heffect
    cases heffect with
    | executed => exact (concat_eq_none_or hnone _).imp_right fun hk => ⟨⟨_, _, rfl⟩, congrArg _ hk.symm⟩
    | operated => exact .inl (by rwa [List.getElem?_eq_none_iff, List.length_set, ← List.getElem?_eq_none_iff])
    | _ => exact .inl hnone
  obtain ⟨_, ⟨m, sql, rfl⟩, hreturned⟩ := returned_of_getElem? rfl hstep h
  exact ⟨m, sql, hreturned⟩

end Runs

section Example

open Table.Reader (smallTable)

/-- A history that writes a table, connects to it and makes two statements. -/
def smallHistory : List Action :=
  [.write "t" smallTable.bytes, .connect "t" ⟨none, false, .standard⟩, .createStatement 0, .createStatement 0]

def smallReader : Table.Reader where
  header := ⟨3, Date.of? 2024 2 29, 2, 65, 2, 3⟩
  schema := ⟨"t", [⟨"A", .character, 1, 0⟩], .page .windows1252⟩
  origin := .languageDriver
  identity := "t"
  body := [0x20, 0x78, 0x2A, 0x79, 0x1A]
  rest := [0x20, 0x78, 0x2A, 0x79, 0x1A]
  rowNumber := 0
  deleted := false

/-- The session after that history, once queries have been run. -/
def smallSession (executed : List Result) : Session where
  files := ⟨[(["t"], .file smallTable.bytes)]⟩
  switches := [false, false, false]
  opened := [⟨⟨"t", ⟨none, false, .standard⟩, smallReader.header, smallReader.schema⟩, 0⟩]
  statements := [⟨"t", ⟨none, false, .standard⟩, 0, 1⟩, ⟨"t", ⟨none, false, .standard⟩, 0, 2⟩]
  executed := executed

theorem steps_small : steps "t" = ["t"] := by
  unfold steps String.splitOn
  rw [if_neg (by decide), String.splitOnAux, if_neg (by decide), if_neg (by decide), String.splitOnAux,
    if_pos (by decide)]
  decide

theorem read?_small : (smallSession []).files.read? "t" = some smallTable.bytes := by
  unfold Files.read?
  rw [steps_small]
  rfl

theorem openTable_small : openTable (smallSession []).files "t" ⟨none, false, .standard⟩ = .ok smallReader := by
  unfold openTable tableName
  rw [read?_small, steps_small]
  change Table.Reader.ofBytes ⟨"t", "t", none, none⟩ smallTable.bytes = .ok smallReader
  decide +kernel

def smallCursor (origin : Charset.Origin) : Cursor Table.Reader where
  source := { smallReader with origin := origin }
  sql := "SELECT * FROM t"
  condition := none
  boundary := .standard
  phase := .beforeFirst
  current := none
  wasNull := false
  closed := false
  owners := [false, false]

theorem ofQuery_small (origin : Charset.Origin) :
    Cursor.ofQuery { smallReader with origin := origin } "SELECT * FROM t" .standard 2 =
      .ok (smallCursor origin) := by
  have hprepare : Query.prepare "SELECT * FROM t" smallReader.schema = .ok ⟨.all, "t", none⟩ := by
    decide +kernel
  exact Cursor.ofQuery_eq_ok_iff.mpr ⟨_, hprepare, rfl⟩

variable [Number.DecimalArithmetic]

theorem after_smallHistory : empty.after smallHistory = smallSession [] := by
  have hwrite : (empty.perform (.write "t" smallTable.bytes)).2 =
      { empty with files := (smallSession []).files } := by
    unfold perform Files.write
    simp only
    rw [steps_small]
    rfl
  change ((((empty.perform (.write "t" _)).2.perform (.connect "t" _)).2.perform _).2.perform _).2 = _
  rw [hwrite, perform_connect, openTable_small]
  rfl

theorem perform_execute_small (executed : List Result) {m : Nat} (hm : m < 2) :
    (smallSession executed).perform (.execute m "SELECT * FROM t") =
      (.created executed.length, smallSession (executed ++ [⟨[0, m + 1], smallCursor .languageDriver⟩])) := by
  have hreader : openTable (smallSession executed).files "t" ⟨none, false, .standard⟩ = .ok smallReader :=
    openTable_small
  have hcursor : Cursor.ofQuery smallReader "SELECT * FROM t" .standard 2 = .ok (smallCursor .languageDriver) :=
    ofQuery_small .languageDriver
  have hx : (smallSession executed).statements[m]? = some ⟨"t", ⟨none, false, .standard⟩, 0, m + 1⟩ := by
    obtain rfl | rfl : m = 0 ∨ m = 1 := by omega
    · rfl
    · rfl
  have hopen : (smallSession executed).isClosed ⟨"t", ⟨none, false, .standard⟩, 0, m + 1⟩ = false := by
    obtain rfl | rfl : m = 0 ∨ m = 1 := by omega
    · rfl
    · rfl
  rw [perform_execute, hx]
  simp only [hopen, Bool.false_eq_true, if_false, hreader, hcursor]
  rfl

end Example

end Xbase.Session
