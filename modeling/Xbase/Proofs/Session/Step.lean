import Xbase.Proofs.Cursor.Step
import Xbase.Session.Action
/-!
# Steps of a session

What each action returns and does. Connections and statements never change once they are made, and a result
changes by the operations on it alone: what an action can do to anything else, it does by throwing a switch. No two
of them have a switch in common of their own, and all switches that were handed down are switches of their own of
what handed them down.
-/
namespace Xbase.Session

variable {s : Session} {j m k : Nat}

def Answer.ofOutcome : Except Error Outcome → Answer
  | .ok o => .outcome o
  | .error e => .failed (.error e)

private theorem codePageFile_cases (files : Files) (path : String) :
    codePageFile files path = .error .io ∨ ∃ label, codePageFile files path = .ok label := by
  unfold codePageFile
  split
  · exact .inr ⟨none, rfl⟩
  · split
    · exact .inr ⟨_, rfl⟩
    · exact .inl rfl

/-- A table is opened on the bytes of its file, unless the files fail. -/
theorem openTable_cases (files : Files) (path : String) (options : Options) :
    openTable files path options = .error .io ∨ ∃ bytes label, files.read? path = some bytes ∧
      openTable files path options =
        Table.Reader.ofBytes ⟨tableName path, path, options.explicit, label⟩ bytes := by
  unfold openTable
  cases files.read? path with
  | none => exact .inl rfl
  | some bytes =>
    by_cases hlabel : (options.explicit.isNone && options.readsCodePageFile) = true
    · simp only [hlabel, if_true]
      rcases codePageFile_cases files path with h | ⟨label, h⟩
      · rw [h]
        exact .inl rfl
      · rw [h]
        exact .inr ⟨bytes, label, rfl, rfl⟩
    · simp only [hlabel]
      exact .inr ⟨bytes, none, rfl, rfl⟩

/-- The switch that an action throws: that of what it closes. -/
def Action.target (s : Session) : Action → Option CloseSignal
  | .closeConnection j => s.opened[j]?.map (·.closed)
  | .closeStatement m => s.statements[m]?.map (·.closed)
  | _ => none

theorem getElem?_concat {α : Type} (xs : List α) (x : α) (i : Nat) :
    (xs ++ [x])[i]? = if i = xs.length then some x else xs[i]? := by
  by_cases h : i = xs.length
  · rw [if_pos h, h, List.getElem?_concat_length]
  · rw [if_neg h]
    rcases Nat.lt_or_gt_of_ne h with hlt | hgt
    · rw [List.getElem?_append_left hlt]
    · rw [List.getElem?_eq_none (by rw [List.length_append]; exact hgt), List.getElem?_eq_none (by omega)]

private theorem getElem?_concat_of_some {α : Type} {xs : List α} {x y : α} {i : Nat} (h : xs[i]? = some y) :
    (xs ++ [x])[i]? = some y :=
  (List.getElem?_append_left (List.getElem?_eq_some_iff.mp h).1).trans h

theorem target_concat_opened (c : Handle) (switches : List Bool) (a : Action) :
    a.target { s with opened := s.opened ++ [c], switches := switches } =
      if a = .closeConnection s.opened.length then some c.closed else a.target s := by
  cases a with
  | closeConnection j =>
    simp only [Action.target, getElem?_concat, Action.closeConnection.injEq]
    split <;> rfl
  | _ => rfl

theorem target_concat_statements (x : Statement) (switches : List Bool) (a : Action) :
    a.target { s with statements := s.statements ++ [x], switches := switches } =
      if a = .closeStatement s.statements.length then some x.closed else a.target s := by
  cases a with
  | closeStatement m =>
    simp only [Action.target, getElem?_concat, Action.closeStatement.injEq]
    split <;> rfl
  | _ => rfl

/-- A session in which everything that can be closed has a switch of its own. -/
structure Wired (s : Session) : Prop where
  lt : ∀ {a : Action} {i : CloseSignal}, a.target s = some i → i < s.switches.length
  inj : ∀ {a b : Action} {i : CloseSignal}, a.target s = some i → b.target s = some i → a = b

/-- A statement was made of a connection, and handed its switch. -/
structure StatementOf (s : Session) (j m : Nat) (c : Handle) (x : Statement) : Prop where
  opened : s.opened[j]? = some c
  statement : s.statements[m]? = some x
  path : x.path = c.path
  options : x.options = c.options
  connection : x.connection = c.closed

theorem StatementOf.target_connection {c : Handle} {x : Statement} (h : s.StatementOf j m c x) :
    (Action.closeConnection j).target s = some x.connection :=
  Option.map_eq_some_iff.mpr ⟨c, h.opened, h.connection.symm⟩

theorem StatementOf.target_closed {c : Handle} {x : Statement} (h : s.StatementOf j m c x) :
    (Action.closeStatement m).target s = some x.closed :=
  Option.map_eq_some_iff.mpr ⟨x, h.statement, rfl⟩

/-- A result was handed the switches of a statement and its connection. -/
structure ResultOf (s : Session) (k : Nat) (x : Statement) (r : Result) : Prop where
  result : s.executed[k]? = some r
  signals : r.signals = [x.connection, x.closed]

private theorem Wired.of_fresh {s' : Session} {b : Action} {i : CloseSignal} (h : s.Wired)
    (hi : i = s.switches.length) (hlength : s'.switches.length = s.switches.length + 1)
    (htarget : ∀ a : Action, a.target s' = if a = b then some i else a.target s) : s'.Wired where
  lt {a i'} ha := by
    rw [htarget] at ha
    split at ha
    · cases ha
      exact lt_of_eq_of_lt hi (hlength ▸ Nat.lt_succ_self _)
    · exact hlength ▸ Nat.lt_succ_of_lt (h.lt ha)
  inj {a a' i'} ha ha' := by
    have hold {a : Action} (ha : a.target s = some i) : False :=
      Nat.lt_irrefl _ (hi ▸ h.lt ha)
    rw [htarget] at ha ha'
    split at ha <;> split at ha'
    · rename_i hb hb'
      rw [hb, hb']
    · cases ha
      exact (hold ha').elim
    · cases ha'
      exact (hold ha).elim
    · exact h.inj ha ha'

variable [Number.DecimalArithmetic]

section Equations

variable (s)

theorem perform_connect (path : String) (options : Options) :
    s.perform (.connect path options) =
      match openTable s.files path options with
      | .ok reader =>
        (.created s.opened.length, { s with
          opened := s.opened ++ [⟨⟨path, options, reader.header, reader.schema⟩, s.switches.length⟩]
          switches := s.switches ++ [false] })
      | .error e => (.failed (.error e), s) := by
  change settle s _ (Except.bind (failing (openTable s.files path options)) _) = _
  cases openTable s.files path options <;> rfl

theorem perform_closeConnection (j : Nat) :
    s.perform (.closeConnection j) =
      match s.opened[j]? with
      | some c => (.done, s.throwSwitch c.closed)
      | none => (.failed .missing, s) := by
  change settle s _ (Except.bind (find s.opened j) _) = _
  unfold find
  cases s.opened[j]? <;> rfl

theorem perform_createStatement (j : Nat) :
    s.perform (.createStatement j) =
      match s.opened[j]? with
      | some c =>
        if s.isThrown c.closed then (.failed (.error (.closed c.path)), s)
        else (.created s.statements.length, { s with
          statements := s.statements ++ [⟨c.path, c.options, c.closed, s.switches.length⟩]
          switches := s.switches ++ [false] })
      | none => (.failed .missing, s) := by
  change settle s _ (Except.bind (find s.opened j) _) = _
  unfold find
  cases s.opened[j]? with
  | none => rfl
  | some c =>
    simp only [Except.bind]
    cases s.isThrown c.closed <;> rfl

theorem perform_closeStatement (m : Nat) :
    s.perform (.closeStatement m) =
      match s.statements[m]? with
      | some x => (.done, s.throwSwitch x.closed)
      | none => (.failed .missing, s) := by
  change settle s _ (Except.bind (find s.statements m) _) = _
  unfold find
  cases s.statements[m]? <;> rfl

theorem perform_execute (m : Nat) (sql : String) :
    s.perform (.execute m sql) =
      match s.statements[m]? with
      | none => (.failed .missing, s)
      | some x =>
        if s.isClosed x then (.failed (.error (.closed x.path)), s)
        else match openTable s.files x.path x.options with
          | .error e => (.failed (.error e), s)
          | .ok reader =>
            match Cursor.ofQuery reader sql x.options.boundary 2 with
            | .error e => (.failed (.error e), s)
            | .ok cursor => (.created s.executed.length, { s with
                executed := s.executed ++ [⟨[x.connection, x.closed], cursor⟩] }) := by
  change settle s _ (Except.bind (find s.statements m) _) = _
  unfold find
  cases s.statements[m]? with
  | none => rfl
  | some x =>
    simp only [Except.bind]
    cases s.isClosed x with
    | true => rfl
    | false =>
      simp only [Bool.false_eq_true, if_false]
      change settle s _ (Except.bind (failing (openTable s.files x.path x.options)) _) = _
      cases openTable s.files x.path x.options with
      | error e => rfl
      | ok reader =>
        change settle s _ (Except.bind (failing (Cursor.ofQuery reader sql x.options.boundary 2)) _) = _
        simp only
        cases Cursor.ofQuery reader sql x.options.boundary 2 <;> rfl

theorem perform_operate (k : Nat) (op : Operation) :
    s.perform (.operate k op) =
      match s.executed[k]?, offers op with
      | some r, true =>
        (.ofOutcome ((r.seen s).cursor.perform op).1, { s with
          executed := s.executed.set k ⟨r.signals, ((r.seen s).cursor.perform op).2⟩ })
      | _, _ => (.failed .missing, s) := by
  change s.operate k op = _
  rw [operate, results, List.getElem?_map]
  cases s.executed[k]? with
  | none => rfl
  | some r =>
    cases offers op with
    | false => rfl
    | true =>
      simp only [Option.map_some]
      cases ((r.seen s).cursor.perform op).1 <;> rfl

end Equations

theorem perform_of_target {a : Action} {i : CloseSignal} (h : a.target s = some i) :
    s.perform a = (.done, s.throwSwitch i) := by
  cases a with
  | closeConnection j =>
    obtain ⟨c, hc, rfl⟩ := Option.map_eq_some_iff.mp h
    rw [perform_closeConnection, hc]
  | closeStatement m =>
    obtain ⟨x, hx, rfl⟩ := Option.map_eq_some_iff.mp h
    rw [perform_closeStatement, hx]
  | _ => cases h

/-- Whether an action can only change the files: it names nothing that is there in order to close it, and asks no
result for an operation. -/
def Action.Spares (s : Session) : Action → Prop
  | .operate k op => s.executed[k]? = none ∨ offers op = false
  | a => a.target s = none

inductive Effect (s : Session) : Action → Answer × Session → Prop where
  | spared {a : Action} {answer : Answer} (files : Files) (spares : a.Spares s)
      (answer_ne : ∀ k, answer ≠ .created k) : Effect s a (answer, { s with files := files })
  | thrown {a : Action} {i : CloseSignal} (target : a.target s = some i) : Effect s a (.done, s.throwSwitch i)
  | connected {path : String} {options : Options} {c : Handle} (hpath : c.path = path)
      (hoptions : c.options = options) (fresh : c.closed = s.switches.length) :
      Effect s (.connect path options) (.created s.opened.length, { s with
        opened := s.opened ++ [c], switches := s.switches ++ [false] })
  | stated {j : Nat} {c : Handle} (hc : s.opened[j]? = some c) :
      Effect s (.createStatement j) (.created s.statements.length, { s with
        statements := s.statements ++ [⟨c.path, c.options, c.closed, s.switches.length⟩]
        switches := s.switches ++ [false] })
  | executed {m : Nat} {sql : String} {x : Statement} {reader : Table.Reader} {cursor : Cursor Table.Reader}
      (hx : s.statements[m]? = some x) (isOpen : s.isClosed x = false)
      (hreader : openTable s.files x.path x.options = .ok reader)
      (hcursor : Cursor.ofQuery reader sql x.options.boundary 2 = .ok cursor) :
      Effect s (.execute m sql) (.created s.executed.length, { s with
        executed := s.executed ++ [⟨[x.connection, x.closed], cursor⟩] })
  | operated {k : Nat} {op : Operation} {r : Result} (hr : s.executed[k]? = some r) (hop : offers op = true) :
      Effect s (.operate k op) (.ofOutcome ((r.seen s).cursor.perform op).1, { s with
        executed := s.executed.set k ⟨r.signals, ((r.seen s).cursor.perform op).2⟩ })

private theorem effect_updateFiles {a : Action} (spares : a.Spares s) (files : Option Files) :
    Effect s a (s.settle .done (s.updateFiles files)) := by
  cases files with
  | none => exact .spared s.files spares nofun
  | some files => exact .spared files spares nofun

theorem effect_perform (s : Session) (a : Action) : Effect s a (s.perform a) := by
  cases a with
  | write path bytes => exact effect_updateFiles (a := .write path bytes) rfl _
  | makeDirectory path => exact effect_updateFiles (a := .makeDirectory path) rfl _
  | remove path => exact effect_updateFiles (a := .remove path) rfl _
  | connect path options =>
    rw [perform_connect]
    split
    · exact .connected rfl rfl rfl
    · exact .spared s.files rfl nofun
  | closeConnection j =>
    rw [perform_closeConnection]
    split
    · rename_i c hc
      exact .thrown (Option.map_eq_some_iff.mpr ⟨c, hc, rfl⟩)
    · rename_i hnone
      exact .spared s.files (Option.map_eq_none_iff.mpr hnone) nofun
  | createStatement j =>
    rw [perform_createStatement]
    split
    · rename_i c hc
      split
      · exact .spared s.files rfl nofun
      · exact .stated hc
    · exact .spared s.files rfl nofun
  | closeStatement m =>
    rw [perform_closeStatement]
    split
    · rename_i x hx
      exact .thrown (Option.map_eq_some_iff.mpr ⟨x, hx, rfl⟩)
    · rename_i hnone
      exact .spared s.files (Option.map_eq_none_iff.mpr hnone) nofun
  | execute m sql =>
    rw [perform_execute]
    split
    · exact .spared s.files rfl nofun
    rename_i x hx
    split
    · exact .spared s.files rfl nofun
    rename_i hopen
    split
    · exact .spared s.files rfl nofun
    rename_i reader hreader
    split
    · exact .spared s.files rfl nofun
    · rename_i cursor hcursor
      exact .executed hx (Bool.eq_false_iff.mpr hopen) hreader hcursor
  | operate k op =>
    rw [perform_operate]
    split
    · rename_i r hr hop
      exact .operated hr hop
    · rename_i hnot
      refine .spared s.files ?_ nofun
      cases hr : s.executed[k]? with
      | none => exact .inl hr
      | some r => exact .inr (Bool.eq_false_iff.mpr (hnot r hr))

theorem Wired.perform (h : s.Wired) (a : Action) : (s.perform a).2.Wired := by
  have heffect := s.effect_perform a
  generalize s.perform a = r at heffect
  cases heffect with
  | spared => exact ⟨h.lt, h.inj⟩
  | thrown => exact ⟨fun ha => (List.length_set ..).symm ▸ h.lt ha, h.inj⟩
  | connected _ _ fresh => exact h.of_fresh fresh List.length_append (target_concat_opened _ _)
  | stated => exact h.of_fresh rfl List.length_append (target_concat_statements _ _)
  | executed => exact ⟨h.lt, h.inj⟩
  | operated => exact ⟨h.lt, h.inj⟩

/-- A switch is thrown by the closing of what it belongs to, and by nothing else. -/
theorem isThrown_perform (h : s.Wired) {a : Action} {i : CloseSignal} (ha : a.target s = some i) (b : Action) :
    (s.perform b).2.isThrown i = (s.isThrown i || b = a) := by
  have hsame {w : List Bool} (hw : w[i]? = s.switches[i]?) (hne : b.target s = none) :
      w[i]?.any id = (s.isThrown i || b = a) := by
    have hba : b ≠ a := by
      rintro rfl
      cases ha.symm.trans hne
    rw [decide_eq_false hba, Bool.or_false, hw]
    rfl
  have hold (w : Bool) : (s.switches ++ [w])[i]? = s.switches[i]? := List.getElem?_append_left (h.lt ha)
  have heffect := s.effect_perform b
  generalize s.perform b = r at heffect
  cases heffect with
  | spared files spares =>
    cases b with
    | operate k op => exact hsame rfl rfl
    | _ => exact hsame rfl spares
  | @thrown _ i' target =>
    change (s.switches.set i' true)[i]?.any id = _
    by_cases hi : i' = i
    · subst hi
      rw [List.getElem?_set_self (h.lt ha), decide_eq_true (h.inj target ha)]
      exact (Bool.or_true _).symm
    · have hba : b ≠ a := by
        rintro rfl
        exact hi (Option.some.inj (target.symm.trans ha))
      rw [List.getElem?_set_ne hi, decide_eq_false hba, Bool.or_false]
      rfl
  | connected => exact hsame (hold false) rfl
  | stated => exact hsame (hold false) rfl
  | executed => exact hsame rfl rfl
  | operated => exact hsame rfl rfl

/-- What can be closed after an action could be closed before, or it is new and its switch is not thrown. -/
theorem target_perform {a b : Action} {i : CloseSignal} (ha : a.target (s.perform b).2 = some i) :
    a.target s = some i ∨ a.target s = none ∧ (s.perform b).2.isThrown i = false := by
  have hfresh {xs : List Bool} : (xs ++ [false])[xs.length]?.any id = false := by
    rw [List.getElem?_concat_length]
    rfl
  have heffect := s.effect_perform b
  generalize s.perform b = r at heffect ha
  cases heffect with
  | spared => exact .inl ha
  | thrown => exact .inl ha
  | connected _ _ fresh =>
    rw [target_concat_opened] at ha
    split at ha
    · rename_i hnew
      cases ha
      rw [fresh, hnew]
      exact .inr ⟨Option.map_eq_none_iff.mpr (List.getElem?_eq_none (Nat.le_refl _)), hfresh⟩
    · exact .inl ha
  | stated hc =>
    rw [target_concat_statements] at ha
    split at ha
    · rename_i hnew
      cases ha
      rw [hnew]
      exact .inr ⟨Option.map_eq_none_iff.mpr (List.getElem?_eq_none (Nat.le_refl _)), hfresh⟩
    · exact .inl ha
  | executed => exact .inl ha
  | operated => exact .inl ha

theorem opened_perform {c : Handle} (hc : s.opened[j]? = some c) (a : Action) :
    (s.perform a).2.opened[j]? = some c := by
  have heffect := s.effect_perform a
  generalize s.perform a = r at heffect
  cases heffect with
  | connected => exact getElem?_concat_of_some hc
  | spared => exact hc
  | thrown => exact hc
  | stated => exact hc
  | executed => exact hc
  | operated => exact hc

theorem statements_perform {x : Statement} (hx : s.statements[m]? = some x) (a : Action) :
    (s.perform a).2.statements[m]? = some x := by
  have heffect := s.effect_perform a
  generalize s.perform a = r at heffect
  cases heffect with
  | stated => exact getElem?_concat_of_some hx
  | spared => exact hx
  | thrown => exact hx
  | connected => exact hx
  | executed => exact hx
  | operated => exact hx

def Result.heed (s : Session) (a : Action) (k : Nat) (r : Result) : Result :=
  match a with
  | .operate i op => if i = k ∧ offers op = true then ⟨r.signals, ((r.seen s).cursor.perform op).2⟩ else r
  | _ => r

private theorem Result.signals_heed (a : Action) (k : Nat) (r : Result) : (r.heed s a k).signals = r.signals := by
  cases a with
  | operate i op => exact (apply_ite Result.signals _ _ _).trans (ite_self _)
  | _ => rfl

theorem executed_perform {r : Result} (hr : s.executed[k]? = some r) (a : Action) :
    (s.perform a).2.executed[k]? = some (r.heed s a k) := by
  have heffect := s.effect_perform a
  generalize s.perform a = r at heffect
  cases heffect with
  | spared files spares =>
    cases a with
    | operate i op =>
      have hnot : ¬ (i = k ∧ offers op = true) := by
        rintro ⟨rfl, hop⟩
        rcases spares with hnone | hnot
        · cases hr.symm.trans hnone
        · cases hop.symm.trans hnot
      exact hr.trans (congrArg some (if_neg hnot).symm)
    | _ => exact hr
  | @thrown a i target =>
    cases a with
    | operate i op => cases target
    | _ => exact hr
  | connected => exact hr
  | stated => exact hr
  | executed => exact getElem?_concat_of_some hr
  | @operated i op r' hr' hop =>
    by_cases hi : i = k
    · subst hi
      cases hr.symm.trans hr'
      rw [Result.heed, if_pos ⟨rfl, hop⟩]
      exact List.getElem?_set_self (List.getElem?_eq_some_iff.mp hr).1
    · rw [Result.heed, if_neg fun h => hi h.1]
      exact (List.getElem?_set_ne hi).trans hr

theorem executed_perform_cases {r : Result} {a : Action} (hr : (s.perform a).2.executed[k]? = some r) :
    (∃ old, s.executed[k]? = some old ∧ r = old.heed s a k) ∨
      s.executed[k]? = none ∧ r.cursor.closed = false := by
  cases hold : s.executed[k]? with
  | some old => exact .inl ⟨old, rfl, Option.some.inj (hr.symm.trans (executed_perform hold a))⟩
  | none =>
    refine .inr ⟨rfl, ?_⟩
    have heffect := s.effect_perform a
    generalize s.perform a = after at heffect hr
    cases heffect with
    | executed hx isOpen hreader hcursor =>
      obtain ⟨statement, -, rfl⟩ := Cursor.ofQuery_eq_ok_iff.mp hcursor
      rw [getElem?_concat] at hr
      split at hr
      · cases hr
        rfl
      · cases hold.symm.trans hr
    | @operated i =>
      rw [List.getElem?_eq_none (by simpa using hold)] at hr
      cases hr
    | spared => cases hold.symm.trans hr
    | thrown => cases hold.symm.trans hr
    | connected => cases hold.symm.trans hr
    | stated => cases hold.symm.trans hr

theorem StatementOf.perform {c : Handle} {x : Statement} (h : s.StatementOf j m c x) (a : Action) :
    (s.perform a).2.StatementOf j m c x :=
  { h with opened := opened_perform h.opened a, statement := statements_perform h.statement a }

theorem ResultOf.perform {x : Statement} {r : Result} (h : s.ResultOf k x r) (a : Action) :
    (s.perform a).2.ResultOf k x (r.heed s a k) where
  result := executed_perform h.result a
  signals := (Result.signals_heed ..).trans h.signals

end Xbase.Session
