import Xbase.Proofs.Query.Preparation
import Xbase.Proofs.Session.History
/-!
# What closing closes

At every point of a history, what is closed is told by the actions before it: a connection by its own closing,
a statement by its own or its connection's, a result by its own, its statement's or its connection's. A closed
connection makes no statement, and a closed statement runs no query, whatever is at the table's path.
-/
namespace Xbase.Session

variable {s : Session} {c : Handle} {x : Statement} {r : Result} {j m k : Nat}

private theorem openTable_ne_closed (files : Files) (path : String) (options : Options) (name : String) :
    openTable files path options ≠ .error (.closed name) := by
  rcases openTable_cases files path options with h | ⟨bytes, label, -, h⟩
  · rw [h]
    nofun
  · rw [h, Table.Reader.ofBytes]
    split <;> nofun

private theorem ofQuery_ne_closed {σ : Type} [RowSource σ] (source : σ) (sql : String) (boundary : Boundary)
    (owners : Nat) (name : String) : Cursor.ofQuery source sql boundary owners ≠ .error (.closed name) := by
  intro h
  unfold Cursor.ofQuery at h
  split at h
  · cases h
  rename_i hprepare
  unfold Query.prepare at hprepare
  split at hprepare
  · cases hprepare
    cases h
  split at hprepare
  · cases hprepare
  rename_i hcolumns
  obtain ⟨column, -, rfl⟩ := Query.requireColumns_eq_error_iff.mp hcolumns
  cases hprepare
  cases h

private theorem connections_getElem?_eq_some_iff {c : Connection} :
    s.connections[j]? = some c ↔ ∃ d, s.opened[j]? = some d ∧ ⟨d.toOpening, s.isThrown d.closed⟩ = c := by
  rw [connections, List.getElem?_map, Option.map_eq_some_iff]

private theorem results_getElem?_eq_some_iff :
    s.results[k]? = some r ↔ ∃ q, s.executed[k]? = some q ∧ q.seen s = r := by
  rw [results, List.getElem?_map, Option.map_eq_some_iff]

section Runs

variable [Number.DecimalArithmetic] {history : List Action} {a : Action} {i : CloseSignal}

private theorem target_perform_of_some (h : a.target s = some i) (b : Action) :
    a.target (s.perform b).2 = some i := by
  cases a with
  | closeConnection j =>
    obtain ⟨c, hc, rfl⟩ := Option.map_eq_some_iff.mp h
    exact Option.map_eq_some_iff.mpr ⟨c, opened_perform hc b, rfl⟩
  | closeStatement m =>
    obtain ⟨x, hx, rfl⟩ := Option.map_eq_some_iff.mp h
    exact Option.map_eq_some_iff.mpr ⟨x, statements_perform hx b, rfl⟩
  | _ => cases h

private theorem exists_target_of_done {t : Session} (h : a.target t = some i) (hdone : (s.perform a).1 = .done) :
    ∃ i, a.target s = some i := by
  cases a with
  | closeConnection j =>
    rw [perform_closeConnection] at hdone
    cases hc : s.opened[j]? with
    | none =>
      rw [hc] at hdone
      cases hdone
    | some c => exact ⟨_, Option.map_eq_some_iff.mpr ⟨c, hc, rfl⟩⟩
  | closeStatement m =>
    rw [perform_closeStatement] at hdone
    cases hx : s.statements[m]? with
    | none =>
      rw [hx] at hdone
      cases hdone
    | some x => exact ⟨_, Option.map_eq_some_iff.mpr ⟨x, hx, rfl⟩⟩
  | _ => cases h

private theorem exists_target_of_returned {t : Session} (h : a.target t = some i)
    (hreturned : Returned history a .done) : ∃ i, a.target (empty.after history) = some i := by
  apply of_returned (p := fun s => ∃ i, a.target s = some i) hreturned
  · intro s hdone
    obtain ⟨i, hi⟩ := exists_target_of_done h hdone
    exact ⟨i, target_perform_of_some hi a⟩
  · rintro s b ⟨i, hi⟩
    exact ⟨i, target_perform_of_some hi b⟩

private theorem isThrown_iff (h : a.target (empty.after history) = some i) :
    (empty.after history).isThrown i = true ↔ Returned history a .done := by
  induction history using List.reverseRecOn with
  | nil => cases a <;> cases h
  | append_singleton history b ih =>
    rw [after_concat] at h ⊢
    rw [returned_concat]
    rcases target_perform h with hold | ⟨hnone, hthrown⟩
    · have hdone : ((empty.after history).perform a).1 = .done := by rw [perform_of_target hold]
      rw [isThrown_perform (wired_after history) hold, Bool.or_eq_true, ih hold, decide_eq_true_eq,
        and_iff_left hdone]
    · -- What the action makes was not there to be closed before.
      rw [hthrown]
      refine iff_of_false nofun ?_
      have hnot : ¬ ∃ i, a.target (empty.after history) = some i := by
        rintro ⟨i, hi⟩
        cases hnone.symm.trans hi
      rintro (hreturned | ⟨rfl, hdone⟩)
      · exact hnot (exists_target_of_returned h hreturned)
      · exact hnot (exists_target_of_done h hdone)

private theorem closed_heed (a : Action) :
    (r.heed s a k).cursor.closed = (r.cursor.closed || a = .operate k .close) := by
  cases a with
  | operate i op =>
    by_cases hown : i = k ∧ offers op = true
    · obtain ⟨rfl, hop⟩ := hown
      rw [Result.heed, if_pos ⟨rfl, hop⟩, Cursor.closed_perform]
      simp [Result.seen]
    · rw [Result.heed, if_neg hown]
      have hne : Action.operate i op ≠ .operate k .close := by
        rintro ⟨⟩
        exact hown ⟨rfl, rfl⟩
      rw [decide_eq_false hne, Bool.or_false]
  | _ => exact (Bool.or_false _).symm

private theorem perform_close_iff :
    (s.perform (.operate k .close)).1 = .outcome .done ↔ ∃ r, s.executed[k]? = some r := by
  rw [perform_operate]
  cases s.executed[k]? with
  | none => simp
  | some r => simp [offers, Cursor.perform, Answer.ofOutcome]

private theorem perform_closeConnection_iff :
    (s.perform (.closeConnection j)).1 = .done ↔ ∃ c, s.connections[j]? = some c := by
  rw [perform_closeConnection, connections, List.getElem?_map]
  cases s.opened[j]? <;> simp

private theorem perform_closeStatement_iff :
    (s.perform (.closeStatement m)).1 = .done ↔ ∃ x, s.statements[m]? = some x := by
  rw [perform_closeStatement]
  cases s.statements[m]? <;> simp

private theorem perform_createStatement_of_closed {c : Connection} (hc : s.connections[j]? = some c)
    (hclosed : c.closed = true) : s.perform (.createStatement j) = (.failed (.error (.closed c.path)), s) := by
  obtain ⟨d, hd, rfl⟩ := connections_getElem?_eq_some_iff.mp hc
  rw [perform_createStatement, hd]
  exact if_pos hclosed

private theorem perform_createStatement_of_open {c : Connection} (hc : s.connections[j]? = some c)
    (hopen : c.closed = false) : (s.perform (.createStatement j)).1 = .created s.statements.length := by
  obtain ⟨d, hd, rfl⟩ := connections_getElem?_eq_some_iff.mp hc
  have hnot : ¬ s.isThrown d.closed = true := Bool.eq_false_iff.mp hopen
  rw [perform_createStatement, hd]
  simp only
  rw [if_neg hnot]

private theorem perform_execute_of_closed (hx : s.statements[m]? = some x) (hclosed : s.isClosed x = true)
    (sql : String) : s.perform (.execute m sql) = (.failed (.error (.closed x.path)), s) := by
  rw [perform_execute, hx]
  exact if_pos hclosed

private theorem perform_execute_ne_closed (hx : s.statements[m]? = some x) (hopen : s.isClosed x = false)
    (sql name : String) : (s.perform (.execute m sql)).1 ≠ .failed (.error (.closed name)) := by
  have hnot : ¬ s.isClosed x = true := Bool.eq_false_iff.mp hopen
  rw [perform_execute, hx]
  simp only
  rw [if_neg hnot]
  split
  · rename_i e htable
    rintro ⟨⟩
    exact openTable_ne_closed _ _ _ _ htable
  split
  · rename_i e hcursor
    rintro ⟨⟩
    exact ofQuery_ne_closed _ _ _ _ _ hcursor
  · rintro ⟨⟩

private theorem exists_executed_of_returned (h : Returned history (.operate k .close) (.outcome .done)) :
    ∃ r, (empty.after history).executed[k]? = some r := by
  apply of_returned (p := fun s => ∃ r, s.executed[k]? = some r) h
  · intro s hanswer
    obtain ⟨r, hr⟩ := perform_close_iff.mp hanswer
    exact ⟨_, executed_perform hr _⟩
  · rintro s a ⟨r, hr⟩
    exact ⟨_, executed_perform hr a⟩

private theorem executed_closed_iff (hr : (empty.after history).executed[k]? = some r) :
    r.cursor.closed = true ↔ Returned history (.operate k .close) (.outcome .done) := by
  induction history using List.reverseRecOn generalizing r with
  | nil => cases hr
  | append_singleton history a ih =>
    rw [after_concat] at hr
    rw [returned_concat]
    rcases executed_perform_cases hr with ⟨old, hold, rfl⟩ | ⟨hnone, hopen⟩
    · rw [closed_heed, Bool.or_eq_true, ih hold, decide_eq_true_eq, and_iff_left (perform_close_iff.mpr ⟨old, hold⟩)]
    · have hnot : ¬ ∃ r, (empty.after history).executed[k]? = some r := by
        rintro ⟨r, hr⟩
        cases hnone.symm.trans hr
      rw [hopen]
      refine iff_of_false nofun ?_
      rintro (hreturned | ⟨rfl, hdone⟩)
      · exact hnot (exists_executed_of_returned hreturned)
      · exact hnot (perform_close_iff.mp hdone)

/-- What is closed after a history, and what that refuses. What is there can be closed, and nothing else. A closed
statement refuses every query and changes nothing, whatever the files, and an open one refuses none for being closed. -/
structure ClosesExactly (history : List Action) : Prop where
  connection : ∀ path options j, Returned history (.connect path options) (.created j) →
    ∃ c, (empty.after history).connections[j]? = some c ∧ c.path = path ∧ c.options = options ∧
      (c.closed = true ↔ Returned history (.closeConnection j) .done)
  statement : ∀ path options j m, Returned history (.connect path options) (.created j) →
    Returned history (.createStatement j) (.created m) →
    ∃ x, (empty.after history).statements[m]? = some x ∧ x.path = path ∧ x.options = options ∧
      ((empty.after history).isClosed x = true ↔
        Returned history (.closeStatement m) .done ∨ Returned history (.closeConnection j) .done)
  result : ∀ j m sql k, Returned history (.createStatement j) (.created m) →
    Returned history (.execute m sql) (.created k) →
    ∃ r, (empty.after history).results[k]? = some r ∧
      (r.cursor.isClosed = true ↔ Returned history (.operate k .close) (.outcome .done) ∨
        Returned history (.closeStatement m) .done ∨ Returned history (.closeConnection j) .done)
  connection_made : ∀ j c, (empty.after history).connections[j]? = some c →
    ∃ path options, Returned history (.connect path options) (.created j)
  statement_made : ∀ m x, (empty.after history).statements[m]? = some x → ∃ path options j,
    Returned history (.connect path options) (.created j) ∧ Returned history (.createStatement j) (.created m)
  result_made : ∀ k r, (empty.after history).results[k]? = some r → ∃ j m sql,
    Returned history (.createStatement j) (.created m) ∧ Returned history (.execute m sql) (.created k)
  closeConnection_done : ∀ j, ((empty.after history).perform (.closeConnection j)).1 = .done ↔
    ∃ c, (empty.after history).connections[j]? = some c
  closeStatement_done : ∀ m, ((empty.after history).perform (.closeStatement m)).1 = .done ↔
    ∃ x, (empty.after history).statements[m]? = some x
  close_done : ∀ k, ((empty.after history).perform (.operate k .close)).1 = .outcome .done ↔
    ∃ r, (empty.after history).results[k]? = some r
  createStatement_closed : ∀ j c, (empty.after history).connections[j]? = some c → c.closed = true →
    (empty.after history).perform (.createStatement j) = (.failed (.error (.closed c.path)), empty.after history)
  createStatement_open : ∀ j c, (empty.after history).connections[j]? = some c → c.closed = false →
    ((empty.after history).perform (.createStatement j)).1 = .created (empty.after history).statements.length
  execute_closed : ∀ m x, (empty.after history).statements[m]? = some x →
    (empty.after history).isClosed x = true →
    ∀ files sql, perform { empty.after history with files := files } (.execute m sql) =
      (.failed (.error (.closed x.path)), { empty.after history with files := files })
  execute_open : ∀ m x, (empty.after history).statements[m]? = some x →
    (empty.after history).isClosed x = false →
    ∀ files sql name, (perform { empty.after history with files := files } (.execute m sql)).1 ≠
      .failed (.error (.closed name))

theorem closesExactly (history : List Action) : ClosesExactly history := by
  constructor
  case connection =>
    intro path options j h
    obtain ⟨c, hc, hpath, hoptions⟩ := exists_opened_of_returned h
    exact ⟨_, connections_getElem?_eq_some_iff.mpr ⟨c, hc, rfl⟩, hpath, hoptions,
      isThrown_iff (Option.map_eq_some_iff.mpr ⟨c, hc, rfl⟩)⟩
  case statement =>
    intro path options j m hconnect hcreate
    obtain ⟨c, hc, hpath, hoptions⟩ := exists_opened_of_returned hconnect
    obtain ⟨d, x, hx⟩ := exists_statementOf_of_returned hcreate
    cases hc.symm.trans hx.opened
    refine ⟨x, hx.statement, hx.path.trans hpath, hx.options.trans hoptions, ?_⟩
    rw [isClosed, Bool.or_eq_true, isThrown_iff hx.target_closed, isThrown_iff hx.target_connection]
  case result =>
    intro j m sql k hcreate hexecute
    obtain ⟨c, x, hx⟩ := exists_statementOf_of_returned hcreate
    obtain ⟨y, r, hy, hr⟩ := exists_resultOf_of_returned hexecute
    cases hx.statement.symm.trans hy
    refine ⟨r.seen _, results_getElem?_eq_some_iff.mpr ⟨r, hr.result, rfl⟩, ?_⟩
    have howners : (r.seen (empty.after history)).cursor.owners =
        [(empty.after history).isThrown x.connection, (empty.after history).isThrown x.closed] :=
      congrArg (List.map _) hr.signals
    rw [Cursor.isClosed, howners, ← executed_closed_iff hr.result, ← isThrown_iff hx.target_closed,
      ← isThrown_iff hx.target_connection]
    simp [Result.seen, or_comm]
  case connection_made =>
    intro j c hc
    obtain ⟨d, hd, -⟩ := connections_getElem?_eq_some_iff.mp hc
    exact returned_of_opened hd
  case statement_made =>
    intro m x hx
    obtain ⟨j, hcreate⟩ := returned_of_statement hx
    obtain ⟨c, y, hy⟩ := exists_statementOf_of_returned hcreate
    obtain ⟨path, options, hconnect⟩ := returned_of_opened hy.opened
    exact ⟨path, options, j, hconnect, hcreate⟩
  case result_made =>
    intro k r hr
    obtain ⟨q, hq, -⟩ := results_getElem?_eq_some_iff.mp hr
    obtain ⟨m, sql, hexecute⟩ := returned_of_executed hq
    obtain ⟨x, q', hx, -⟩ := exists_resultOf_of_returned hexecute
    obtain ⟨j, hcreate⟩ := returned_of_statement hx
    exact ⟨j, m, sql, hcreate, hexecute⟩
  case closeConnection_done => exact fun j => perform_closeConnection_iff
  case closeStatement_done => exact fun m => perform_closeStatement_iff
  case close_done =>
    intro k
    rw [perform_close_iff, results, List.getElem?_map]
    cases (empty.after history).executed[k]? <;> simp
  case createStatement_closed => exact fun j c hc hclosed => perform_createStatement_of_closed hc hclosed
  case createStatement_open => exact fun j c hc hopen => perform_createStatement_of_open hc hopen
  -- Whether a statement is closed does not depend on the files.
  case execute_closed =>
    intro m x hx hclosed files sql
    exact perform_execute_of_closed (s := { empty.after history with files := files }) hx hclosed sql
  case execute_open =>
    intro m x hx hopen files sql name
    exact perform_execute_ne_closed (s := { empty.after history with files := files }) hx hopen sql name

end Runs

section Example

/-- A history in which one of two statements with a result each is closed. -/
def branchHistory : List Action :=
  smallHistory ++ [.execute 0 "SELECT * FROM t", .execute 1 "SELECT * FROM t", .closeStatement 0]

private theorem after_firstQuery :
    empty.after (smallHistory ++ [.execute 0 "SELECT * FROM t"]) =
      smallSession [⟨[0, 1], smallCursor .languageDriver⟩] := by
  rw [after_concat, after_smallHistory, perform_execute_small _ Nat.two_pos]
  rfl

private theorem after_secondQuery :
    empty.after (smallHistory ++ [.execute 0 "SELECT * FROM t", .execute 1 "SELECT * FROM t"]) =
      smallSession [⟨[0, 1], smallCursor .languageDriver⟩, ⟨[0, 2], smallCursor .languageDriver⟩] := by
  rw [List.append_cons, after_concat, after_firstQuery, perform_execute_small _ Nat.one_lt_two]
  rfl

private theorem statements_branchHistory {m : Nat} (hm : m < 2) :
    (empty.after branchHistory).statements[m]? = some ⟨"t", ⟨none, false, .standard⟩, 0, m + 1⟩ := by
  change ((empty.after (smallHistory ++ [_, _])).perform (.closeStatement 0)).2.statements[m]? = _
  rw [after_secondQuery]
  obtain rfl | rfl : m = 0 ∨ m = 1 := by omega
  · rfl
  · rfl

private theorem returned_execute_branch {m : Nat} (hm : m < 2) :
    Returned branchHistory (.execute m "SELECT * FROM t") (.created m) := by
  obtain rfl | rfl : m = 0 ∨ m = 1 := by omega
  · refine ⟨smallHistory, _, rfl, ?_⟩
    rw [after_smallHistory, perform_execute_small _ Nat.two_pos]
    rfl
  · refine ⟨smallHistory ++ [_], _, rfl, ?_⟩
    rw [after_firstQuery, perform_execute_small _ Nat.one_lt_two]
    rfl

private theorem returned_closeStatement_branch : Returned branchHistory (.closeStatement 0) .done := by
  refine ⟨smallHistory ++ [_, _], _, rfl, ?_⟩
  rw [after_secondQuery]
  rfl

theorem closesExactly_branchHistory :
    (empty.after branchHistory).connections[0]?.map (·.closed) = some false ∧
      (empty.after branchHistory).statements[0]?.map (empty.after branchHistory).isClosed = some true ∧
      (empty.after branchHistory).statements[1]?.map (empty.after branchHistory).isClosed = some false ∧
      (empty.after branchHistory).results[0]?.map (·.cursor.isClosed) = some true ∧
      (empty.after branchHistory).results[1]?.map (·.cursor.isClosed) = some false ∧
      ((empty.after branchHistory).perform (.closeConnection 0)).1 = .done ∧
      ((empty.after branchHistory).perform (.execute 0 "")).1 = .failed (.error (.closed "t")) := by
  have h := closesExactly branchHistory
  have hmem {a : Action} {answer : Answer} (ha : a ∉ branchHistory) : ¬ Returned branchHistory a answer :=
    mt Returned.mem ha
  have hconnection : ¬ Returned branchHistory (.closeConnection 0) .done :=
    hmem (by simp [branchHistory, smallHistory])
  have hother : ¬ Returned branchHistory (.closeStatement 1) .done := hmem (by simp [branchHistory, smallHistory])
  have hown : ¬ Returned branchHistory (.operate 1 .close) (.outcome .done) :=
    hmem (by simp [branchHistory, smallHistory])
  have hmade {m : Nat} (hm : m < 2) : Returned branchHistory (.connect "t" ⟨none, false, .standard⟩) (.created 0) ∧
      Returned branchHistory (.createStatement 0) (.created m) := by
    obtain ⟨path, options, j, hconnect, hcreate⟩ := h.statement_made m _ (statements_branchHistory hm)
    obtain rfl : j = 0 := by simpa [branchHistory, smallHistory] using hcreate.mem
    obtain ⟨rfl, rfl⟩ : path = "t" ∧ options = ⟨none, false, .standard⟩ := by
      simpa [branchHistory, smallHistory] using hconnect.mem
    exact ⟨hconnect, hcreate⟩
  have hclose := returned_closeStatement_branch
  obtain ⟨c, hc, -, -, hcopen⟩ := h.connection _ _ 0 (hmade Nat.two_pos).1
  obtain ⟨x, hx, hpath, -, hxclosed⟩ := h.statement _ _ 0 0 (hmade Nat.two_pos).1 (hmade Nat.two_pos).2
  obtain ⟨y, hy, -, -, hyopen⟩ := h.statement _ _ 0 1 (hmade Nat.one_lt_two).1 (hmade Nat.one_lt_two).2
  obtain ⟨r, hr, hrclosed⟩ := h.result 0 0 _ 0 (hmade Nat.two_pos).2 (returned_execute_branch Nat.two_pos)
  obtain ⟨q, hq, hqopen⟩ := h.result 0 1 _ 1 (hmade Nat.one_lt_two).2 (returned_execute_branch Nat.one_lt_two)
  rw [hc, hx, hy, hr, hq]
  refine ⟨congrArg some (Bool.eq_false_iff.mpr (mt hcopen.mp hconnection)),
    congrArg some (hxclosed.mpr (.inl hclose)),
    congrArg some (Bool.eq_false_iff.mpr (mt hyopen.mp (not_or_intro hother hconnection))),
    congrArg some (hrclosed.mpr (.inr (.inl hclose))),
    congrArg some (Bool.eq_false_iff.mpr (mt hqopen.mp (not_or_intro hown (not_or_intro hother hconnection)))),
    (h.closeConnection_done 0).mpr ⟨c, hc⟩, ?_⟩
  have hrefused := h.execute_closed 0 x hx (hxclosed.mpr (.inl hclose)) (empty.after branchHistory).files ""
  rw [hpath] at hrefused
  exact congrArg Prod.fst hrefused

end Example

end Xbase.Session
