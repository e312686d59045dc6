import Xbase.Proofs.Cursor.Selection
import Xbase.Proofs.Cursor.Simulation
import Xbase.Proofs.Session.History
/-!
# Results that stand alone

A result shows what a cursor shows that no session knows of: one over the bytes that the file had when the query
was run, with its owners closed where the statement or its connection was. Nothing else reaches it.
-/
namespace Xbase.Session

variable {s : Session} {c : Handle} {x : Statement} {r : Result} {j m k : Nat}

def Action.isOn (k : Nat) : Action → Bool
  | .operate i op => i = k && offers op
  | _ => false

/-- What an action is to the result `k` of the statement `m` of the connection `j`: an operation on its cursor,
marked if it is asked for by the action, or nothing. -/
def Action.event? (j m k : Nat) : Action → Option (Operation × Bool)
  | .operate i op => if i = k && offers op then some (op, true) else none
  | .closeConnection i => if i = j then some (.closeOwner 0, false) else none
  | .closeStatement i => if i = m then some (.closeOwner 1, false) else none
  | _ => none

private theorem Action.event?_of_isOn {a : Action} (h : a.isOn k = true) :
    ∃ op, a = .operate k op ∧ offers op = true ∧ a.event? j m k = some (op, true) := by
  cases a with
  | operate i op =>
    obtain ⟨hi, hop⟩ := (Bool.and_eq_true _ _).mp h
    obtain rfl : i = k := of_decide_eq_true hi
    exact ⟨op, rfl, hop, if_pos h⟩
  | _ => cases h

private theorem Action.event?_of_not_isOn {a : Action} (h : a.isOn k = false) :
    a.event? j m k = none ∨ ∃ op, a.event? j m k = some (op, false) := by
  cases a with
  | operate i op => exact .inl (if_neg (Bool.eq_false_iff.mp h))
  | closeConnection i =>
    by_cases hi : i = j
    · exact .inr ⟨_, if_pos hi⟩
    · exact .inl (if_neg hi)
  | closeStatement i =>
    by_cases hi : i = m
    · exact .inr ⟨_, if_pos hi⟩
    · exact .inl (if_neg hi)
  | _ => exact .inl rfl

private theorem filterMap_filter_event? (rest : List Action) :
    (rest.filter fun a => (a.event? j m k).isSome).filterMap (Action.event? j m k) =
      rest.filterMap (Action.event? j m k) := by
  rw [List.filterMap_filter]
  congr 1
  funext a
  cases a.event? j m k <;> rfl

def view? (s : Session) (k : Nat) : Option View := s.results[k]?.map (·.cursor.view)

theorem results_of_result (h : s.executed[k]? = some r) : s.results[k]? = some (r.seen s) := by
  rw [results, List.getElem?_map, h]
  rfl

private theorem simulation_origin :
    Simulation fun r t : Table.Reader => t = { r with origin := .explicit } where
  schema h := by rw [h]; rfl
  identity h := by rw [h]; rfl
  rowCount h := by rw [h]; rfl
  rowNumber h := by rw [h]; rfl
  read_fst {r t} h := by
    change r.read.1 = t.read.1
    rw [h, Table.Reader.read_withOrigin r .explicit]
  read_snd {r t} h := by
    change t.read.2 = { r.read.2 with origin := .explicit }
    rw [h, Table.Reader.read_withOrigin r .explicit]

/-- A cursor for a query that no session knows of, over the bytes of a table, with the path, the boundary and the
owners of a result of a connection. -/
def Opening.cursorOver (c : Opening) (charset : Charset) (bytes : List UInt8) (sql : String) :
    Except Error (Cursor Table.Reader) := do
  let reader ← Table.Reader.ofBytes ⟨tableName c.path, c.path, some charset, none⟩ bytes
  Cursor.ofQuery reader sql c.options.boundary 2

private theorem exists_ofBytes_of_openTable {files : Files} {path : String} {options : Options} {reader : Table.Reader}
    (h : openTable files path options = .ok reader) :
    ∃ bytes label, files.read? path = some bytes ∧
      Table.Reader.ofBytes ⟨tableName path, path, options.explicit, label⟩ bytes = .ok reader := by
  rcases openTable_cases files path options with hfails | ⟨bytes, label, hbytes, hopens⟩
  · cases hfails.symm.trans h
  · exact ⟨bytes, label, hbytes, hopens.symm.trans h⟩

private theorem cursorOver_of_ofBytes {reader : Table.Reader} {cursor : Cursor Table.Reader} {sql : String}
    {bytes : List UInt8} {label : Option (List Char)} (o : Opening)
    (hreader : Table.Reader.ofBytes ⟨tableName o.path, o.path, o.options.explicit, label⟩ bytes = .ok reader)
    (hcursor : Cursor.ofQuery reader sql o.options.boundary 2 = .ok cursor) :
    o.cursorOver reader.schema.charset bytes sql =
      .ok (cursor.onSource { reader with origin := .explicit }) := by
  have hexplicit := Table.Reader.decode_of_charset (Table.Reader.eq_of_ofBytes hreader)
  simp only [Opening.cursorOver, Table.Reader.ofBytes, hexplicit]
  change Cursor.ofQuery _ _ _ _ = _
  rw [simulation_origin.ofQuery_eq rfl, hcursor]
  rfl

section Runs

variable [Number.DecimalArithmetic]

/-- What the operations on a result return in a history, each with what can be seen of the result after it. -/
def stepsOf (k : Nat) (s : Session) : List Action → List (Answer × Option View)
  | [] => []
  | a :: rest =>
    let later := stepsOf k (s.perform a).2 rest
    if a.isOn k then ((s.perform a).1, (s.perform a).2.view? k) :: later else later

private theorem signals_perform (hw : s.Wired) (hx : s.StatementOf j m c x) (hr : s.ResultOf k x r) (a : Action) :
    (r.heed s a k).signals.map (s.perform a).2.isThrown =
      [s.isThrown x.connection || a = .closeConnection j, s.isThrown x.closed || a = .closeStatement m] := by
  rw [(hr.perform a).signals, ← isThrown_perform hw hx.target_connection, ← isThrown_perform hw hx.target_closed]
  rfl

/-- The cursor of a result after an action, which comes to it as one of its operations, as the closing of an owner
or not at all. -/
theorem cursor_perform (hw : s.Wired) (hx : s.StatementOf j m c x) (hr : s.ResultOf k x r) (a : Action) :
    ((r.heed s a k).seen (s.perform a).2).cursor =
      match a.event? j m k with
      | some (op, _) => ((r.seen s).cursor.perform op).2
      | none => (r.seen s).cursor := by
  have hsignals := signals_perform hw hx hr a
  have hbefore : (r.seen s).cursor.owners = [s.isThrown x.connection, s.isThrown x.closed] :=
    congrArg (List.map _) hr.signals
  -- An action that closes neither owner leaves the cursor with the owners it had.
  have hsame (hj : a ≠ .closeConnection j) (hm : a ≠ .closeStatement m) :
      (r.heed s a k).signals.map (s.perform a).2.isThrown = (r.seen s).cursor.owners := by
    rw [hsignals, decide_eq_false hj, decide_eq_false hm, hbefore, Bool.or_false, Bool.or_false]
  have hidle (hheed : r.heed s a k = r) (hj : a ≠ .closeConnection j) (hm : a ≠ .closeStatement m) :
      ((r.heed s a k).seen (s.perform a).2).cursor = (r.seen s).cursor := by
    rw [Result.seen, hsame hj hm, hheed]
    rfl
  cases a with
  | operate i op =>
    have hj : Action.operate i op ≠ .closeConnection j := by rintro ⟨⟩
    have hm : Action.operate i op ≠ .closeStatement m := by rintro ⟨⟩
    by_cases hown : i = k ∧ offers op = true
    · have hne (i : Nat) : op ≠ .closeOwner i := by
        rintro rfl
        cases hown.2
      have hon : (decide (i = k) && offers op) = true := by simpa using hown
      rw [Result.seen, hsame hj hm, Action.event?, if_pos hon, Result.heed, if_pos hown,
        ← Cursor.owners_perform op hne]
    · have hoff : ¬ (decide (i = k) && offers op) = true := by simpa using hown
      rw [hidle (if_neg hown) hj hm, Action.event?, if_neg hoff]
  | closeConnection i =>
    have hm : Action.closeConnection i ≠ .closeStatement m := by rintro ⟨⟩
    by_cases hi : i = j
    · subst hi
      rw [Result.seen, hsignals, Action.event?, if_pos rfl, decide_eq_true rfl, Bool.or_true, decide_eq_false hm,
        Bool.or_false]
      change _ = (r.seen s).cursor.closeOwner 0
      rw [Cursor.closeOwner, hbefore]
      rfl
    · have hne : Action.closeConnection i ≠ .closeConnection j := by
        rintro ⟨⟩
        exact hi rfl
      rw [hidle rfl hne hm, Action.event?, if_neg hi]
  | closeStatement i =>
    have hj : Action.closeStatement i ≠ .closeConnection j := by rintro ⟨⟩
    by_cases hi : i = m
    · subst hi
      rw [Result.seen, hsignals, Action.event?, if_pos rfl, decide_eq_true rfl, Bool.or_true, decide_eq_false hj,
        Bool.or_false]
      change _ = (r.seen s).cursor.closeOwner 1
      rw [Cursor.closeOwner, hbefore]
      rfl
    · have hne : Action.closeStatement i ≠ .closeStatement m := by
        rintro ⟨⟩
        exact hi rfl
      rw [hidle rfl hj hne, Action.event?, if_neg hi]
  | _ => exact hidle rfl (by rintro ⟨⟩) (by rintro ⟨⟩)

def shown (step : Except Error Outcome × View) : Answer × Option View := (.ofOutcome step.1, some step.2)

private theorem stepsOf_eq (hw : s.Wired) (hx : s.StatementOf j m c x) (hr : s.ResultOf k x r) (rest : List Action) :
    stepsOf k s rest = ((r.seen s).cursor.runMarked (rest.filterMap (Action.event? j m k))).map shown := by
  induction rest generalizing s r with
  | nil => rfl
  | cons a rest ih =>
    have hcursor := cursor_perform hw hx hr a
    have hrest := ih (hw.perform a) (hx.perform a) (hr.perform a)
    rw [stepsOf]
    cases hon : a.isOn k with
    | true =>
      obtain ⟨op, rfl, hop, hevent⟩ := Action.event?_of_isOn (j := j) (m := m) hon
      have hanswer : (s.perform (.operate k op)).1 = .ofOutcome ((r.seen s).cursor.perform op).1 := by
        rw [perform_operate, hr.result, hop]
      simp only [hevent] at hcursor
      rw [List.filterMap_cons_some hevent, Cursor.runMarked_cons_true, List.map_cons, ← hcursor, ← hrest]
      simp only [if_true, hanswer, view?, results_of_result (hr.perform _).result]
      rfl
    | false =>
      rcases Action.event?_of_not_isOn (j := j) (m := m) hon with hevent | ⟨op, hevent⟩
      · simp only [hevent] at hcursor
        rw [List.filterMap_cons_none hevent, ← hcursor]
        exact hrest
      · simp only [hevent] at hcursor
        rw [List.filterMap_cons_some hevent, Cursor.runMarked_cons_false, ← hcursor]
        exact hrest

private theorem view?_after (hw : s.Wired) (hx : s.StatementOf j m c x) (hr : s.ResultOf k x r) (rest : List Action) :
    (s.after rest).view? k =
      some ((r.seen s).cursor.after ((rest.filterMap (Action.event? j m k)).map Prod.fst)).view := by
  induction rest generalizing s r with
  | nil => exact congrArg (Option.map _) (results_of_result hr.result)
  | cons a rest ih =>
    have hcursor := cursor_perform hw hx hr a
    change ((s.perform a).2.after rest).view? k = _
    rw [ih (hw.perform a) (hx.perform a) (hr.perform a), hcursor]
    cases hevent : a.event? j m k with
    | none => rw [List.filterMap_cons_none hevent]
    | some event =>
      rw [List.filterMap_cons_some hevent]
      rfl

/-- What can be seen of a result while a session goes on is what can be seen of its cursor alone, with its owners closed
in between. All actions that are not on the result and close neither its statement nor its connection can be left
out. -/
structure StandsAlone (s : Session) (j m k : Nat) (cursor : Cursor Table.Reader) : Prop where
  stepsOf_eq : ∀ rest, stepsOf k s rest =
    (cursor.runMarked (rest.filterMap (Action.event? j m k))).map shown
  view?_eq : ∀ rest, (s.after rest).view? k =
    some (cursor.after ((rest.filterMap (Action.event? j m k)).map Prod.fst)).view
  stepsOf_filter : ∀ rest, stepsOf k s rest = stepsOf k s (rest.filter fun a => (a.event? j m k).isSome)

private theorem standsAlone (hw : s.Wired) (hx : s.StatementOf j m c x) (hr : s.ResultOf k x r) :
    StandsAlone s j m k (r.seen s).cursor where
  stepsOf_eq := stepsOf_eq hw hx hr
  view?_eq := view?_after hw hx hr
  stepsOf_filter rest := by
    rw [stepsOf_eq hw hx hr, stepsOf_eq hw hx hr, filterMap_filter_event?]

private theorem StandsAlone.onSource {cursor : Cursor Table.Reader} (h : StandsAlone s j m k cursor)
    {R : Table.Reader → Table.Reader → Prop} (sim : Simulation R) {t : Table.Reader}
    (ht : R cursor.source t) : StandsAlone s j m k (cursor.onSource t) where
  stepsOf_eq rest := by
    rw [h.stepsOf_eq, Cursor.runMarked, Cursor.runMarked, sim.run_eq ht]
  view?_eq rest := by
    obtain ⟨t', ht', hafter⟩ := sim.after ht ((rest.filterMap (Action.event? j m k)).map Prod.fst)
    rw [h.view?_eq, hafter, sim.view_eq ht']
  stepsOf_filter := h.stepsOf_filter

private theorem seen_of_execute {cursor : Cursor Table.Reader} {sql : String} (hw : s.Wired)
    (hx : s.StatementOf j m c x) (hopen : s.isClosed x = false) (howners : cursor.owners = [false, false]) :
    (Result.seen (s.perform (.execute m sql)).2 ⟨[x.connection, x.closed], cursor⟩).cursor = cursor := by
  obtain ⟨hclosed, hconnection⟩ := Bool.or_eq_false_iff.mp hopen
  rw [Result.seen, List.map_cons, List.map_cons, isThrown_perform hw hx.target_connection,
    isThrown_perform hw hx.target_closed, hclosed, hconnection]
  exact congrArg (fun owners => { cursor with owners := owners }) howners.symm

/-- A result that a query makes at any point of a history stands alone from there on: it shows what a cursor over
the bytes that its file has at that point shows, read in the character set that the table has at that point. -/
theorem result_standsAlone {before : List Action} {m k : Nat} {sql : String}
    (h : ((empty.after before).perform (.execute m sql)).1 = .created k) :
    ∃ j c bytes reader cursor,
      Returned before (.createStatement j) (.created m) ∧
      (empty.after before).connections[j]? = some c ∧
      (empty.after before).files.read? c.path = some bytes ∧
      openTable (empty.after before).files c.path c.options = .ok reader ∧
      c.cursorOver reader.schema.charset bytes sql = .ok cursor ∧
      StandsAlone (empty.after (before ++ [.execute m sql])) j m k cursor := by
  obtain ⟨x, reader, cursor, hx, hopen, hreader, hcursor, hr⟩ := eq_of_execute_created h
  obtain ⟨j, hcreate⟩ := returned_of_statement hx
  obtain ⟨c, y, hy⟩ := exists_statementOf_of_returned hcreate
  cases hx.symm.trans hy.statement
  obtain ⟨bytes, label, hbytes, hopens⟩ := exists_ofBytes_of_openTable hreader
  obtain ⟨hsource, howners⟩ : cursor.source = reader ∧ cursor.owners = [false, false] := by
    obtain ⟨statement, -, rfl⟩ := Cursor.ofQuery_eq_ok_iff.mp hcursor
    exact ⟨rfl, rfl⟩
  have halone : StandsAlone (empty.after (before ++ [.execute m sql])) j m k cursor := by
    have hw := wired_after before
    rw [after_concat, ← seen_of_execute hw hy hopen howners]
    exact standsAlone (hw.perform _) (hy.perform _) hr
  rw [hy.path, hy.options] at hopens hreader
  rw [hy.path] at hbytes
  rw [hy.options] at hcursor
  refine ⟨j, ⟨c.toOpening, (empty.after before).isThrown c.closed⟩, bytes, reader,
    cursor.onSource { reader with origin := .explicit },
    hcreate, ?_, hbytes, hreader, cursorOver_of_ofBytes c.toOpening hopens hcursor,
    halone.onSource simulation_origin (by rw [hsource])⟩
  rw [connections, List.getElem?_map, hy.opened]
  rfl

end Runs

open Table.Reader (smallTable) in
/-- The file is removed before the result reads it, and the connection is closed while it stands on a row. -/
theorem result_standsAlone_removedFile :
    ((empty.after smallHistory).perform (.execute 0 "SELECT * FROM t")).1 = .created 0 ∧
      stepsOf 0 (empty.after (smallHistory ++ [.execute 0 "SELECT * FROM t"]))
          [.remove "t", .operate 0 .next, .closeConnection 0, .operate 0 .next] =
        [(.outcome (.moved true), some ⟨.onRow, 1, false, false⟩),
          (.failed (.error (.closed "t")), some ⟨.onRow, 1, false, true⟩)] := by
  have hexecute : ((empty.after smallHistory).perform (.execute 0 "SELECT * FROM t")).1 = .created 0 := by
    rw [after_smallHistory, perform_execute_small _ Nat.two_pos]
    rfl
  refine ⟨hexecute, ?_⟩
  obtain ⟨j, c, bytes, reader, cursor, hcreate, hc, hbytes, hreader, hcursor, halone⟩ :=
    result_standsAlone hexecute
  have hj : j = 0 := by
    simpa [smallHistory] using hcreate.mem
  subst hj
  rw [after_smallHistory] at hc hbytes hreader
  cases hc
  cases hbytes.symm.trans read?_small
  cases hreader.symm.trans openTable_small
  have hreader : Table.Reader.ofBytes ⟨"t", "t", some (.page .windows1252), none⟩ smallTable.bytes =
      .ok { smallReader with origin := .explicit } := by
    decide +kernel
  unfold Opening.cursorOver tableName at hcursor
  simp only [steps_small] at hcursor
  change Except.bind (Table.Reader.ofBytes ⟨"t", "t", some (.page .windows1252), none⟩ _) _ = _ at hcursor
  rw [hreader] at hcursor
  cases hcursor.symm.trans (ofQuery_small .explicit)
  rw [halone.stepsOf_eq]
  rfl

end Xbase.Session
