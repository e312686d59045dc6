import Xbase.Error
import Xbase.Proofs.Query.TokenList
import Xbase.Proofs.Query.TokenReader
/-!
# Sentences

The tokens a statement is written with, and the tokens that a statement is read from. Reading accepts the
tokens of a statement with plain column names, with a semicolon behind them or without, and nothing else.
-/
namespace Xbase.Query

def Literal.token : Literal → Token
  | .integer n => .integer n
  | .float x => .float x
  | .string s => .string s
  | .boolean b => .boolean b
  | .null => .null

def SelectList.tokens : SelectList → List Token
  | .all => [.asterisk]
  | .columns names => (names.map Token.identifier).intersperse .comma

def Comparison.tokens (c : Comparison) : List Token :=
  [.identifier c.column, .operator c.operator, c.literal.token]

def conditionTokens : Option Comparison → List Token
  | some c => .keyword .whereWord :: c.tokens
  | none => []

def Statement.tokens (s : Statement) : List Token :=
  .keyword .select :: s.columns.tokens ++ .keyword .fromWord :: .identifier s.table ::
    conditionTokens s.condition

def SelectList.names : SelectList → List String
  | .all => []
  | .columns names => names

/-- A statement that asks for some column, and none of whose columns has a table in front. -/
structure Statement.IsPlain (s : Statement) : Prop where
  columns_ne_nil : s.columns ≠ .columns []
  no_point : ∀ name ∈ s.namedColumns, '.' ∉ name.toList

theorem Statement.mem_namedColumns {s : Statement} {name : String} :
    name ∈ s.namedColumns ↔
      name ∈ s.columns.names ∨ ∃ c, s.condition = some c ∧ c.column = name := by
  cases hc : s.columns <;> simp [Statement.namedColumns, SelectList.names, hc]

theorem Statement.isPlain_iff {s : Statement} :
    s.IsPlain ↔ s.columns ≠ .columns [] ∧ (∀ name ∈ s.columns.names, '.' ∉ name.toList) ∧
      ∀ c, s.condition = some c → '.' ∉ c.column.toList := by
  constructor
  · intro hs
    refine ⟨hs.columns_ne_nil, ?_, ?_⟩
    · intro name hname
      exact hs.no_point name (mem_namedColumns.mpr (.inl hname))
    · intro c hc
      exact hs.no_point c.column (mem_namedColumns.mpr (.inr ⟨c, hc, rfl⟩))
  · intro h
    obtain ⟨hne, hselected, hcompared⟩ := h
    refine ⟨hne, fun name hname => ?_⟩
    obtain hname | ⟨c, hc, rfl⟩ := mem_namedColumns.mp hname
    · exact hselected name hname
    · exact hcompared c hc

theorem Statement.IsPlain.selected {s : Statement} (hs : s.IsPlain) :
    ∀ name ∈ s.columns.names, '.' ∉ name.toList := (isPlain_iff.mp hs).2.1

theorem Statement.IsPlain.compared {s : Statement} (hs : s.IsPlain) {c : Comparison}
    (hc : s.condition = some c) : '.' ∉ c.column.toList := (isPlain_iff.mp hs).2.2 c hc

namespace Grammar

variable {tokens rest : List Token}

theorem isQualified_eq_false_iff {name : String} : isQualified name = false ↔ '.' ∉ name.toList := by
  simp [isQualified]

theorem rejectOtherStatement_select :
    rejectOtherStatement (.keyword .select :: tokens) = .ok () (.keyword .select :: tokens) := rfl

private theorem eq_of_rejectOtherStatement {u : Unit} (h : rejectOtherStatement tokens = .ok u rest) :
    rest = tokens := by
  unfold rejectOtherStatement at h
  rw [current_bind] at h
  cases ht : head tokens with
  | keyword k =>
    simp only [ht] at h
    split at h <;> cases h
    rfl
  | _ =>
    simp only [ht] at h
    cases h
    rfl

theorem expectKeyword_eq_ok_iff {k : Keyword} {u : Unit} :
    expectKeyword k tokens = .ok u rest ↔ tokens = .keyword k :: rest := by
  unfold expectKeyword
  rw [current_bind]
  cases tokens with
  | nil => simp
  | cons t tail => by_cases h : t = .keyword k <;> simp [h]

theorem columnFeature?_eq_none_iff {name : String} {next : Token} :
    columnFeature? name next = none ↔
      '.' ∉ name.toList ∧ next ≠ .leftParen ∧ next ≠ .keyword .asWord := by
  rw [← isQualified_eq_false_iff]
  unfold columnFeature?
  grind

theorem columnNamesOf_tokens {names : List String} (hne : names ≠ [])
    (hp : ∀ name ∈ names, '.' ∉ name.toList) (hc : head rest ≠ .comma)
    (hl : head rest ≠ .leftParen) (ha : head rest ≠ .keyword .asWord) :
    columnNamesOf ((SelectList.columns names).tokens ++ rest) = .ok names rest := by
  induction names with
  | nil => exact absurd rfl hne
  | cons name names ih =>
    have hname : '.' ∉ name.toList := hp name List.mem_cons_self
    cases names with
    | nil =>
      have hf : columnFeature? name (head rest) = none := columnFeature?_eq_none_iff.mpr ⟨hname, hl, ha⟩
      simp only [SelectList.tokens, List.map_cons, List.map_nil, List.intersperse_singleton,
        List.cons_append, List.nil_append]
      rw [columnNamesOf, hf]
      rintro tail rfl
      exact hc rfl
    | cons next names =>
      have hf : columnFeature? name .comma = none :=
        columnFeature?_eq_none_iff.mpr ⟨hname, by simp, by simp⟩
      have htail := ih (by simp) (fun n hn => hp n (List.mem_cons_of_mem _ hn))
      simp only [SelectList.tokens, List.map_cons, List.intersperse_cons_cons, List.cons_append] at htail ⊢
      rw [columnNamesOf, hf]
      simp only [htail]

private theorem eq_tokens_of_columnNamesOf {names : List String} (h : columnNamesOf tokens = .ok names rest) :
    names ≠ [] ∧ tokens = (SelectList.columns names).tokens ++ rest ∧
      (∀ name ∈ names, '.' ∉ name.toList) ∧
      head rest ≠ .comma ∧ head rest ≠ .leftParen ∧ head rest ≠ .keyword .asWord := by
  induction tokens using columnNamesOf.induct generalizing names with
  | case1 name tail feature hf => simp [columnNamesOf, hf] at h
  | case2 name tail hf names' rest' hr ih =>
    simp only [columnNamesOf, hf, hr] at h
    cases h
    obtain ⟨hne, heq, hp, hends⟩ := ih hr
    have hname := (columnFeature?_eq_none_iff.mp hf).1
    refine ⟨by simp, ?_, by simpa using ⟨hname, hp⟩, hends⟩
    rw [heq]
    cases names' with
    | nil => exact absurd rfl hne
    | cons next names' => simp [SelectList.tokens]
  | case3 name tail hf fault rest' hr ih => simp [columnNamesOf, hf, hr] at h
  | case4 name tail hc feature hf =>
    rw [columnNamesOf, hf] at h
    · cases h
    · exact hc
  | case5 name tail hc hf =>
    rw [columnNamesOf, hf] at h
    · cases h
      obtain ⟨hname, hl, ha⟩ := columnFeature?_eq_none_iff.mp hf
      refine ⟨by simp, rfl, by simpa using hname, ?_, hl, ha⟩
      intro h
      obtain ⟨rest, rfl⟩ := exists_cons_of_head_eq (by simp) h
      exact hc rest rfl
    · exact hc
  | case6 tail => simp [columnNamesOf] at h
  | case7 tokens h₁ h₂ h₃ =>
    rw [columnNamesOf] at h
    · cases h
    all_goals assumption

theorem selectList_of_ne (ha : head tokens ≠ .asterisk) (hd : head tokens ≠ .keyword .distinct) :
    selectList tokens =
      match columnNamesOf tokens with
      | .ok names rest => .ok (.columns names) rest
      | .error fault rest => .error fault rest := by
  have hbind : selectList tokens =
      (columnNames tokens.length >>= fun names => pure (SelectList.columns names) :
        TokenReader SelectList) tokens := by
    unfold selectList
    rw [current_bind]
    cases h : head tokens with
    | asterisk => exact absurd h ha
    | keyword k =>
      cases k with
      | distinct => exact absurd h hd
      | _ => rfl
    | _ => rfl
  rw [hbind]
  change EStateM.bind _ _ _ = _
  unfold EStateM.bind
  rw [columnNames_eq (Nat.le_refl _)]
  cases columnNamesOf tokens <;> rfl

private theorem head_names {names : List String} (hne : names ≠ []) :
    ∃ name, head ((SelectList.columns names).tokens ++ rest) = .identifier name := by
  cases names with
  | nil => exact absurd rfl hne
  | cons name names =>
    refine ⟨name, ?_⟩
    cases names <;> simp [SelectList.tokens]

theorem selectList_eq_ok_iff {columns : SelectList} :
    selectList tokens = .ok columns (.keyword .fromWord :: rest) ↔
      tokens = columns.tokens ++ .keyword .fromWord :: rest ∧ columns ≠ .columns [] ∧
        ∀ name ∈ columns.names, '.' ∉ name.toList := by
  constructor
  · intro h
    by_cases ha : head tokens = .asterisk
    · obtain ⟨tail, rfl⟩ := exists_cons_of_head_eq (by simp) ha
      cases h
      exact ⟨rfl, by simp, by simp [SelectList.names]⟩
    by_cases hd : head tokens = .keyword .distinct
    · obtain ⟨tail, rfl⟩ := exists_cons_of_head_eq (by simp) hd
      cases h
    rw [selectList_of_ne ha hd] at h
    cases hn : columnNamesOf tokens with
    | error fault mid => simp [hn] at h
    | ok names mid =>
      rw [hn] at h
      cases h
      obtain ⟨hne, htokens, hp, _⟩ := eq_tokens_of_columnNamesOf hn
      exact ⟨htokens, by simpa using hne, hp⟩
  · rintro ⟨rfl, hne, hp⟩
    cases columns with
    | all => rfl
    | columns names =>
      have hne' : names ≠ [] := fun h => hne (by rw [h])
      obtain ⟨name, hhead⟩ := @head_names (.keyword .fromWord :: rest) _ hne'
      have hn := @columnNamesOf_tokens (.keyword .fromWord :: rest) _ hne' hp
        (by simp) (by simp) (by simp)
      rw [selectList_of_ne (by simp [hhead]) (by simp [hhead]), hn]

private theorem table_identifier {name : String} :
    table (.identifier name :: tokens) =
      if head tokens = .comma then .error (.unsupported .multipleTables) tokens
      else .ok name tokens := by
  simp only [table, current_bind, head_cons, advance_bind, List.tail_cons]
  split <;> rfl

theorem table_eq_ok_iff {name : String} :
    table tokens = .ok name rest ↔ tokens = .identifier name :: rest ∧ head rest ≠ .comma := by
  cases tokens with
  | nil => simp [table]
  | cons t tail =>
    cases t with
    | identifier s =>
      rw [table_identifier]
      grind
    | _ => simp [table]

theorem comparisonColumn_identifier {name : String} :
    comparisonColumn (.identifier name :: tokens) =
      if head tokens = .leftParen then
        if head tokens.tail = .keyword .select then .error (.unsupported .subQuery) tokens
        else .error (.unsupported (.functionCall name)) tokens
      else if isQualified name then .error (.unsupported .qualifiedColumn) tokens
      else .ok name tokens := by
  simp only [comparisonColumn, current_bind, head_cons, advance_bind, List.tail_cons]
  split
  · rw [peek_bind]
    split <;> rfl
  · split <;> rfl

theorem comparisonColumn_leftParen :
    comparisonColumn (.leftParen :: tokens) =
      if head tokens = .keyword .select then .error (.unsupported .subQuery) (.leftParen :: tokens)
      else .error (.unsupported .parenthesizedCondition) (.leftParen :: tokens) := by
  by_cases h : head tokens = .keyword .select <;> simp [comparisonColumn, h]

theorem comparisonColumn_eq_ok_iff {name : String} :
    comparisonColumn tokens = .ok name rest ↔
      tokens = .identifier name :: rest ∧ head rest ≠ .leftParen ∧ '.' ∉ name.toList := by
  rw [← isQualified_eq_false_iff]
  cases tokens with
  | nil => simp [comparisonColumn]
  | cons t tail =>
    cases t with
    | identifier s =>
      rw [comparisonColumn_identifier]
      grind
    | leftParen =>
      rw [comparisonColumn_leftParen]
      grind
    | keyword k => cases k <;> simp [comparisonColumn]
    | _ => simp [comparisonColumn]

theorem comparisonOperator_eq_ok_iff {op : Operator} :
    comparisonOperator tokens = .ok op rest ↔ tokens = .operator op :: rest := by
  unfold comparisonOperator
  rw [current_bind]
  cases tokens with
  | nil => simp
  | cons t tail =>
    cases t with
    | keyword k =>
      simp only [head_cons]
      split <;> simp
    | _ => simp

theorem literalOf?_eq_some_iff {t : Token} {l : Literal} : literalOf? t = some l ↔ t = l.token := by
  constructor
  · intro h
    cases t <;> cases h <;> rfl
  · rintro rfl
    cases l <;> rfl

private theorem literal_token (l : Literal) : literal (l.token :: tokens) = .ok l tokens := by
  cases l <;> rfl

theorem literal_leftParen :
    literal (.leftParen :: tokens) =
      if head tokens = .keyword .select then .error (.unsupported .subQuery) (.leftParen :: tokens)
      else .error (.unsupported .expression) (.leftParen :: tokens) := by
  change (if head tokens = .keyword .select then unsupported .subQuery else unsupported .expression :
    TokenReader Literal) (.leftParen :: tokens) = _
  split <;> rfl

private theorem literal_of_none {t : Token} (h : literalOf? t = none) :
    ∃ fault, literal (t :: tokens) = .error fault (t :: tokens) := by
  cases t with
  | leftParen =>
    rw [literal_leftParen]
    split <;> exact ⟨_, rfl⟩
  | integer | float | string | boolean | null => cases h
  | _ => exact ⟨_, rfl⟩

theorem literal_eq_ok_iff {l : Literal} :
    literal tokens = .ok l rest ↔ tokens = l.token :: rest := by
  cases tokens with
  | nil => exact ⟨nofun, nofun⟩
  | cons t tail =>
    cases ht : literalOf? t with
    | some m =>
      rw [literalOf?_eq_some_iff] at ht
      subst ht
      rw [literal_token]
      cases l <;> cases m <;> simp [Literal.token]
    | none =>
      have hl : t ≠ l.token := fun h => by simp [literalOf?_eq_some_iff.mpr h] at ht
      obtain ⟨fault, hfault⟩ := @literal_of_none tail t ht
      rw [hfault]
      constructor
      · nofun
      · intro h
        exact absurd (List.cons.inj h).1 hl

theorem comparison_eq_ok_iff {c : Comparison} :
    comparison tokens = .ok c rest ↔ tokens = c.tokens ++ rest ∧ '.' ∉ c.column.toList := by
  simp only [comparison, bind_eq_ok_iff, comparisonColumn_eq_ok_iff, comparisonOperator_eq_ok_iff,
    literal_eq_ok_iff, pure_apply, Comparison.tokens]
  constructor
  · rintro ⟨column, _, ⟨rfl, _, hc⟩, op, _, rfl, l, _, rfl, h⟩
    cases h
    exact ⟨rfl, hc⟩
  · rintro ⟨rfl, hc⟩
    exact ⟨_, _, ⟨rfl, by simp, hc⟩, _, _, rfl, _, _, rfl, rfl⟩

theorem condition_where :
    condition (.keyword .whereWord :: tokens) =
      match comparison tokens with
      | .ok c rest =>
        if head rest = .keyword .and then .error (.unsupported (.joinedConditions .and)) rest
        else if head rest = .keyword .or then .error (.unsupported (.joinedConditions .or)) rest
        else .ok (some c) rest
      | .error fault rest => .error fault rest := by
  change EStateM.bind comparison _ tokens = _
  unfold EStateM.bind
  cases comparison tokens with
  | error fault rest => rfl
  | ok c rest =>
    simp only [current_bind]
    cases head rest with
    | keyword k => cases k <;> rfl
    | _ => rfl

theorem condition_of_ne (h : head tokens ≠ .keyword .whereWord) :
    condition tokens = .ok none tokens := by
  unfold condition
  rw [current_bind, if_neg h]
  rfl

private theorem condition_where_eq_ok_iff {c : Option Comparison} :
    condition (.keyword .whereWord :: tokens) = .ok c rest ↔
      ∃ d, c = some d ∧ comparison tokens = .ok d rest ∧
        head rest ≠ .keyword .and ∧ head rest ≠ .keyword .or := by
  rw [condition_where]
  cases comparison tokens with
  | error fault mid => simp
  | ok d mid => grind

theorem condition_eq_ok_iff {c : Option Comparison} :
    condition tokens = .ok c rest ↔
      tokens = conditionTokens c ++ rest ∧
        match c with
        | some c => '.' ∉ c.column.toList ∧ head rest ≠ .keyword .and ∧ head rest ≠ .keyword .or
        | none => head rest ≠ .keyword .whereWord := by
  by_cases hw : head tokens = .keyword .whereWord
  · obtain ⟨tail, rfl⟩ := exists_cons_of_head_eq (by simp) hw
    rw [condition_where_eq_ok_iff]
    cases c with
    | none => simp only [conditionTokens]; grind [head_cons]
    | some c => simp [comparison_eq_ok_iff, conditionTokens, and_assoc]
  · rw [condition_of_ne hw]
    cases c with
    | some c =>
      have hne : tokens ≠ conditionTokens (some c) ++ rest := fun h => hw (by rw [h]; rfl)
      simp [hne]
    | none =>
      simp only [EStateM.Result.ok.injEq, true_and, conditionTokens, List.nil_append]
      constructor
      · rintro rfl
        exact ⟨rfl, hw⟩
      · exact fun h => h.1

/-- Reads nothing, and fails unless the tokens are at their end. -/
def atEnd : TokenReader Unit := do
  let token ← current
  if token = .eof then pure ()
  else match followerFeature? token with
    | some feature => unsupported feature
    | none => unexpected .endOfStatement token

private theorem atEnd_eq_ok_iff {u : Unit} : atEnd tokens = .ok u rest ↔ tokens = rest ∧ head rest = .eof := by
  unfold atEnd
  rw [current_bind]
  by_cases h : head tokens = .eof
  · rw [if_pos h]
    constructor
    · intro hok
      cases hok
      exact ⟨rfl, h⟩
    · rintro ⟨rfl, _⟩
      rfl
  · rw [if_neg h]
    constructor
    · intro hok
      cases hf : followerFeature? (head tokens) <;> (rw [hf] at hok; cases hok)
    · rintro ⟨rfl, heof⟩
      exact absurd heof h

theorem statementEnd_semicolon : statementEnd (.semicolon :: tokens) = atEnd tokens := rfl

theorem statementEnd_of_ne (h : head tokens ≠ .semicolon) : statementEnd tokens = atEnd tokens := by
  unfold statementEnd
  rw [current_bind, if_neg h]
  rfl

theorem statementEnd_eq_ok_iff {u : Unit} :
    statementEnd tokens = .ok u rest ↔
      head rest = .eof ∧ (tokens = rest ∨ tokens = .semicolon :: rest) := by
  by_cases h : head tokens = .semicolon
  · obtain ⟨tail, rfl⟩ := exists_cons_of_head_eq (by simp) h
    rw [statementEnd_semicolon, atEnd_eq_ok_iff]
    grind [head_cons]
  · rw [statementEnd_of_ne h, atEnd_eq_ok_iff]
    grind [head_cons]

private theorem statement_tokens {s : Statement} (hs : s.IsPlain) {tail : List Token}
    (hend : statementEnd tail = .ok () rest) (hhead : head tail = .eof ∨ head tail = .semicolon) :
    statement (s.tokens ++ tail) = .ok s rest := by
  have hcolumns : selectList (s.columns.tokens ++ .keyword .fromWord :: .identifier s.table ::
      (conditionTokens s.condition ++ tail)) = .ok s.columns (.keyword .fromWord ::
        .identifier s.table :: (conditionTokens s.condition ++ tail)) :=
    selectList_eq_ok_iff.mpr ⟨rfl, hs.columns_ne_nil, hs.selected⟩
  have htable : head (conditionTokens s.condition ++ tail) ≠ .comma := by
    cases s.condition with
    | none => rcases hhead with h | h <;> simp [conditionTokens, h]
    | some c => simp [conditionTokens]
  have hcondition : condition (conditionTokens s.condition ++ tail) = .ok s.condition tail := by
    rw [condition_eq_ok_iff]
    refine ⟨rfl, ?_⟩
    cases hc : s.condition with
    | none => rcases hhead with h | h <;> simp [h]
    | some c =>
      have hp := hs.compared hc
      rcases hhead with h | h <;> simp [h, hp]
  have htokens : s.tokens ++ tail = .keyword .select :: (s.columns.tokens ++ .keyword .fromWord ::
      .identifier s.table :: (conditionTokens s.condition ++ tail)) := by
    simp [Statement.tokens]
  rw [htokens]
  unfold statement
  refine bind_eq_ok_iff.mpr ⟨(), _, rejectOtherStatement_select, ?_⟩
  refine bind_eq_ok_iff.mpr ⟨(), _, expectKeyword_eq_ok_iff.mpr rfl, ?_⟩
  refine bind_eq_ok_iff.mpr ⟨_, _, hcolumns, ?_⟩
  refine bind_eq_ok_iff.mpr ⟨(), _, expectKeyword_eq_ok_iff.mpr rfl, ?_⟩
  refine bind_eq_ok_iff.mpr ⟨_, _, table_eq_ok_iff.mpr ⟨rfl, htable⟩, ?_⟩
  refine bind_eq_ok_iff.mpr ⟨_, _, hcondition, ?_⟩
  exact bind_eq_ok_iff.mpr ⟨(), _, hend, rfl⟩

private theorem eq_tokens_of_statement {s : Statement} (h : statement tokens = .ok s rest) :
    s.IsPlain ∧ ∃ tail, tokens = s.tokens ++ tail ∧ statementEnd tail = .ok () rest := by
  unfold statement at h
  simp only [bind_eq_ok_iff, expectKeyword_eq_ok_iff, table_eq_ok_iff, condition_eq_ok_iff,
    pure_apply] at h
  obtain ⟨_, _, hreject, _, _, hselect, columns, _, hcolumns, _, _, rfl, name, _, ⟨rfl, _⟩,
    c, tail, ⟨rfl, hc⟩, _, _, hend, h⟩ := h
  cases h
  obtain ⟨hcolumns, hne, hp⟩ := selectList_eq_ok_iff.mp hcolumns
  refine ⟨Statement.isPlain_iff.mpr ⟨hne, hp, ?_⟩, tail, ?_, hend⟩
  · rintro d rfl
    exact hc.1
  · rw [← eq_of_rejectOtherStatement hreject, hselect, hcolumns]
    simp [Statement.tokens]

/-- Reading a statement succeeds on its tokens alone, with a semicolon behind them or without, if the
columns are plain and nothing follows. -/
theorem statement_eq_ok_iff {s : Statement} :
    statement tokens = .ok s rest ↔
      s.IsPlain ∧ head rest = .eof ∧
        (tokens = s.tokens ++ rest ∨ tokens = s.tokens ++ .semicolon :: rest) := by
  constructor
  · intro h
    obtain ⟨hs, tail, rfl, hend⟩ := eq_tokens_of_statement h
    obtain ⟨heof, rfl | rfl⟩ := statementEnd_eq_ok_iff.mp hend
    · exact ⟨hs, heof, .inl rfl⟩
    · exact ⟨hs, heof, .inr rfl⟩
  · rintro ⟨hs, heof, rfl | rfl⟩
    · exact statement_tokens hs (statementEnd_eq_ok_iff.mpr ⟨heof, .inl rfl⟩) (.inl heof)
    · exact statement_tokens hs (statementEnd_eq_ok_iff.mpr ⟨heof, .inr rfl⟩) (.inr rfl)

end Grammar

private theorem eof_notMem_tokens (s : Statement) : .eof ∉ s.tokens := by
  have hcolumns : .eof ∉ s.columns.tokens := by
    cases s.columns with
    | all => simp [SelectList.tokens]
    | columns names =>
      induction names with
      | nil => simp [SelectList.tokens]
      | cons name names ih => cases names <;> simp_all [SelectList.tokens]
  have hcondition : .eof ∉ conditionTokens s.condition := by
    cases s.condition with
    | none => simp [conditionTokens]
    | some c => cases hl : c.literal <;> simp [conditionTokens, Comparison.tokens, Literal.token, hl]
  simp [Statement.tokens, hcolumns, hcondition]

/-- The tokens of a plain statement up to the end, with a semicolon in front of the end or without. -/
def IsSentence (s : Statement) (tokens : List Token) : Prop :=
  s.IsPlain ∧ (tokens = s.tokens ++ [.eof] ∨ tokens = s.tokens ++ [.semicolon, .eof])

theorem readStatement_eq_ok_iff {tokens : List Token} (h : EndsOnce tokens) {s : Statement} :
    (readStatement tokens).1 = .ok s ↔ IsSentence s tokens := by
  have hread : (readStatement tokens).1 = .ok s ↔ ∃ rest, Grammar.statement tokens = .ok s rest := by
    unfold readStatement
    cases Grammar.statement tokens <;> simp
  simp only [hread, Grammar.statement_eq_ok_iff]
  constructor
  · rintro ⟨rest, hs, heof, rfl | rfl⟩
    · rw [h.eq_eof (eof_notMem_tokens s) heof]
      exact ⟨hs, .inl rfl⟩
    · have hfront : .eof ∉ s.tokens ++ [Token.semicolon] := by simp [eof_notMem_tokens s]
      rw [← List.singleton_append, ← List.append_assoc] at h ⊢
      rw [h.eq_eof hfront heof]
      exact ⟨hs, .inr (by simp)⟩
  · rintro ⟨hs, rfl | rfl⟩
    · exact ⟨[.eof], hs, rfl, .inl rfl⟩
    · exact ⟨[.eof], hs, rfl, .inr rfl⟩

/-- The tokens of a text end once. A statement is read off them if and only if they are a sentence for it,
and tokens that are no sentence are refused, as invalid or for a feature that is not supported. -/
theorem readStatement_of_tokenize {sql : List Char} {tokens : List Token}
    (h : tokenize sql = .ok tokens) :
    EndsOnce tokens ∧
      (∀ s, (readStatement tokens).1 = .ok s ↔ IsSentence s tokens) ∧
      ((∀ s, ¬ IsSentence s tokens) →
        (∃ fault, (readStatement tokens).1 = .error (.invalid fault)) ∨
          ∃ feature, (readStatement tokens).1 = .error (.unsupported feature)) := by
  have hends := endsOnce_of_tokenize h
  refine ⟨hends, fun s => readStatement_eq_ok_iff hends, fun hnone => ?_⟩
  cases hr : (readStatement tokens).1 with
  | ok s => exact absurd ((readStatement_eq_ok_iff hends).mp hr) (hnone s)
  | error fault =>
    cases fault with
    | invalid fault => exact .inl ⟨fault, rfl⟩
    | unsupported feature => exact .inr ⟨feature, rfl⟩

theorem readStatement_of_tokenize_comparison :
    ∃ tokens, tokenize "SELECT A, \"B c\" FROM t WHERE A >= 'x''y';".toList = .ok tokens ∧
      (readStatement tokens).1 =
        .ok ⟨.columns ["A", "B c"], "t", some ⟨"A", .ge, .string "x'y"⟩⟩ := by
  have h : tokenize "SELECT A, \"B c\" FROM t WHERE A >= 'x''y';".toList =
      .ok [.keyword .select, .identifier "A", .comma, .identifier "B c", .keyword .fromWord,
        .identifier "t", .keyword .whereWord, .identifier "A", .operator .ge, .string "x'y", .semicolon,
        .eof] := by
    decide +kernel
  obtain ⟨-, hread, -⟩ := readStatement_of_tokenize h
  refine ⟨_, h, (hread _).mpr ⟨⟨by simp, by decide⟩, .inr rfl⟩⟩

end Xbase.Query
