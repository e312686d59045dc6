import Xbase.Proofs.Query.Sentence
import Xbase.Query.Preparation
/-!
# Features beyond the supported queries

A query of the larger language is refused by the name of the first feature that goes beyond what is supported.
The tokens up to that feature are those of a supported query, and what follows it does not matter.
-/
namespace Xbase.Query

theorem Statement.IsPlain.withoutCondition {s : Statement} (hs : s.IsPlain) :
    Statement.IsPlain { s with condition := none } :=
  isPlain_iff.mpr ⟨hs.columns_ne_nil, hs.selected, nofun⟩

namespace Grammar

variable {tokens rest : List Token} {fault : Fault} {s : Statement} {k : Keyword}

theorem expectKeyword_keyword : expectKeyword k (.keyword k :: tokens) = .ok () tokens :=
  expectKeyword_eq_ok_iff.mpr rfl

theorem statement_of_selectList_error (h : selectList tokens = .error fault rest) :
    statement (.keyword .select :: tokens) = .error fault rest := by
  unfold statement
  rw [bind_of_ok rejectOtherStatement_select, bind_of_ok expectKeyword_keyword, bind_of_error h]

/-- Columns are read off the front, and what follows `FROM` is read behind them. -/
theorem statement_of_columns {columns : SelectList} (hne : columns ≠ .columns [])
    (hnames : ∀ name ∈ columns.names, '.' ∉ name.toList) :
    statement (.keyword .select :: (columns.tokens ++ .keyword .fromWord :: tokens)) =
      (table >>= fun name => condition >>= fun c => statementEnd >>= fun _ => pure ⟨columns, name, c⟩ :
        TokenReader Statement) tokens := by
  unfold statement
  rw [bind_of_ok rejectOtherStatement_select, bind_of_ok expectKeyword_keyword,
    bind_of_ok (selectList_eq_ok_iff.mpr ⟨rfl, hne, hnames⟩), bind_of_ok expectKeyword_keyword]

theorem statement_of_table_error {columns : SelectList} (hne : columns ≠ .columns [])
    (hnames : ∀ name ∈ columns.names, '.' ∉ name.toList) (h : table tokens = .error fault rest) :
    statement (.keyword .select :: (columns.tokens ++ .keyword .fromWord :: tokens)) = .error fault rest := by
  rw [statement_of_columns hne hnames, bind_of_error h]

theorem statement_of_plain (hs : s.IsPlain) (hnone : s.condition = none) (h : head tokens ≠ .comma) :
    statement (s.tokens ++ tokens) =
      (condition >>= fun c => statementEnd >>= fun _ => pure ⟨s.columns, s.table, c⟩ :
        TokenReader Statement) tokens := by
  have htokens : s.tokens ++ tokens = .keyword .select :: (s.columns.tokens ++ .keyword .fromWord ::
      .identifier s.table :: tokens) := by
    simp [Statement.tokens, hnone, conditionTokens]
  rw [htokens, statement_of_columns hs.columns_ne_nil hs.selected, bind_of_ok (table_eq_ok_iff.mpr ⟨rfl, h⟩)]

theorem statement_of_condition_error (hs : s.IsPlain) (hnone : s.condition = none)
    (h : condition (.keyword .whereWord :: tokens) = .error fault rest) :
    statement (s.tokens ++ .keyword .whereWord :: tokens) = .error fault rest := by
  rw [statement_of_plain hs hnone (by simp), bind_of_error h]

theorem condition_of_comparison_error (h : comparison tokens = .error fault rest) :
    condition (.keyword .whereWord :: tokens) = .error fault rest := by
  rw [condition_where, h]

variable {column : String}

theorem comparison_of_column_error (h : comparisonColumn tokens = .error fault rest) :
    comparison tokens = .error fault rest := by
  unfold comparison
  rw [bind_of_error h]

private theorem comparison_of_operator_error (hcolumn : '.' ∉ column.toList) (hparen : head tokens ≠ .leftParen)
    (h : comparisonOperator tokens = .error fault rest) :
    comparison (.identifier column :: tokens) = .error fault rest := by
  unfold comparison
  rw [bind_of_ok (comparisonColumn_eq_ok_iff.mpr ⟨rfl, hparen, hcolumn⟩), bind_of_error h]

theorem comparison_of_literal_error (op : Operator) (hcolumn : '.' ∉ column.toList)
    (h : literal tokens = .error fault rest) :
    comparison (.identifier column :: .operator op :: tokens) = .error fault rest := by
  unfold comparison
  rw [bind_of_ok (comparisonColumn_eq_ok_iff.mpr ⟨rfl, by simp, hcolumn⟩),
    bind_of_ok (comparisonOperator_eq_ok_iff.mpr rfl), bind_of_error h]

/-- Whether tokens stand behind a complete query and go on with a clause that is not supported. -/
private def FollowedBy (k : Keyword) (tokens : List Token) : Prop :=
  head tokens = .keyword k ∨ head tokens = .semicolon ∧ head tokens.tail = .keyword k

variable {feature : Feature}

private theorem atEnd_of_clause (hk : clauseFeature? k = some feature) (h : head tokens = .keyword k) :
    atEnd tokens = .error (.unsupported feature) tokens := by
  have hfeature : followerFeature? (head tokens) = some feature := by
    rw [h]
    exact hk
  unfold atEnd
  rw [current_bind, if_neg (by simp [h]), hfeature]
  rfl

private theorem statementEnd_of_clause (hk : clauseFeature? k = some feature) (h : FollowedBy k tokens) :
    ∃ rest, statementEnd tokens = .error (.unsupported feature) rest := by
  rcases h with h | ⟨hsemicolon, h⟩
  · rw [statementEnd_of_ne (by simp [h])]
    exact ⟨_, atEnd_of_clause hk h⟩
  · obtain ⟨tail, rfl⟩ := exists_cons_of_head_eq (by simp) hsemicolon
    rw [statementEnd_semicolon]
    exact ⟨_, atEnd_of_clause hk h⟩

private theorem condition_of_clause {c : Option Comparison} (hk : clauseFeature? k = some feature)
    (hc : ∀ d, c = some d → '.' ∉ d.column.toList) (h : FollowedBy k tokens) :
    condition (conditionTokens c ++ tokens) = .ok c tokens ∨
      condition (conditionTokens c ++ tokens) = .error (.unsupported feature) tokens := by
  cases c with
  | none =>
    have hne : head tokens ≠ .keyword .whereWord := by
      rcases h with h | ⟨h, -⟩
      · rw [h]
        rintro ⟨⟩
        cases hk
      · simp [h]
    exact .inl (condition_of_ne hne)
  | some d =>
    have hcomparison : comparison (d.tokens ++ tokens) = .ok d tokens :=
      comparison_eq_ok_iff.mpr ⟨rfl, hc d rfl⟩
    change condition (.keyword .whereWord :: (d.tokens ++ tokens)) = _ ∨
      condition (.keyword .whereWord :: (d.tokens ++ tokens)) = _
    rw [condition_where, hcomparison]
    by_cases hand : head tokens = .keyword .and
    · right
      have hfeature : feature = .joinedConditions .and := by
        rcases h with h | ⟨h, -⟩ <;> rw [hand] at h <;> cases h
        exact (Option.some.inj hk).symm
      simp only [hand, if_true, hfeature]
    by_cases hor : head tokens = .keyword .or
    · right
      have hfeature : feature = .joinedConditions .or := by
        rcases h with h | ⟨h, -⟩ <;> rw [hor] at h <;> cases h
        exact (Option.some.inj hk).symm
      simp [hor, hfeature]
    · left
      simp only [hand, hor, if_false]

private theorem statement_of_clause (hs : s.IsPlain) (hk : clauseFeature? k = some feature) (h : FollowedBy k tokens) :
    ∃ rest, statement (s.tokens ++ tokens) = .error (.unsupported feature) rest := by
  have hplain : Statement.IsPlain { s with condition := none } := hs.withoutCondition
  have hcolumn : ∀ d, s.condition = some d → '.' ∉ d.column.toList := fun d => hs.compared
  have htokens : s.tokens ++ tokens =
      Statement.tokens { s with condition := none } ++ (conditionTokens s.condition ++ tokens) := by
    simp [Statement.tokens, conditionTokens]
  have hcomma : head (conditionTokens s.condition ++ tokens) ≠ .comma := by
    cases s.condition with
    | none => rcases h with h | ⟨h, -⟩ <;> simp [conditionTokens, h]
    | some c => simp [conditionTokens]
  rw [htokens, statement_of_plain hplain rfl hcomma]
  rcases condition_of_clause hk hcolumn h with hcondition | hcondition
  · obtain ⟨rest, hend⟩ := statementEnd_of_clause hk h
    rw [bind_of_ok hcondition, bind_of_error hend]
    exact ⟨rest, rfl⟩
  · rw [bind_of_error hcondition]
    exact ⟨tokens, rfl⟩

private theorem columnNamesOf_append {names : List String} (hp : ∀ name ∈ names, '.' ∉ name.toList)
    (h : columnNamesOf tokens = .error fault rest) :
    columnNamesOf (names.flatMap (fun name => [.identifier name, .comma]) ++ tokens) = .error fault rest := by
  induction names with
  | nil => exact h
  | cons name names ih =>
    have hf : columnFeature? name .comma = none :=
      columnFeature?_eq_none_iff.mpr ⟨hp name List.mem_cons_self, by simp, by simp⟩
    have htail := ih fun n hn => hp n (List.mem_cons_of_mem _ hn)
    simp only [List.flatMap_cons, List.cons_append, List.nil_append, columnNamesOf, hf, htail]

theorem selectList_of_columnNamesOf_error {names : List String} (hp : ∀ name ∈ names, '.' ∉ name.toList)
    (ha : head tokens ≠ .asterisk) (hd : head tokens ≠ .keyword .distinct)
    (h : columnNamesOf tokens = .error fault rest) :
    selectList (names.flatMap (fun name => [.identifier name, .comma]) ++ tokens) = .error fault rest := by
  have hhead : head (names.flatMap (fun name => [.identifier name, .comma]) ++ tokens) ≠ .asterisk ∧
      head (names.flatMap (fun name => [.identifier name, .comma]) ++ tokens) ≠ .keyword .distinct := by
    cases names with
    | nil => exact ⟨ha, hd⟩
    | cons name names => simp
  rw [selectList_of_ne hhead.1 hhead.2, columnNamesOf_append hp h]

private theorem columnNamesOf_call {name : String} :
    columnNamesOf (.identifier name :: .leftParen :: tokens) =
      .error (.unsupported (.functionCall name)) (.leftParen :: tokens) := by
  rw [columnNamesOf]
  · rfl
  · simp

end Grammar

/-- The keywords that begin a statement other than a query, with the names they are refused by. -/
def statementNames : List (Keyword × String) :=
  [(.insert, "INSERT statement"), (.update, "UPDATE statement"), (.delete, "DELETE statement"),
   (.create, "CREATE statement"), (.drop, "DROP statement"), (.alter, "ALTER statement")]

def clauseNames : List (Keyword × String) :=
  [(.join, "JOIN"), (.inner, "JOIN"), (.left, "JOIN"), (.right, "JOIN"), (.full, "JOIN"), (.outer, "JOIN"),
   (.cross, "JOIN"), (.group, "GROUP BY"), (.having, "HAVING"), (.orderBy, "ORDER BY"), (.limit, "LIMIT"),
   (.offset, "OFFSET"), (.union, "UNION"), (.and, "multiple conditions joined by AND"),
   (.or, "multiple conditions joined by OR")]

def operatorNames : List (Keyword × String) :=
  [(.like, "LIKE"), (.inWord, "IN"), (.between, "BETWEEN"), (.is, "IS"), (.not, "NOT")]

/-- Tokens that are those of a supported query up to a feature of the larger language, and the name of the feature.
Any tokens may follow it. -/
inductive Exceeds : List Token → String → Prop where
  | otherStatement {k : Keyword} {name : String} (hname : (k, name) ∈ statementNames) (rest : List Token) :
    Exceeds (.keyword k :: rest) name
  | distinct (rest : List Token) : Exceeds (.keyword .select :: .keyword .distinct :: rest) "DISTINCT"
  | selectedCall {names : List String} (hnames : ∀ name ∈ names, '.' ∉ name.toList) (name : String)
      (rest : List Token) :
    Exceeds (.keyword .select :: (names.flatMap (fun name => [.identifier name, .comma]) ++
      .identifier name :: .leftParen :: rest)) ("function call " ++ name ++ "()")
  | comparedCall {s : Statement} (hs : s.IsPlain) (hnone : s.condition = none) (name : String)
      {rest : List Token} (hrest : Grammar.head rest ≠ .keyword .select) :
    Exceeds (s.tokens ++ .keyword .whereWord :: .identifier name :: .leftParen :: rest)
      ("function call " ++ name ++ "()")
  | operator {s : Statement} (hs : s.IsPlain) (hnone : s.condition = none) {column : String}
      (hcolumn : '.' ∉ column.toList) {k : Keyword} {name : String} (hname : (k, name) ∈ operatorNames)
      (rest : List Token) :
    Exceeds (s.tokens ++ .keyword .whereWord :: .identifier column :: .keyword k :: rest) name
  | comparedColumn {s : Statement} (hs : s.IsPlain) (hnone : s.condition = none) {column : String}
      (hcolumn : '.' ∉ column.toList) (op : Operator) (other : String) (rest : List Token) :
    Exceeds (s.tokens ++ .keyword .whereWord :: .identifier column :: .operator op :: .identifier other :: rest)
      "column to column comparison"
  | clause {s : Statement} (hs : s.IsPlain) {stop : List Token} (hstop : stop = [] ∨ stop = [.semicolon])
      {k : Keyword} {name : String} (hname : (k, name) ∈ clauseNames) (rest : List Token) :
    Exceeds (s.tokens ++ (stop ++ .keyword k :: rest)) name

open Grammar

private theorem exists_clauseFeature {k : Keyword} {name : String} (h : (k, name) ∈ clauseNames) :
    ∃ feature, clauseFeature? k = some feature ∧ feature.text = name := by
  have hall : ∀ entry ∈ clauseNames, ∃ feature ∈ clauseFeature? entry.1, feature.text = entry.2 := by
    decide
  exact hall _ h

private theorem statement_of_otherStatement {k : Keyword} {name : String} (h : (k, name) ∈ statementNames)
    (tokens : List Token) :
    (Feature.statement k).text = name ∧
      statement (.keyword k :: tokens) = .error (.unsupported (.statement k)) (.keyword k :: tokens) := by
  have hall : ∀ entry ∈ statementNames, entry.1 ∈ [Keyword.insert, .update, .delete, .create, .drop, .alter] ∧
      (Feature.statement entry.1).text = entry.2 := by
    decide
  obtain ⟨hmem, htext⟩ := hall _ h
  have hreject : rejectOtherStatement (.keyword k :: tokens) =
      .error (.unsupported (.statement k)) (.keyword k :: tokens) := by
    unfold rejectOtherStatement
    rw [current_bind, head_cons]
    simp only [if_pos hmem, unsupported_apply]
  refine ⟨htext, ?_⟩
  unfold statement
  rw [bind_of_error hreject]

private theorem comparisonOperator_of_keyword {k : Keyword} {name : String} (h : (k, name) ∈ operatorNames)
    (tokens : List Token) :
    (Feature.keywordOperator k).text = name ∧
      comparisonOperator (.keyword k :: tokens) =
        .error (.unsupported (.keywordOperator k)) (.keyword k :: tokens) := by
  have hall : ∀ entry ∈ operatorNames, entry.1 ∈ [Keyword.like, .inWord, .between, .is, .not] ∧
      (Feature.keywordOperator entry.1).text = entry.2 := by
    decide
  obtain ⟨hmem, htext⟩ := hall _ h
  refine ⟨htext, ?_⟩
  unfold comparisonOperator
  rw [current_bind, head_cons]
  simp only [if_pos hmem, unsupported_apply]

private theorem selectList_of_call {names : List String} (h : ∀ name ∈ names, '.' ∉ name.toList) (name : String)
    (tokens : List Token) :
    selectList (names.flatMap (fun name => [.identifier name, .comma]) ++
        .identifier name :: .leftParen :: tokens) =
      .error (.unsupported (.functionCall name)) (.leftParen :: tokens) :=
  selectList_of_columnNamesOf_error h (by simp) (by simp) columnNamesOf_call

private theorem comparisonColumn_call (name : String) {tokens : List Token} (h : head tokens ≠ .keyword .select) :
    comparisonColumn (.identifier name :: .leftParen :: tokens) =
      .error (.unsupported (.functionCall name)) (.leftParen :: tokens) := by
  simp only [comparisonColumn_identifier, head_cons, List.tail_cons, if_true, h, if_false]

private theorem exists_statement_eq_of_exceeds {tokens : List Token} {name : String} (h : Exceeds tokens name) :
    ∃ feature rest, feature.text = name ∧ statement tokens = .error (.unsupported feature) rest := by
  cases h with
  | otherStatement hname rest =>
    obtain ⟨htext, hstatement⟩ := statement_of_otherStatement hname rest
    exact ⟨_, _, htext, hstatement⟩
  | distinct rest =>
    have hlist : selectList (.keyword .distinct :: rest) = .error (.unsupported .distinct) _ := rfl
    exact ⟨_, _, rfl, statement_of_selectList_error hlist⟩
  | selectedCall hnames name rest =>
    exact ⟨_, _, rfl, statement_of_selectList_error (selectList_of_call hnames name rest)⟩
  | comparedCall hs hnone name hrest =>
    have hcomparison := comparison_of_column_error (comparisonColumn_call name hrest)
    exact ⟨_, _, rfl, statement_of_condition_error hs hnone (condition_of_comparison_error hcomparison)⟩
  | operator hs hnone hcolumn hname rest =>
    obtain ⟨htext, hoperator⟩ := comparisonOperator_of_keyword hname rest
    have hcomparison := comparison_of_operator_error hcolumn (by simp) hoperator
    exact ⟨_, _, htext, statement_of_condition_error hs hnone (condition_of_comparison_error hcomparison)⟩
  | comparedColumn hs hnone hcolumn op other rest =>
    have hliteral : literal (.identifier other :: rest) = .error (.unsupported .columnComparison) _ := rfl
    have hcomparison := comparison_of_literal_error op hcolumn hliteral
    exact ⟨_, _, rfl, statement_of_condition_error hs hnone (condition_of_comparison_error hcomparison)⟩
  | @clause s hs stop hstop k name hname rest =>
    obtain ⟨feature, hfeature, htext⟩ := exists_clauseFeature hname
    have hfollowed : FollowedBy k (stop ++ .keyword k :: rest) := by
      rcases hstop with rfl | rfl
      · exact .inl rfl
      · exact .inr ⟨rfl, rfl⟩
    obtain ⟨rest, hstatement⟩ := statement_of_clause hs hfeature hfollowed
    exact ⟨feature, rest, htext, hstatement⟩

/-- A text whose tokens go beyond the supported queries is refused for the first feature that does, by its name and
whatever follows. It is neither read as a statement nor called invalid, and no table makes a difference. -/
theorem parse_of_exceeds {sql name : String} {tokens : List Token} (h : tokenize sql.toList = .ok tokens)
    (hexceeds : Exceeds tokens name) :
    ∃ feature, feature.text = name ∧ parse sql.toList = .error (.unsupported feature) ∧
      ∀ schema, prepare sql schema = .error (.query sql (.unsupported feature)) := by
  obtain ⟨feature, rest, htext, hstatement⟩ := exists_statement_eq_of_exceeds hexceeds
  have hparse : parse sql.toList = .error (.unsupported feature) := by
    rw [parse, h]
    simp only [readStatement, hstatement]
  refine ⟨feature, htext, hparse, ?_⟩
  intro schema
  rw [prepare, hparse]

/-- The clause stands behind a semicolon, and what follows it is no query. -/
theorem parse_of_exceeds_union :
    tokenize "SELECT A, \"B c\" FROM t WHERE A >= 'x''y'; UNION (SELECT , FROM".toList = .ok
        (Statement.tokens ⟨.columns ["A", "B c"], "t", some ⟨"A", .ge, .string "x'y"⟩⟩ ++ ([.semicolon] ++
          .keyword .union :: [.leftParen, .keyword .select, .comma, .keyword .fromWord, .eof])) ∧
      ∃ feature, feature.text = "UNION" ∧
        parse "SELECT A, \"B c\" FROM t WHERE A >= 'x''y'; UNION (SELECT , FROM".toList =
          .error (.unsupported feature) := by
  have htokens : tokenize "SELECT A, \"B c\" FROM t WHERE A >= 'x''y'; UNION (SELECT , FROM".toList = .ok
      (Statement.tokens ⟨.columns ["A", "B c"], "t", some ⟨"A", .ge, .string "x'y"⟩⟩ ++ ([.semicolon] ++
        .keyword .union :: [.leftParen, .keyword .select, .comma, .keyword .fromWord, .eof])) := by
    decide +kernel
  have hname : (.union, "UNION") ∈ clauseNames := by decide
  have hexceeds := Exceeds.clause (s := ⟨.columns ["A", "B c"], "t", some ⟨"A", .ge, .string "x'y"⟩⟩)
    ⟨by decide, by decide⟩ (.inr rfl) hname
    [.leftParen, .keyword .select, .comma, .keyword .fromWord, .eof]
  obtain ⟨feature, htext, hparse, -⟩ := parse_of_exceeds htokens hexceeds
  exact ⟨htokens, feature, htext, hparse⟩

end Xbase.Query
