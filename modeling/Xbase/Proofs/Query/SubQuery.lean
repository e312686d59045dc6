import Xbase.Proofs.Query.Refusal
/-!
# Sub-queries

A query in parentheses can stand where a column, a table or a literal is expected. In three of the four places it
is refused as a feature that is not supported. Among the columns that a query asks for it is not recognised, and
the parenthesis is called invalid.
-/
namespace Xbase.Query

def Token.isOperand : Token → Bool
  | .asterisk | .identifier _ | .integer _ | .float _ | .string _ | .boolean _ | .null => true
  | _ => false

/-- Tokens up to a place where an operand is expected. -/
private inductive UpToOperand : List Token → Prop where
  | selected {names : List String} (hnames : ∀ name ∈ names, '.' ∉ name.toList) :
    UpToOperand (.keyword .select :: names.flatMap fun name => [.identifier name, .comma])
  | table {columns : SelectList} (hne : columns ≠ .columns [])
      (hnames : ∀ name ∈ columns.names, '.' ∉ name.toList) :
    UpToOperand (.keyword .select :: columns.tokens ++ [.keyword .fromWord])
  | column {s : Statement} (hs : s.IsPlain) (hnone : s.condition = none) :
    UpToOperand (s.tokens ++ [.keyword .whereWord])
  | literal {s : Statement} (hs : s.IsPlain) (hnone : s.condition = none) {column : String}
      (hcolumn : '.' ∉ column.toList) (op : Operator) :
    UpToOperand (s.tokens ++ [.keyword .whereWord, .identifier column, .operator op])

section Split

variable {front tail tokens rest : List Token} {t x : Token}

private theorem exists_cons_of_split (ht : t.isOperand = true) (hx : x.isOperand = false)
    (h : x :: tokens = front ++ t :: tail) : ∃ front', front = x :: front' ∧ tokens = front' ++ t :: tail := by
  obtain ⟨rfl, h⟩ | ⟨front', hfront, h⟩ := List.cons_eq_append_iff.mp h
  · obtain ⟨rfl, -⟩ := List.cons.inj h
    rw [hx] at ht
    cases ht
  · exact ⟨front', hfront, h⟩

private theorem split_names {names : List String} (ht : t.isOperand = true)
    (h : (SelectList.columns names).tokens ++ rest = front ++ t :: tail) :
    (∃ before ⊆ names, front = before.flatMap fun name => [.identifier name, .comma]) ∨
      ∃ front', front = (SelectList.columns names).tokens ++ front' ∧ rest = front' ++ t :: tail := by
  induction names generalizing front with
  | nil => exact .inr ⟨front, rfl, h⟩
  | cons name names ih =>
    cases names with
    | nil =>
      obtain ⟨rfl, -⟩ | ⟨front', rfl, hrest⟩ := List.cons_eq_append_iff.mp h
      · exact .inl ⟨[], by simp, rfl⟩
      · exact .inr ⟨front', rfl, hrest⟩
    | cons next names =>
      have htokens : (SelectList.columns (name :: next :: names)).tokens =
          .identifier name :: .comma :: (SelectList.columns (next :: names)).tokens := rfl
      rw [htokens] at h ⊢
      obtain ⟨rfl, -⟩ | ⟨front', rfl, hcomma⟩ := List.cons_eq_append_iff.mp h
      · exact .inl ⟨[], by simp, rfl⟩
      · obtain ⟨front', rfl, hnames⟩ := exists_cons_of_split ht rfl hcomma
        obtain ⟨before, hbefore, rfl⟩ | ⟨front', rfl, hrest⟩ := ih hnames
        · exact .inl ⟨name :: before, List.cons_subset_cons name hbefore, rfl⟩
        · exact .inr ⟨front', rfl, hrest⟩

private theorem split_columns {columns : SelectList} (ht : t.isOperand = true)
    (h : columns.tokens ++ rest = front ++ t :: tail) :
    (∃ before ⊆ columns.names, front = before.flatMap fun name => [.identifier name, .comma]) ∨
      ∃ front', front = columns.tokens ++ front' ∧ rest = front' ++ t :: tail := by
  cases columns with
  | all =>
    obtain ⟨rfl, -⟩ | ⟨front', rfl, hrest⟩ := List.cons_eq_append_iff.mp h
    · exact .inl ⟨[], List.nil_subset _, rfl⟩
    · exact .inr ⟨front', rfl, hrest⟩
  | columns names => exact split_names ht h

private theorem not_split_stop (ht : t.isOperand = true) (hrest : rest = [.eof] ∨ rest = [.semicolon, .eof])
    (h : rest = front ++ t :: tail) : False := by
  have hmem : t ∈ rest := by
    rw [h]
    exact List.mem_append_right front (.head tail)
  obtain rfl | rfl := hrest
  · obtain rfl := List.mem_singleton.mp hmem
    cases ht
  · have hstop : t = .semicolon ∨ t = .eof := by simpa using hmem
    obtain rfl | rfl := hstop <;> cases ht

private theorem split_condition {c : Option Comparison} (ht : t.isOperand = true)
    (hrest : rest = [.eof] ∨ rest = [.semicolon, .eof])
    (h : conditionTokens c ++ rest = front ++ t :: tail) :
    front = [.keyword .whereWord] ∨
      ∃ d, c = some d ∧ front = [.keyword .whereWord, .identifier d.column, .operator d.operator] := by
  cases c with
  | none => exact (not_split_stop ht hrest h).elim
  | some d =>
    obtain ⟨front, rfl, hcolumn⟩ := exists_cons_of_split ht rfl h
    obtain ⟨rfl, -⟩ | ⟨front, rfl, hoperator⟩ := List.cons_eq_append_iff.mp hcolumn
    · exact .inl rfl
    obtain ⟨front, rfl, hliteral⟩ := exists_cons_of_split ht rfl hoperator
    obtain ⟨rfl, -⟩ | ⟨front, rfl, hstop⟩ := List.cons_eq_append_iff.mp hliteral
    · exact .inr ⟨d, rfl, rfl⟩
    · exact (not_split_stop ht hrest hstop).elim

end Split

private theorem upToOperand_of_isSentence {s : Statement} {front tail : List Token} {t : Token}
    (ht : t.isOperand = true) (h : IsSentence s (front ++ t :: tail)) : UpToOperand front := by
  obtain ⟨hs, htokens⟩ := h
  obtain ⟨stop, hstop, htokens⟩ : ∃ stop, (stop = [Token.eof] ∨ stop = [.semicolon, .eof]) ∧
      .keyword .select :: (s.columns.tokens ++ .keyword .fromWord :: .identifier s.table ::
        (conditionTokens s.condition ++ stop)) = front ++ t :: tail := by
    obtain htokens | htokens := htokens
    · exact ⟨_, .inl rfl, by simp [htokens, Statement.tokens]⟩
    · exact ⟨_, .inr rfl, by simp [htokens, Statement.tokens]⟩
  obtain ⟨front, rfl, hcolumns⟩ := exists_cons_of_split ht rfl htokens
  obtain ⟨before, hbefore, rfl⟩ | ⟨front, rfl, hfrom⟩ := split_columns ht hcolumns
  · exact .selected fun name hname => hs.selected name (hbefore hname)
  obtain ⟨front, rfl, htable⟩ := exists_cons_of_split ht rfl hfrom
  obtain ⟨rfl, -⟩ | ⟨front, rfl, hcondition⟩ := List.cons_eq_append_iff.mp htable
  · exact .table hs.columns_ne_nil hs.selected
  have hplain : Statement.IsPlain { s with condition := none } := hs.withoutCondition
  obtain rfl | ⟨d, hd, rfl⟩ := split_condition ht hstop hcondition
  · simpa [Statement.tokens, conditionTokens] using UpToOperand.column hplain rfl
  · simpa [Statement.tokens, conditionTokens] using UpToOperand.literal hplain rfl (hs.compared hd) d.operator

open Grammar

/-- The fault of a query in parentheses behind given tokens. The columns that are asked for end at `FROM`. -/
def subQueryFault (front : List Token) : Fault :=
  if .keyword .fromWord ∈ front then .unsupported .subQuery
  else .invalid (.unexpected .columnsOrAsterisk .leftParen)

private theorem selectList_of_leftParen {names : List String} (hnames : ∀ name ∈ names, '.' ∉ name.toList)
    (tokens : List Token) :
    selectList (names.flatMap (fun name => [.identifier name, .comma]) ++ .leftParen :: tokens) =
      .error (.invalid (.unexpected .columnsOrAsterisk .leftParen)) (.leftParen :: tokens) := by
  have hparen : columnNamesOf (.leftParen :: tokens) =
      .error (.invalid (.unexpected .columnsOrAsterisk .leftParen)) (.leftParen :: tokens) := by
    rw [columnNamesOf] <;> simp
  exact selectList_of_columnNamesOf_error hnames (by simp) (by simp) hparen

private theorem statement_of_upToOperand {front : List Token} (h : UpToOperand front) (rest : List Token) :
    ∃ left, statement (front ++ .leftParen :: .keyword .select :: rest) = .error (subQueryFault front) left := by
  cases h with
  | selected hnames =>
    have hfault := statement_of_selectList_error (selectList_of_leftParen hnames (.keyword .select :: rest))
    rw [subQueryFault, if_neg (by simp)]
    exact ⟨_, hfault⟩
  | @table columns hne hnames =>
    have htable : table (.leftParen :: .keyword .select :: rest) = .error (.unsupported .subQuery) _ := rfl
    have hfault := statement_of_table_error hne hnames htable
    rw [subQueryFault, if_pos (by simp), List.append_assoc]
    exact ⟨_, hfault⟩
  | @column s hs hnone =>
    have hcolumn : comparisonColumn (.leftParen :: .keyword .select :: rest) =
        .error (.unsupported .subQuery) (.leftParen :: .keyword .select :: rest) := by
      rw [comparisonColumn_leftParen, if_pos (head_cons _)]
    have hcondition := condition_of_comparison_error (comparison_of_column_error hcolumn)
    rw [subQueryFault, if_pos (by simp [Statement.tokens]), List.append_assoc]
    exact ⟨_, statement_of_condition_error hs hnone hcondition⟩
  | @literal s hs hnone column hcolumn op =>
    have hliteral : literal (.leftParen :: .keyword .select :: rest) =
        .error (.unsupported .subQuery) (.leftParen :: .keyword .select :: rest) := by
      rw [literal_leftParen, if_pos (head_cons _)]
    have hcondition := condition_of_comparison_error (comparison_of_literal_error op hcolumn hliteral)
    rw [subQueryFault, if_pos (by simp [Statement.tokens]), List.append_assoc]
    exact ⟨_, statement_of_condition_error hs hnone hcondition⟩

/-- A query in parentheses in the place of the table, or of the column or the literal of a condition, is refused
as a sub-query, whatever follows. In the place of a column that is asked for it is refused as invalid. No table
makes a difference. -/
theorem parse_of_subQuery {sql : String} {s : Statement} {front tail rest : List Token} {t : Token}
    (ht : t.isOperand = true) (hsentence : IsSentence s (front ++ t :: tail))
    (h : tokenize sql.toList = .ok (front ++ .leftParen :: .keyword .select :: rest)) :
    Feature.subQuery.text = "sub-query" ∧
      (.keyword .fromWord ∈ front →
        parse sql.toList = .error (.unsupported .subQuery) ∧
          ∀ schema, prepare sql schema = .error (.query sql (.unsupported .subQuery))) ∧
      (.keyword .fromWord ∉ front →
        parse sql.toList = .error (.invalid (.unexpected .columnsOrAsterisk .leftParen)) ∧
          ∀ schema, prepare sql schema =
            .error (.query sql (.invalid (.unexpected .columnsOrAsterisk .leftParen)))) := by
  obtain ⟨left, hstatement⟩ := statement_of_upToOperand (upToOperand_of_isSentence ht hsentence) rest
  have hparse : parse sql.toList = .error (subQueryFault front) := by
    rw [parse, h]
    simp only [readStatement, hstatement]
  have hprepare (schema : Schema) : prepare sql schema = .error (.query sql (subQueryFault front)) := by
    rw [prepare, hparse]
  refine ⟨rfl, fun hfrom => ?_, fun hfrom => ?_⟩
  · rw [subQueryFault, if_pos hfrom] at hparse hprepare
    exact ⟨hparse, hprepare⟩
  · rw [subQueryFault, if_neg hfrom] at hparse hprepare
    exact ⟨hparse, hprepare⟩

/-- The literal of a condition, and a table behind two columns. -/
theorem parse_of_subQuery_literal :
    parse "SELECT A FROM t WHERE B <= (SELECT )".toList = .error (.unsupported .subQuery) ∧
      parse "SELECT A, \"B c\" FROM (SELECT * FROM u) WHERE B <= 1".toList = .error (.unsupported .subQuery) := by
  constructor
  · have hsentence : IsSentence ⟨.columns ["A"], "t", some ⟨"B", .le, .null⟩⟩
        ([.keyword .select, .identifier "A", .keyword .fromWord, .identifier "t", .keyword .whereWord,
          .identifier "B", .operator .le] ++ .null :: [.eof]) :=
      ⟨⟨by decide, by decide⟩, .inl rfl⟩
    have htokens : tokenize "SELECT A FROM t WHERE B <= (SELECT )".toList = .ok
        ([.keyword .select, .identifier "A", .keyword .fromWord, .identifier "t", .keyword .whereWord,
          .identifier "B", .operator .le] ++ .leftParen :: .keyword .select :: [.rightParen, .eof]) := by
      decide +kernel
    exact ((parse_of_subQuery rfl hsentence htokens).2.1 (by decide)).1
  · have hsentence : IsSentence ⟨.columns ["A", "B c"], "t", none⟩
        ([.keyword .select, .identifier "A", .comma, .identifier "B c", .keyword .fromWord] ++
          .identifier "t" :: [.semicolon, .eof]) :=
      ⟨⟨by decide, by decide⟩, .inr rfl⟩
    have htokens : tokenize "SELECT A, \"B c\" FROM (SELECT * FROM u) WHERE B <= 1".toList = .ok
        ([.keyword .select, .identifier "A", .comma, .identifier "B c", .keyword .fromWord] ++
          .leftParen :: .keyword .select :: [.asterisk, .keyword .fromWord, .identifier "u", .rightParen,
            .keyword .whereWord, .identifier "B", .operator .le, .integer 1, .eof]) := by
      decide +kernel
    exact ((parse_of_subQuery rfl hsentence htokens).2.1 (by decide)).1

/-- In the place of a column that is asked for, a query in parentheses is not named. -/
theorem parse_subQuery_selected :
    tokenize "SELECT (SELECT A FROM T) FROM T".toList = .ok ([.keyword .select] ++ .leftParen ::
        .keyword .select :: [.identifier "A", .keyword .fromWord, .identifier "T", .rightParen,
          .keyword .fromWord, .identifier "T", .eof]) ∧
      IsSentence ⟨.columns ["A"], "T", none⟩
        ([.keyword .select] ++ .identifier "A" :: [.keyword .fromWord, .identifier "T", .eof]) ∧
      parse "SELECT (SELECT A FROM T) FROM T".toList =
        .error (.invalid (.unexpected .columnsOrAsterisk .leftParen)) := by
  exact ⟨by decide +kernel, ⟨⟨by decide, by decide⟩, .inl rfl⟩, by decide +kernel⟩

end Xbase.Query
