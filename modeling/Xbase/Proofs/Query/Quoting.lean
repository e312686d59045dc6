import Xbase.Proofs.Query.Preparation
import Xbase.Proofs.Query.Printing
import Xbase.Proofs.Query.Refusal
/-!
# Names in double quotes

In double quotes a name is one identifier, whatever characters it holds and whatever follows, unless a double
quote is one of them. So a column is found by its quoted name even where the name is a keyword or has blanks.
Only a point in it is taken for the one behind a table, as if the name stood there without quotes.
-/
namespace Xbase.Query

variable {name table : String} {rest : List Char} {tokens : List Token}

private theorem next_quoted (h : '"' ∉ name.toList) :
    Lexer.next ('"' :: (name.toList ++ '"' :: rest)) = (.ok (.identifier name), rest) := by
  have hinside : ∀ c ∈ name.toList, decide (c ≠ '"') = true := by
    intro c hc
    apply decide_eq_true
    rintro rfl
    exact h hc
  have hblank : Text.isBlank '"' = false := by decide
  have hquoted : Lexer.quotedIdentifier (name.toList ++ '"' :: rest) = (.ok (.identifier name), rest) := by
    simp only [Lexer.quotedIdentifier, List.dropWhile_append_of_pos hinside,
      List.takeWhile_append_of_pos hinside]
    simp
  rw [Lexer.next, List.dropWhile_cons_of_neg (by simp [hblank])]
  exact hquoted

private theorem Spells.quoted (h : '"' ∉ name.toList) (hrest : Spells rest tokens) :
    Spells ('"' :: (name.toList ++ '"' :: rest)) (.identifier name :: tokens) := by
  rw [Spells, tokenize_eq, next_quoted h]
  simp only [reduceCtorEq, if_false]
  rw [(hrest : tokenize rest = _)]
  rfl

/-- A query for one column that compares the same column with a literal, with the name in quotes at both places.
Operator and literal are given as they are written. -/
def quotedQuery (name table op literal : String) : String :=
  "SELECT \"" ++ name ++ "\" FROM " ++ table ++ " WHERE \"" ++ name ++ "\" " ++ op ++ " " ++ literal

def quotedStatement (name table : String) (op : Operator) (l : Literal) : Statement :=
  ⟨.columns [name], table, some ⟨name, op, l⟩⟩

variable {op : Operator} {l : Literal} {o literal : String}

private theorem toList_quotedQuery (name table o literal : String) :
    (quotedQuery name table o literal).toList = ['S', 'E', 'L', 'E', 'C', 'T'] ++ ' ' :: '"' ::
      (name.toList ++ '"' :: ' ' :: (['F', 'R', 'O', 'M'] ++ ' ' :: (table.toList ++
        ' ' :: (['W', 'H', 'E', 'R', 'E'] ++ ' ' :: '"' :: (name.toList ++ '"' :: ' ' ::
          (o.toList ++ ' ' :: literal.toList)))))) := by
  -- an equation for the definition would first try to evaluate the strings
  delta quotedQuery
  simp

private theorem spells_quotedQuery (hname : '"' ∉ name.toList) (htable : IsWord table)
    (ho : Spells o.toList [.operator op]) (hl : Spells literal.toList [l.token]) :
    Spells (quotedQuery name table o literal).toList (quotedStatement name table op l).tokens := by
  have hselect : Spells ['S', 'E', 'L', 'E', 'C', 'T'] [.keyword .select] := by decide +kernel
  have hfrom : Spells ['F', 'R', 'O', 'M'] [.keyword .fromWord] := by decide +kernel
  have hwhere : Spells ['W', 'H', 'E', 'R', 'E'] [.keyword .whereWord] := by decide +kernel
  rw [toList_quotedQuery]
  apply hselect.append (separates_space nofun)
  apply Spells.space
  apply Spells.quoted hname
  apply Spells.space
  apply hfrom.append (separates_space nofun)
  apply Spells.space
  apply htable.spells.append (separates_space_word (by decide) (by decide) (by decide))
  apply Spells.space
  apply hwhere.append (separates_space nofun)
  apply Spells.space
  apply Spells.quoted hname
  apply Spells.space
  exact ho.append (separates_space nofun) hl.space

private theorem isPlain_quotedStatement (h : '.' ∉ name.toList) : (quotedStatement name table op l).IsPlain := by
  refine ⟨by simp [quotedStatement], ?_⟩
  intro other hother
  obtain rfl : other = name := by simpa [quotedStatement, Statement.namedColumns] using hother
  exact h

private theorem selectList_of_point (h : '.' ∈ name.toList) :
    Grammar.selectList (.identifier name :: .keyword .fromWord :: tokens) =
      .error (.unsupported .qualifiedColumn) (.keyword .fromWord :: tokens) := by
  have hfeature : Grammar.columnFeature? name (.keyword .fromWord) = some .qualifiedColumn := by
    simp [Grammar.columnFeature?, Grammar.isQualified, h]
  have hnames : Grammar.columnNamesOf (.identifier name :: .keyword .fromWord :: tokens) =
      .error (.unsupported .qualifiedColumn) (.keyword .fromWord :: tokens) := by
    rw [Grammar.columnNamesOf, Grammar.head_cons, hfeature]
    simp
  rw [Grammar.selectList_of_ne (by simp) (by simp), hnames]

private theorem readStatement_of_point (h : '.' ∈ name.toList) :
    (readStatement ((quotedStatement name table op l).tokens ++ [.eof])).1 =
      .error (.unsupported .qualifiedColumn) := by
  have htokens : (quotedStatement name table op l).tokens ++ [.eof] = .keyword .select :: .identifier name ::
      .keyword .fromWord :: (.identifier table :: conditionTokens (some ⟨name, op, l⟩) ++ [.eof]) := rfl
  rw [htokens, readStatement, Grammar.statement_of_selectList_error (selectList_of_point h)]

/-- A query for a column by its quoted name, with any way to write the operator and the literal, is the statement
that it is meant to be, unless there is a point in the name. With a point in it, a column that exists cannot be
named. One way to write operators and literals other than floating-point numbers is the one they are printed in. -/
theorem prepare_quotedQuery {schema : Schema} (hcolumn : schema.HasColumn (.name name))
    (hname : '"' ∉ name.toList) (htable : IsWord table) (op : Operator) (l : Literal) :
    (∀ o literal : String, Spells o.toList [.operator op] → Spells literal.toList [l.token] →
      prepare (quotedQuery name table o literal) schema =
        if '.' ∈ name.toList then
          .error (.query (quotedQuery name table o literal) (.unsupported .qualifiedColumn))
        else .ok (quotedStatement name table op l)) ∧
      Spells op.text.toList [.operator op] ∧
      ((∀ x, l ≠ .float x) → Spells l.text.toList [l.token]) := by
  refine ⟨?_, spells_operator op, spells_literal⟩
  intro o literal ho hl
  have hspells := spells_quotedQuery hname htable ho hl
  split
  · rename_i hpoint
    rw [prepare, parse_of_spells hspells, readStatement_of_point hpoint]
  · rename_i hplain
    apply prepare_of_hasColumns
    · exact ⟨_, hspells, isPlain_quotedStatement hplain, .inl rfl⟩
    · intro other hother
      obtain rfl : other = name := by simpa [quotedStatement, Statement.namedColumns] using hother
      exact hcolumn

/-- A table with a column whose name is a keyword between blanks, and one whose name holds a point. -/
def strangeColumns : Schema where
  table := "T"
  fields := [⟨" order by ", .character, 5, 0⟩, ⟨"A.B", .numeric, 5, 0⟩]
  charset := .page .windows1252

theorem prepare_quotedQuery_keyword :
    strangeColumns.HasColumn (.name " order by ") ∧ '"' ∉ " order by ".toList ∧ IsWord "T" ∧
      prepare "SELECT \" order by \" FROM T WHERE \" order by \" <> 'it''s'" strangeColumns =
        .ok ⟨.columns [" order by "], "T", some ⟨" order by ", .ne, .string "it's"⟩⟩ := by
  have hcolumn : strangeColumns.HasColumn (.name " order by ") := ⟨_, List.mem_cons_self, rfl⟩
  have hname : '"' ∉ " order by ".toList := by decide
  have htable : IsWord "T" := by
    unfold IsWord
    decide +kernel
  obtain ⟨hprepare, -⟩ := prepare_quotedQuery hcolumn hname htable .ne (.string "it's")
  have hquery := hprepare "<>" "'it''s'" (by decide +kernel) (by decide +kernel)
  rw [if_neg (by decide)] at hquery
  exact ⟨hcolumn, hname, htable, hquery⟩

/-- The column is there, but its quoted name is refused as one behind the name of a table. -/
theorem prepare_quotedQuery_point :
    strangeColumns.HasColumn (.name "A.B") ∧ '"' ∉ "A.B".toList ∧
      prepare "SELECT \"A.B\" FROM T WHERE \"A.B\" = 1" strangeColumns =
        .error (.query "SELECT \"A.B\" FROM T WHERE \"A.B\" = 1" (.unsupported .qualifiedColumn)) ∧
      prepare "SELECT \"A.B\" FROM T WHERE \"A.B\" = 1" strangeColumns ≠
        .ok ⟨.columns ["A.B"], "T", some ⟨"A.B", .eq, .integer 1⟩⟩ := by
  refine ⟨⟨_, List.mem_cons_of_mem _ List.mem_cons_self, rfl⟩, by decide, ?_, ?_⟩ <;> decide +kernel

end Xbase.Query
