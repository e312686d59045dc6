import Xbase.Proofs.Number.Notation
import Xbase.Proofs.Query.Sentence
import Xbase.Proofs.Query.Spelling
/-!
# Printed queries

The text of a statement spells the tokens of the statement, so that it is read as the statement again. For
that the names have to be words that are no keywords, and the literal must not be a floating-point number: one
without places is written like an integer.
-/
namespace Xbase.Query

open Lexer

/-- A name that is an identifier when it is written without quotes. -/
def IsWord (name : String) : Prop := tokenize name.toList = .ok [.identifier name, .eof]

theorem IsWord.spells {name : String} (h : IsWord name) : Spells name.toList [.identifier name] := h

theorem doubleQuotes_cons (c : Char) (s : List Char) :
    doubleQuotes (c :: s) = (if c = '\'' then [c, c] else [c]) ++ doubleQuotes s := rfl

private theorem stringBody?_doubleQuotes (s : List Char) :
    stringBody? (doubleQuotes s ++ ['\'']) = some (s, []) := by
  induction s with
  | nil => rfl
  | cons c s ih =>
    rw [doubleQuotes_cons]
    by_cases hc : c = '\''
    · subst hc
      simp only [if_true, List.cons_append, List.nil_append, stringBody?, ih]
      rfl
    · rw [if_neg hc, List.append_assoc, List.singleton_append, stringBody?_other hc, ih]
      rfl

theorem spells_string (s : String) : Spells (Literal.string s).text.toList [.string s] := by
  have htext : (Literal.string s).text.toList = '\'' :: (doubleQuotes s.toList ++ ['\'']) := by
    simp [Literal.text]
  apply spells_of_next
  · rw [htext]
    change string (doubleQuotes s.toList ++ ['\'']) = _
    simp [string, stringBody?_doubleQuotes]
  · simp

private theorem spells_integer (n : Int64) : Spells (Literal.integer n).text.toList [.integer n] := by
  have htext : (Literal.integer n).text.toList = Number.intText n.toInt := by
    simp [Literal.text, integerText]
  have hvalue := Number.ofText?_intText n
  have hdigit : ∀ c ∈ Number.natText n.toInt.natAbs, c.isDigit = true := fun _ =>
    Number.isDigit_of_mem_natText
  have hnext : next (Number.intText n.toInt) = (.ok (.integer n), []) := by
    obtain ⟨c, s, hdigits⟩ := List.exists_cons_of_ne_nil (Number.natText_ne_nil n.toInt.natAbs)
    rw [hdigits] at hdigit
    have hc : c.isDigit = true := hdigit c List.mem_cons_self
    unfold Number.intText at hvalue ⊢
    rw [hdigits] at hvalue ⊢
    split at hvalue
    · have hstart : startsNumber '-' (c :: s) = true := by simp [startsNumber, hc]
      rw [if_pos ‹_›, next_of_startsNumber hstart, number_of_digits hdigit, hvalue]
      simp only [Int64.ofInt_toInt]
    · have hstart : startsNumber c s = true := by simp [startsNumber, hc]
      have htail : ∀ d ∈ s, d.isDigit = true := fun d hd => hdigit d (List.mem_cons_of_mem c hd)
      rw [if_neg ‹_›, next_of_startsNumber hstart, number_of_digits htail, hvalue]
      simp only [Int64.ofInt_toInt]
  rw [htext]
  exact spells_of_next hnext (by simp)

theorem spells_literal {l : Literal} (h : ∀ x, l ≠ .float x) : Spells l.text.toList [l.token] := by
  cases l with
  | integer n => exact spells_integer n
  | float x => exact absurd rfl (h x)
  | string s => exact spells_string s
  | boolean b => cases b <;> decide +kernel
  | null => decide +kernel

theorem spells_operator (op : Operator) : Spells op.text.toList [.operator op] := by
  cases op <;> decide +kernel

private theorem separates_operator {last : Option Token} (op : Operator) (s : List Char) :
    Separates last (' ' :: (op.text.toList ++ s)) := by
  cases op
  all_goals
    simp only [Operator.text, String.reduceToList, List.cons_append]
    exact separates_space_mark (by decide) (by decide)

private theorem spells_comparison {c : Comparison} (hcolumn : IsWord c.column)
    (hliteral : ∀ x, c.literal ≠ .float x) : Spells c.text.toList c.tokens := by
  have htext : c.text.toList =
      c.column.toList ++ ' ' :: (c.operator.text.toList ++ ' ' :: c.literal.text.toList) := by
    simp [Comparison.text]
  have hlast : Separates (some (.operator c.operator)) (' ' :: c.literal.text.toList) :=
    separates_space nofun
  rw [htext]
  apply hcolumn.spells.append (separates_operator _ _)
  apply Spells.space
  exact (spells_operator c.operator).append hlast (spells_literal hliteral).space

private theorem spells_columns {columns : SelectList} (hne : columns ≠ .columns [])
    (h : ∀ name ∈ columns.names, IsWord name) : Spells columns.text.toList columns.tokens := by
  cases columns with
  | all => decide +kernel
  | columns names =>
    induction names with
    | nil => exact absurd rfl hne
    | cons name names ih =>
      have hname : IsWord name := h name List.mem_cons_self
      cases names with
      | nil =>
        have htext : (SelectList.columns [name]).text = name := String.intercalate_singleton (s := ", ")
        rw [htext]
        exact hname
      | cons next names =>
        have htext : (SelectList.columns (name :: next :: names)).text.toList =
            name.toList ++ ([','] ++ ' ' :: (SelectList.columns (next :: names)).text.toList) := by
          simp [SelectList.text, String.intercalate_cons_cons]
        have hcomma : Spells [','] [.comma] := by decide +kernel
        have hrest := ih (by simp) fun name hmem => h name (List.mem_cons_of_mem _ hmem)
        rw [htext]
        apply hname.spells.append (separates_mark (by decide) (by decide))
        exact hcomma.append (separates_space nofun) hrest.space

/-- The text of a condition behind the table, which is empty if there is no condition. -/
private def conditionText : Option Comparison → String
  | some c => " WHERE " ++ c.text
  | none => ""

private theorem Statement.text_eq (s : Statement) :
    s.text = "SELECT " ++ s.columns.text ++ " FROM " ++ s.table ++ conditionText s.condition := by
  cases hc : s.condition <;> simp [Statement.text, conditionText, hc]

private theorem conditionText_some (c : Comparison) :
    (conditionText (some c)).toList = ' ' :: (['W', 'H', 'E', 'R', 'E'] ++ ' ' :: c.text.toList) := by
  simp [conditionText]

private theorem spells_condition {condition : Option Comparison}
    (h : ∀ c, condition = some c → IsWord c.column ∧ ∀ x, c.literal ≠ .float x) :
    Spells (conditionText condition).toList (conditionTokens condition) := by
  cases condition with
  | none => exact spells_nil
  | some c =>
    obtain ⟨hcolumn, hliteral⟩ := h c rfl
    have hwhere : Spells ['W', 'H', 'E', 'R', 'E'] [.keyword .whereWord] := by decide +kernel
    rw [conditionText_some]
    exact (hwhere.append (separates_space nofun) (spells_comparison hcolumn hliteral).space).space

private theorem separates_condition {last : Option Token} (condition : Option Comparison) :
    Separates last (conditionText condition).toList := by
  cases condition with
  | none => exact separates_nil
  | some c =>
    rw [conditionText_some]
    exact separates_space_word (by decide) (by decide) (by decide)

structure Statement.Prints (s : Statement) : Prop where
  plain : s.IsPlain
  words : ∀ name ∈ s.table :: s.namedColumns, IsWord name
  no_float : ∀ c x, s.condition = some c → c.literal ≠ .float x

private theorem spells_statement {s : Statement} (h : s.Prints) : Spells s.text.toList s.tokens := by
  have htable : IsWord s.table := h.words _ List.mem_cons_self
  have hnamed : ∀ name ∈ s.namedColumns, IsWord name := fun name hname =>
    h.words name (List.mem_cons_of_mem _ hname)
  have hcolumns : ∀ name ∈ s.columns.names, IsWord name := fun name hname =>
    hnamed name (Statement.mem_namedColumns.mpr (.inl hname))
  have hcondition : ∀ c, s.condition = some c → IsWord c.column ∧ ∀ x, c.literal ≠ .float x :=
    fun c hc => ⟨hnamed _ (Statement.mem_namedColumns.mpr (.inr ⟨c, hc, rfl⟩)), fun x => h.no_float c x hc⟩
  have hselect : Spells ['S', 'E', 'L', 'E', 'C', 'T'] [.keyword .select] := by decide +kernel
  have hfrom : Spells ['F', 'R', 'O', 'M'] [.keyword .fromWord] := by decide +kernel
  have htext : s.text.toList = ['S', 'E', 'L', 'E', 'C', 'T'] ++ ' ' :: (s.columns.text.toList ++
      ' ' :: (['F', 'R', 'O', 'M'] ++ ' ' :: (s.table.toList ++ (conditionText s.condition).toList))) := by
    simp [Statement.text_eq]
  rw [htext]
  -- Each piece ends in front of a blank, and behind a name that may be `ORDER` no `BY` follows.
  apply hselect.append (separates_space nofun)
  apply Spells.space
  apply (spells_columns h.plain.columns_ne_nil hcolumns).append
    (separates_space_word (by decide) (by decide) (by decide))
  apply Spells.space
  apply hfrom.append (separates_space nofun)
  apply Spells.space
  exact htable.spells.append (separates_condition s.condition) (spells_condition hcondition)

theorem parse_of_spells {sql : List Char} {tokens : List Token} (h : Spells sql tokens) :
    parse sql = (readStatement (tokens ++ [.eof])).1 := by
  rw [parse, (h : tokenize sql = _)]

private theorem Statement.Prints.parse_text {s : Statement} (h : s.Prints) :
    parse s.text.toList = .ok s ∧ parse (s.text ++ ";").toList = .ok s := by
  have hspells := spells_statement h
  have hsemicolon : Spells [';'] [.semicolon] := by decide +kernel
  constructor
  · rw [parse_of_spells hspells, readStatement_eq_ok_iff (endsOnce_of_tokenize hspells)]
    exact ⟨h.plain, .inl rfl⟩
  · have hmore : Spells (s.text ++ ";").toList (s.tokens ++ [.semicolon]) := by
      rw [String.toList_append]
      exact hspells.append (separates_mark (by decide) (by decide)) hsemicolon
    rw [parse_of_spells hmore, readStatement_eq_ok_iff (endsOnce_of_tokenize hmore)]
    exact ⟨h.plain, .inr (by simp)⟩

def Statement.withLiteral (s : Statement) (l : Literal) : Statement :=
  { s with condition := s.condition.map fun c => { c with literal := l } }

theorem Statement.namedColumns_withLiteral (s : Statement) (l : Literal) :
    (s.withLiteral l).namedColumns = s.namedColumns := by
  cases hc : s.condition <;> simp [Statement.namedColumns, Statement.withLiteral, hc]

theorem Statement.IsPlain.withLiteral {s : Statement} (h : s.IsPlain) (l : Literal) :
    (s.withLiteral l).IsPlain := by
  refine ⟨h.columns_ne_nil, ?_⟩
  rw [Statement.namedColumns_withLiteral]
  exact h.no_point

private theorem isPlain_of_readStatement {tokens : List Token} {s : Statement}
    (h : (readStatement tokens).1 = .ok s) : s.IsPlain := by
  unfold readStatement at h
  cases hs : Grammar.statement tokens with
  | error fault rest => simp [hs] at h
  | ok s' rest =>
    rw [hs] at h
    cases h
    exact (Grammar.statement_eq_ok_iff.mp hs).1

/-- The text of a statement that has been read is read as that statement again, with a semicolon behind it
and without, if its names need no quotes and its literal is no floating-point number. No other such literal in
its place changes anything else: not an integer, and not a string, whatever it holds. -/
theorem parse_text_of_readStatement {tokens : List Token} {s : Statement}
    (h : (readStatement tokens).1 = .ok s) (hwords : ∀ name ∈ s.table :: s.namedColumns, IsWord name) :
    ((∀ c x, s.condition = some c → c.literal ≠ .float x) →
        parse s.text.toList = .ok s ∧ parse (s.text ++ ";").toList = .ok s) ∧
      ∀ l : Literal, (∀ x, l ≠ .float x) →
        parse (s.withLiteral l).text.toList = .ok (s.withLiteral l) ∧
          parse ((s.withLiteral l).text ++ ";").toList = .ok (s.withLiteral l) := by
  have hplain := isPlain_of_readStatement h
  constructor
  · intro hliteral
    exact Statement.Prints.parse_text ⟨hplain, hwords, hliteral⟩
  · intro l hl
    apply Statement.Prints.parse_text
    refine ⟨hplain.withLiteral l, ?_, ?_⟩
    · rw [Statement.namedColumns_withLiteral]
      exact hwords
    · intro c x hc
      obtain ⟨d, -, rfl⟩ := Option.map_eq_some_iff.mp hc
      exact hl x

/-- Names that look like the beginning of `ORDER BY`, and a string that looks like the rest of a query. -/
def orderStatement : Statement :=
  ⟨.columns ["order", "BY_1"], "ORDER", some ⟨"Order", .ne, .string "' OR 'by'; --"⟩⟩

theorem parse_text_of_readStatement_order :
    (readStatement (orderStatement.tokens ++ [.semicolon, .eof])).1 = .ok orderStatement ∧
      (∀ name ∈ orderStatement.table :: orderStatement.namedColumns, IsWord name) ∧
      parse "SELECT order, BY_1 FROM ORDER WHERE Order != ''' OR ''by''; --'".toList = .ok orderStatement ∧
      parse "SELECT order, BY_1 FROM ORDER WHERE Order != -9223372036854775808;".toList =
        .ok (orderStatement.withLiteral (.integer Int64.minValue)) := by
  have hread : (readStatement (orderStatement.tokens ++ [.semicolon, .eof])).1 = .ok orderStatement := by
    decide +kernel
  have hwords : ∀ name ∈ orderStatement.table :: orderStatement.namedColumns, IsWord name := by
    unfold IsWord
    decide +kernel
  obtain ⟨hself, hother⟩ := parse_text_of_readStatement hread hwords
  have hstring := (hself (by rintro c x ⟨⟩; nofun)).1
  have hinteger := (hother (.integer Int64.minValue) nofun).2
  have htext : orderStatement.text = "SELECT order, BY_1 FROM ORDER WHERE Order != ''' OR ''by''; --'" := by
    decide +kernel
  have htext' : (orderStatement.withLiteral (.integer Int64.minValue)).text ++ ";" =
      "SELECT order, BY_1 FROM ORDER WHERE Order != -9223372036854775808;" := by
    decide +kernel
  rw [htext] at hstring
  rw [htext'] at hinteger
  exact ⟨hread, hwords, hstring, hinteger⟩

end Xbase.Query
