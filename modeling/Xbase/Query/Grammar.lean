import Xbase.Query.Fault
import Xbase.Query.Statement
/-!
# The grammar

Reading a statement off a source of tokens: a list, from which tokens are taken off at the front, or whatever else
has a token at the front and one behind it. When reading fails, the source is left at the token of the fault, and
reading can start again there.

A feature that is not supported is named as soon as it can be told from the tokens, before what the grammar
expects in its place.
-/
namespace Xbase.Query

/-- Something that tokens are read from, with the failures of reading: `peek` looks at the token behind the current
one, `advance` goes on to it, and `left` is how many tokens there are at most. -/
class TokenSource (σ : Type) (ε : outParam Type) where
  current : EStateM ε σ Token
  peek : EStateM ε σ Token
  advance : EStateM ε σ Unit
  left : EStateM ε σ Nat
  fail : Fault → ε

abbrev TokenReader := EStateM Fault (List Token)

namespace Grammar

export TokenSource (current peek advance left)

/-- The first token, which is the end if there is none. -/
def head (tokens : List Token) : Token := tokens.headD .eof

instance : TokenSource (List Token) Fault where
  current tokens := .ok (head tokens) tokens
  peek tokens := .ok (head tokens.tail) tokens
  advance tokens := .ok () tokens.tail
  left tokens := .ok tokens.length tokens
  fail := id

variable {σ ε : Type} [TokenSource σ ε]

def fault {α : Type} (fault : Fault) : EStateM ε σ α := throw (TokenSource.fail σ fault)

def unexpected {α : Type} (expected : Expected) (found : Token) : EStateM ε σ α :=
  fault (.invalid (.unexpected expected found))

def unsupported {α : Type} (feature : Feature) : EStateM ε σ α := fault (.unsupported feature)

def expectKeyword (k : Keyword) : EStateM ε σ Unit := do
  let token ← current
  if token = .keyword k then advance else unexpected (.keyword k) token

/-- Whether a name has a table in front of the column. -/
def isQualified (name : String) : Bool := name.toList.contains '.'

def rejectOtherStatement : EStateM ε σ Unit := do
  match ← current with
  | .keyword k =>
    if k ∈ [Keyword.insert, .update, .delete, .create, .drop, .alter] then unsupported (.statement k)
  | _ => pure ()

/-- The feature that the name of a column and the token after it make up, if they are more than a plain
name. -/
def columnFeature? (name : String) (next : Token) : Option Feature :=
  if next = .leftParen then some (.functionCall name)
  else if isQualified name then some .qualifiedColumn
  else if next = .keyword .asWord then some .columnAlias
  else none

/-- Reads names of columns with commas between them, in no more than the given number of rounds. -/
def columnNames : Nat → EStateM ε σ (List String)
  | 0 => do unexpected .columnsOrAsterisk (← current)
  | rounds + 1 => do
    match ← current with
    | .identifier name => do
      advance
      let next ← current
      match columnFeature? name next with
      | some feature => unsupported feature
      | none =>
        if next = .comma then do
          advance
          return name :: (← columnNames rounds)
        else return [name]
    | .asterisk => fault (.invalid .mixedAsterisk)
    | token => unexpected .columnsOrAsterisk token

def selectList : EStateM ε σ SelectList := do
  match ← current with
  | .keyword .distinct => unsupported .distinct
  | .asterisk => do
    advance
    return .all
  | _ => return .columns (← columnNames (← left))

def table : EStateM ε σ String := do
  match ← current with
  | .identifier name => do
    advance
    if (← current) = .comma then unsupported .multipleTables
    return name
  | .leftParen => unsupported .subQuery
  | token => unexpected .tableName token

def comparisonColumn : EStateM ε σ String := do
  match ← current with
  | .identifier name => do
    advance
    if (← current) = .leftParen then
      if (← peek) = .keyword .select then unsupported .subQuery
      else unsupported (.functionCall name)
    if isQualified name then unsupported .qualifiedColumn
    return name
  | .keyword .not => unsupported .negation
  | .leftParen => do
    if (← peek) = .keyword .select then unsupported .subQuery
    else unsupported .parenthesizedCondition
  | token => unexpected .columnName token

def comparisonOperator : EStateM ε σ Operator := do
  match ← current with
  | .operator op => do
    advance
    return op
  | .keyword k =>
    if k ∈ [Keyword.like, .inWord, .between, .is, .not] then unsupported (.keywordOperator k)
    else unexpected .comparisonOperator (.keyword k)
  | token => unexpected .comparisonOperator token

def literalOf? : Token → Option Literal
  | .integer n => some (.integer n)
  | .float x => some (.float x)
  | .string s => some (.string s)
  | .boolean b => some (.boolean b)
  | .null => some .null
  | _ => none

def literal : EStateM ε σ Literal := do
  let token ← current
  match literalOf? token, token with
  | some literal, _ => do
    advance
    return literal
  | none, .identifier _ => unsupported .columnComparison
  | none, .leftParen => do
    if (← peek) = .keyword .select then unsupported .subQuery else unsupported .expression
  | none, _ => unexpected .literal token

def comparison : EStateM ε σ Comparison := do
  let column ← comparisonColumn
  let operator ← comparisonOperator
  return ⟨column, operator, ← literal⟩

def condition : EStateM ε σ (Option Comparison) := do
  if (← current) = .keyword .whereWord then do
    advance
    let comparison ← comparison
    match ← current with
    | .keyword .and => unsupported (.joinedConditions .and)
    | .keyword .or => unsupported (.joinedConditions .or)
    | _ => return some comparison
  else return none

/-- The feature that a keyword after a complete query belongs to. -/
def clauseFeature? (k : Keyword) : Option Feature :=
  if k ∈ [Keyword.join, .inner, .left, .right, .full, .outer, .cross] then some .join
  else if k = .group then some .groupBy
  else if k ∈ [Keyword.having, .orderBy, .limit, .offset, .union] then some (.clause k)
  else if k ∈ [Keyword.and, .or] then some (.joinedConditions k)
  else none

/-- The feature that a token after a complete query belongs to. -/
def followerFeature? : Token → Option Feature
  | .keyword k => clauseFeature? k
  | _ => none

/-- Reads the end of a statement, with a semicolon before it or without. -/
def statementEnd : EStateM ε σ Unit := do
  if (← current) = .semicolon then advance
  let token ← current
  if token = .eof then pure ()
  else match followerFeature? token with
    | some feature => unsupported feature
    | none => unexpected .endOfStatement token

def statement : EStateM ε σ Statement := do
  rejectOtherStatement
  expectKeyword .select
  let columns ← selectList
  expectKeyword .fromWord
  let table ← table
  let condition ← condition
  statementEnd
  return ⟨columns, table, condition⟩

end Grammar

/-- Reads one statement off a list of tokens: the statement or the fault, and the tokens that remain. -/
def readStatement (tokens : List Token) : Except Fault Statement × List Token :=
  match Grammar.statement tokens with
  | .ok statement rest => (.ok statement, rest)
  | .error fault rest => (.error fault, rest)

def parse (sql : List Char) : Except Fault Statement :=
  match tokenize sql with
  | .ok tokens => (readStatement tokens).1
  | .error fault => .error (.invalid (.lexical fault))

end Xbase.Query
