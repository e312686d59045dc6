import Xbase.Query.Lexer
import Xbase.Field.Basic
/-!
# Faults of a query

Why a text is no supported query: it breaks the grammar, or it uses a feature of the larger language that
is known by name but not supported.
-/
namespace Xbase.Query

/-- What the grammar expects at a place. -/
inductive Expected where
  | keyword (k : Keyword)
  | columnsOrAsterisk
  | tableName
  | columnName
  | comparisonOperator
  | literal
  | endOfStatement
deriving DecidableEq, Repr

def Expected.text : Expected → String
  | .keyword k => k.text
  | .columnsOrAsterisk => "column name or *"
  | .tableName => "table name"
  | .columnName => "column name"
  | .comparisonOperator => "comparison operator"
  | .literal => "literal value"
  | .endOfStatement => "end of statement"

/-- How a text breaks the grammar. -/
inductive SyntaxFault where
  | lexical (fault : LexFault)
  | unexpected (expected : Expected) (found : Token)
  | mixedAsterisk
deriving DecidableEq, Repr

def SyntaxFault.message : SyntaxFault → String
  | .lexical fault => fault.message
  | .unexpected expected found => "expected " ++ expected.text ++ ", found " ++ found.text
  | .mixedAsterisk => "'*' cannot be mixed with column names"

inductive Feature where
  | statement (k : Keyword)
  | distinct
  | functionCall (name : String)
  | qualifiedColumn
  | columnAlias
  | multipleTables
  | subQuery
  | parenthesizedCondition
  | negation
  | keywordOperator (k : Keyword)
  | columnComparison
  | expression
  | join
  | groupBy
  | clause (k : Keyword)
  | joinedConditions (k : Keyword)
  | typedOperator (op : Operator) (type : FieldType)
deriving DecidableEq, Repr

def Feature.text : Feature → String
  | .statement k => k.text ++ " statement"
  | .distinct => "DISTINCT"
  | .functionCall name => "function call " ++ name ++ "()"
  | .qualifiedColumn => "qualified column reference"
  | .columnAlias => "column alias"
  | .multipleTables => "multiple tables in FROM"
  | .subQuery => "sub-query"
  | .parenthesizedCondition => "parenthesized condition"
  | .negation => "NOT"
  | .keywordOperator k => k.text
  | .columnComparison => "column to column comparison"
  | .expression => "expression"
  | .join => "JOIN"
  | .groupBy => "GROUP BY"
  | .clause k => k.text
  | .joinedConditions k => "multiple conditions joined by " ++ k.text
  | .typedOperator op type => "operator " ++ op.text ++ " on a field of type " ++ type.text

inductive Fault where
  | invalid (fault : SyntaxFault)
  | unsupported (feature : Feature)
deriving DecidableEq, Repr

end Xbase.Query
