import Xbase.Query.Literal
/-!
# Tokens

The words and marks a query is made of. Words of the larger language that no supported query contains are
tokens of their own, so that a query that uses them can be refused by name.
-/
namespace Xbase.Query

open Number (Binary64)

inductive Keyword where
  | select
  | fromWord
  | whereWord
  | asWord
  | and
  | or
  | not
  | like
  | inWord
  | between
  | is
  | join
  | inner
  | left
  | right
  | full
  | outer
  | cross
  | on
  | group
  | having
  | orderBy
  | byWord
  | limit
  | offset
  | distinct
  | union
  | insert
  | update
  | delete
  | create
  | drop
  | alter
deriving DecidableEq, Repr

namespace Keyword

def text : Keyword → String
  | .select => "SELECT"
  | .fromWord => "FROM"
  | .whereWord => "WHERE"
  | .asWord => "AS"
  | .and => "AND"
  | .or => "OR"
  | .not => "NOT"
  | .like => "LIKE"
  | .inWord => "IN"
  | .between => "BETWEEN"
  | .is => "IS"
  | .join => "JOIN"
  | .inner => "INNER"
  | .left => "LEFT"
  | .right => "RIGHT"
  | .full => "FULL"
  | .outer => "OUTER"
  | .cross => "CROSS"
  | .on => "ON"
  | .group => "GROUP"
  | .having => "HAVING"
  | .orderBy => "ORDER BY"
  | .byWord => "BY"
  | .limit => "LIMIT"
  | .offset => "OFFSET"
  | .distinct => "DISTINCT"
  | .union => "UNION"
  | .insert => "INSERT"
  | .update => "UPDATE"
  | .delete => "DELETE"
  | .create => "CREATE"
  | .drop => "DROP"
  | .alter => "ALTER"

def all : List Keyword :=
  [.select, .fromWord, .whereWord, .asWord, .and, .or, .not, .like, .inWord, .between, .is, .join,
   .inner, .left, .right, .full, .outer, .cross, .on, .group, .having, .orderBy, .byWord, .limit,
   .offset, .distinct, .union, .insert, .update, .delete, .create, .drop, .alter]

end Keyword

inductive Operator where
  | eq
  | ne
  | lt
  | le
  | gt
  | ge
deriving DecidableEq, Repr

namespace Operator

def text : Operator → String
  | .eq => "="
  | .ne => "!="
  | .lt => "<"
  | .le => "<="
  | .gt => ">"
  | .ge => ">="

/-- Whether the operator holds of two values in the given order. -/
def accepts : Operator → Ordering → Bool
  | .eq, o => o == .eq
  | .ne, o => o != .eq
  | .lt, o => o == .lt
  | .le, o => o != .gt
  | .gt, o => o == .gt
  | .ge, o => o != .lt

def isEquality : Operator → Bool
  | .eq => true
  | .ne => true
  | _ => false

end Operator

inductive Token where
  | keyword (k : Keyword)
  | operator (op : Operator)
  | integer (n : Int64)
  | float (x : Binary64)
  | string (s : String)
  | boolean (b : Bool)
  | null
  | identifier (name : String)
  | asterisk
  | comma
  | leftParen
  | rightParen
  | semicolon
  | eof
deriving DecidableEq, Repr

def Token.text : Token → String
  | .keyword k => k.text
  | .operator op => op.text
  | .integer n => integerText n
  | .float x => floatText x
  | .string s => "'" ++ s ++ "'"
  | .boolean b => booleanText b
  | .null => "NULL"
  | .identifier name => name
  | .asterisk => "*"
  | .comma => ","
  | .leftParen => "("
  | .rightParen => ")"
  | .semicolon => ";"
  | .eof => "end of statement"

end Xbase.Query
