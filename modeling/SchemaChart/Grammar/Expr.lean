-- What the rules of the strict grammar share: an expression and a query as they are printed back,
-- the readers for nested parts, and how tightly operators bind.
import SchemaChart.Grammar.Reader

namespace SchemaChart.Grammar

open Reader

/-- What an expression is, as far as the rules around it ask. -/
inductive ExprKind where
  | name
  | dotted
  /-- A star, perhaps with a name before it. -/
  | star
  /-- A name with the mark of an outer join behind it. -/
  | outer
  /-- A query in parentheses. -/
  | query
  /-- A name and the value it is equal to. -/
  | equation (name value : String)
  | other
deriving Repr, DecidableEq

/-- An expression as it is printed back. -/
structure Expr where
  text : String
  kind : ExprKind := .other
deriving Repr, DecidableEq

/-- The readers for nested parts: an expression that binds more tightly than the given rank, a
query, a column of a table type, and a statement inside a statement. -/
structure Nested where
  expr : Nat → Reader Expr
  query : Reader String
  column : Reader String
  statement : Reader Unit

/-- Any expression. -/
def Nested.any (r : Nested) : Reader Expr := r.expr 0

/-- The text of any expression. -/
def Nested.anyText (r : Nested) : Reader String := Expr.text <$> r.any

/-- Expressions with commas between them, as text. -/
def Nested.list (r : Nested) : Reader String := do
  return ", ".intercalate (← commaList r.anyText)

/-! ## Ranks of operators -/

/-- The places in the order of binding. -/
inductive Rank where
  | period | doubleColon | atZone | times | plus | xor | ampersand | caret | pipe | colon
  | between | eq | like | is | other | unaryNot | and | or
deriving Repr, DecidableEq

/-- How tightly a rank binds. -/
def Flavor.rank (f : Flavor) (r : Rank) : Nat :=
  match f, r with
  | .postgres, .period => 200
  | .postgres, .doubleColon => 140
  | .postgres, .atZone => 110
  | .postgres, .caret => 100
  | .postgres, .times => 90
  | .postgres, .plus => 80
  | .postgres, .xor => 75
  | .postgres, .ampersand => 70
  | .postgres, .pipe => 70
  | .postgres, .colon => 70
  | .postgres, .other => 70
  | .postgres, .between => 60
  | .postgres, .like => 60
  | .postgres, .eq => 50
  | .postgres, .is => 40
  | .postgres, .unaryNot => 30
  | .postgres, .and => 20
  | .postgres, .or => 10
  | _, .period => 100
  | _, .doubleColon => 50
  | _, .atZone => 41
  | _, .times => 40
  | _, .plus => 30
  | _, .xor => 24
  | _, .ampersand => 23
  | _, .caret => 22
  | _, .pipe => 21
  | _, .colon => 21
  | _, .between => 20
  | _, .eq => 20
  | _, .like => 19
  | _, .is => 17
  | _, .other => 16
  | _, .unaryNot => 15
  | _, .and => 10
  | _, .or => 5

/-- How tightly the word ahead binds as an operator; zero if it is none. -/
def wordRank (k : String) : Reader Nat := do
  let f ← flavor
  let column := (← context) == .column
  match k with
  | "OR" => return f.rank .or
  | "AND" => return f.rank .and
  | "XOR" => return f.rank .xor
  | "AT" =>
    if (← peekNth 1).token.isKey "TIME" && (← peekNth 2).token.isKey "ZONE" then
      return f.rank .atZone
    else return 0
  | "NOT" =>
    let t := (← peekNth 1).token
    if t.isKey "IN" || t.isKey "BETWEEN" then return f.rank .between
    else if ["LIKE", "ILIKE", "RLIKE", "REGEXP", "MATCH", "SIMILAR", "MEMBER"].any t.isKey then
      return f.rank .like
    else if t.isKey "NULL" && !column then return f.rank .is
    else return 0
  | "NOTNULL" => return if f == .postgres || f == .sqlite then f.rank .is else 0
  | "IS" => return f.rank .is
  | "IN" | "BETWEEN" | "OVERLAPS" | "OPERATOR" => return f.rank .between
  | "LIKE" | "ILIKE" | "RLIKE" | "REGEXP" | "MATCH" | "SIMILAR" | "MEMBER" => return f.rank .like
  | "DIV" => return f.rank .times
  | "COLLATE" => return if f == .postgres && !column then 120 else 0
  | _ => return 0

/-- How tightly the mark ahead binds as an operator; zero if it is none. -/
def markRank (f : Flavor) (s : String) : Nat :=
  if f == .postgres && ["->", "->>", "#>", "#>>", "@>", "<@", "#-", "@?", "@@", "?", "?&", "?|",
      "!", "&&", "^@", "||", "#", ">>", "<<"].contains s then 70
  else if f == .postgres && s == "[" then 130
  else if (f == .postgres || f == .sqlServer) && s == ":" then 0
  else if [":=", "=", "<", "<=", "<>", ">", ">=", "==", "~", "~*", "!~", "!~*", "~~", "~~*",
      "!~~", "!~~*", "<=>"].contains s then f.rank .eq
  else if ["|", "@", "?-", "##", "&<", "&>", "<->", "&<|", "|&>", "<^", ">^", "?#", "?-|", "?||",
      "~=", "<<|", "|>>"].contains s then f.rank .pipe
  else if ["^", "#", ">>", "<<"].contains s then f.rank .caret
  else if s == "&" then f.rank .ampersand
  else if ["+", "-"].contains s then f.rank .plus
  else if ["*", "/", "%", "||"].contains s then f.rank .times
  else if ["::", "!", "[", "&&", "^@"].contains s then f.rank .doubleColon
  else if s == ":" then f.rank .colon
  else if s == "." then f.rank .period
  else if ["->", "->>", "#>", "#>>", "@>", "<@", "#-", "@?", "@@", "?", "?&", "?|"].contains s then
    f.rank .other
  else if f == .postgres && isCustom s then 70
  else 0
where
  isCustom (s : String) : Bool :=
    ["(", ")", ",", "=>", ";", "\\", "]", "\x7b", "\x7d", "!!", "|/", "||/",
      "@-@"].all (· != s)

/-- How tightly what stands ahead binds as an operator; zero if it is none. -/
def nextRank : Reader Nat := do
  match (← peek).token with
  | .word _ _ k => wordRank k
  | .mark s => return markRank (← flavor) s
  | _ => return 0

end SchemaChart.Grammar
