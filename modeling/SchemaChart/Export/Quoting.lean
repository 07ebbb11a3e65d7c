-- Identifiers in scripts: how each dialect quotes them, and which of them need quotes.
import SchemaChart.Diagram.Basic
import SchemaChart.Text.Identifier

namespace SchemaChart.Export

open Text

/-- The opening and the closing quote of identifiers. -/
def identifierQuotes : Dialect → Char × Char
  | .mysql | .mariadb => ('`', '`')
  | .sqlServer => ('[', ']')
  | _ => ('"', '"')

/-- An identifier in quotes; a closing quote in it is doubled. -/
def quoteIdentifier (d : Dialect) (s : String) : String :=
  let (opening, closing) := identifierQuotes d
  String.ofList (opening :: double closing s.toList ++ [closing])

/-- Words that no dialect takes as an identifier without quotes. -/
def reservedWords : List String :=
  ["all", "alter", "and", "any", "as", "asc", "between", "by", "case", "check", "column",
    "constraint", "create", "cross", "current_date", "current_time", "current_timestamp",
    "default", "delete", "desc", "distinct", "drop", "else", "end", "exists", "foreign", "from",
    "full", "grant", "group", "having", "in", "index", "inner", "insert", "into", "is", "join",
    "key", "left", "like", "limit", "not", "null", "offset", "on", "or", "order", "outer",
    "primary", "references", "right", "select", "set", "table", "then", "to", "union", "unique",
    "update", "user", "using", "values", "when", "where", "with"]

/-- May a character start an identifier without quotes. -/
def startsBare (c : Char) : Bool := c.isLower || c == '_'

/-- Is a text a word of lower case letters, digits and underscores that does not start with a
digit. -/
def isBareWord (s : String) : Bool :=
  match s.toList with
  | [] => false
  | c :: cs => startsBare c && cs.all (fun c => startsBare c || c.isDigit)

/-- Would an identifier change or be refused without quotes. -/
def needsQuotes (s : String) : Bool := !isBareWord s || reservedWords.contains s

/-- How a script quotes: in which dialect, and all identifiers or only those that need it. -/
structure Quoting where
  dialect : Dialect
  always : Bool := true
deriving Repr, DecidableEq, Inhabited

namespace Quoting

def ident (q : Quoting) (s : String) : String :=
  if q.always || needsQuotes s then quoteIdentifier q.dialect s else s

/-- A name with its schema before it, if there is one. -/
def qualified (q : Quoting) (schema : Option String) (name : String) : String :=
  match schema with
  | some s => if s.isEmpty then q.ident name else q.ident s ++ "." ++ q.ident name
  | none => q.ident name

def table (q : Quoting) (t : Diagram.Table) : String := q.qualified t.schema t.name

/-- Columns between commas, all of them in quotes. -/
def columns (q : Quoting) (names : List String) : String :=
  ", ".intercalate (names.map (quoteIdentifier q.dialect))

end Quoting

end SchemaChart.Export
