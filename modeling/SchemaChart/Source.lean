-- The dialects that scripts are read in: their grammar, their identifier quotes, what is taken
-- out of a statement before it is read, and what a column's type and default imply.
import SchemaChart.Grammar.Token
import SchemaChart.Schema.Builder

namespace SchemaChart

open Text

/-- A dialect that scripts are read in. -/
inductive Source where
  | postgresql
  | mysql
  | mariadb
  | sqlServer
  | sqlite
deriving Repr, DecidableEq, Inhabited

namespace Source

def dialect : Source → Dialect
  | postgresql => .postgresql
  | mysql => .mysql
  | mariadb => .mariadb
  | sqlServer => .sqlServer
  | sqlite => .sqlite

/-- The source for a dialect; scripts of the other dialects cannot be read. -/
def ofDialect? : Dialect → Option Source
  | .postgresql => some postgresql
  | .mysql => some mysql
  | .mariadb => some mariadb
  | .sqlServer => some sqlServer
  | .sqlite => some sqlite
  | _ => none

/-- The flavor of the strict grammar. -/
def flavor : Source → Grammar.Flavor
  | postgresql => .postgres
  | mysql | mariadb => .mysql
  | sqlServer => .sqlServer
  | sqlite => .sqlite

/-! ## Identifiers -/

/-- The quotes that an identifier may stand in. -/
def quotePairs : Source → List (Char × Char)
  | postgresql => [('"', '"')]
  | mysql | mariadb => [('`', '`'), ('"', '"')]
  | sqlServer => [('[', ']'), ('"', '"')]
  | sqlite => [('"', '"'), ('`', '`'), ('[', ']')]

/-- Strips one level of the quotes of the dialect. -/
def unquote (s : Source) (cs : List Char) : List Char :=
  let cs := trim cs
  (s.quotePairs.findSome? (fun (l, r) => unquoteWith? l r cs)).getD cs

/-! ## Clauses that are taken out -/

section Clauses

open Pattern

/-- Where PostgreSQL puts a table, and whether its rows have identifiers. -/
def storageClause : Pattern :=
  (blanks ++ opt (phrase "USING INDEX ") ++ phrase "TABLESPACE " ++ some1 (!isBlank ·))
    <|> (phrase " WITH" ++ gap ++ lit "(" ++ gap ++ phrase "OIDS" ++ gap ++ lit "=" ++ gap
      ++ some1 isWordChar ++ gap ++ lit ")")
    <|> (phrase " WITH" ++ opt (phrase "OUT") ++ phrase " OIDS" ++ edge)

/-- A comment that holds a statement for MySQL. -/
def versionedComment : Pattern :=
  lit "/*!" ++ run true isDecimal ++ gap ++ group "body" (run false (fun _ => true)) ++ lit "*/"

/-- Settings of an index in SQL Server. -/
def indexSettings : Pattern :=
  phrase " WITH" ++ gap ++ lit "(" ++ gap
    ++ oneOf ["PAD_INDEX", "STATISTICS_NORECOMPUTE", "IGNORE_DUP_KEY", "ALLOW_ROW_LOCKS",
      "ALLOW_PAGE_LOCKS", "OPTIMIZE_FOR_SEQUENTIAL_KEY", "FILLFACTOR", "DATA_COMPRESSION"]
    ++ run true (· != ')') ++ lit ")"

/-- The file group of a table in SQL Server. -/
def fileGroup : Pattern :=
  blanks ++ oneOf ["TEXTIMAGE_ON", "ON"] ++ blanks ++ opt (lit "[") ++ phrase "PRIMARY"
    ++ opt (lit "]")

/-- How SQL Server stores and copies a key. -/
def clustering : Pattern :=
  (blanks ++ opt (phrase "NON") ++ phrase "CLUSTERED" ++ edge)
    <|> (phrase " NOT FOR REPLICATION" ++ edge)

/-- Options of a table in SQLite, with the parenthesis before them. -/
def tableSettings : Pattern :=
  let word := oneOf ["WITHOUT ROWID", "STRICT"]
  lit ")" ++ gap ++ word ++ many (gap ++ lit "," ++ gap ++ word) ++ gap ++ textEnd

end Clauses

/-- Every backslash before a quote becomes a quote. -/
def doubleEscapedQuotes : List Char → List Char
  | [] => []
  | [c] => [c]
  | c :: d :: cs =>
    if c == '\\' && d == '\'' then '\'' :: '\'' :: doubleEscapedQuotes cs
    else c :: doubleEscapedQuotes (d :: cs)

/-- A statement without the clauses that no reader needs. -/
def prepare (s : Source) (cs : List Char) : List Char :=
  let without (p : Pattern) (cs : List Char) := p.replaceAll (fun _ => []) cs
  match s with
  | postgresql => without storageClause cs
  | mysql | mariadb => doubleEscapedQuotes (versionedComment.replaceAll (·.group "body") cs)
  | sqlServer => without clustering (without fileGroup (without indexSettings cs))
  | sqlite => tableSettings.replaceFirst (fun _ => [')']) (trimEnd cs)

/-! ## Columns -/

/-- A column with what its type and its default imply: a serial type increments, the default
`NULL` is none, a sequence increments, and a primary key is not null. -/
def settle (c : Schema.Column) : Schema.Column :=
  let parts := Schema.parseType c.type.toList
  let serial := Schema.isSerial parts.base
  let default := c.default.filter
    (fun d => !eqIgnoringCase (trim d.toList) "NULL".toList)
  { c with
    default := default
    increment := c.increment || serial || default.any Schema.isSequenceDefault
    nullable := c.nullable && !serial && !c.primaryKey
    typeArgs := if parts.args.isEmpty then none else some parts.args }

end Source

end SchemaChart
