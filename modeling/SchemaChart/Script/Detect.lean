-- Which dialect a script is written in, by the marks it carries.
import SchemaChart.Dialect
import SchemaChart.Text.Pattern

namespace SchemaChart.Script

open Text

/-! ## Dumps -/

/-- Is the script a dump of a PostgreSQL database: it carries the banner, or two of the other
marks. -/
def isPostgresDump (cs : List Char) : Bool :=
  let marks := ["SET statement_timeout", "ALTER TABLE ONLY", "SELECT pg_catalog."]
  holds cs "PostgreSQL database dump" || (marks.filter (holds cs ·)).length ≥ 2

/-- Is the script a dump of a MySQL or MariaDB database. -/
def isMysqlDump (cs : List Char) : Bool :=
  holds cs "MySQL dump" || holds cs "MariaDB dump" || holds cs "/*!40101"

/-! ## Marks of the dialects -/

section Marks

open Pattern

/-- Does one of several patterns match somewhere. -/
def anyOccurs (ps : List Pattern) (cs : List Char) : Bool := ps.any (·.occursIn cs)

/-- Key words that stand alone. -/
def word (s : String) : Pattern := edge ++ phrase s ++ edge

/-- A word of one or more word characters. -/
def someWord : Pattern := some1 isWordChar

def sqlServerMarks : List Pattern :=
  let digits := some1 isDecimal
  [lit "[" ++ someWord ++ lit "]" ++ gap ++ lit "." ++ gap ++ lit "[" ++ someWord ++ lit "]",
    lineStart ++ gap ++ phrase "GO" ++ gap ++ lineEnd,
    word "SET ANSI_NULLS", word "SET QUOTED_IDENTIFIER",
    edge ++ phrase "IDENTITY" ++ gap ++ lit "(" ++ gap ++ digits ++ gap ++ lit "," ++ gap ++ digits
      ++ gap ++ lit ")",
    edge ++ phrase "NVARCHAR" ++ gap ++ lit "(" ++ gap ++ phrase "MAX" ++ gap ++ lit ")",
    word "UNIQUEIDENTIFIER", word "sp_addextendedproperty"]

def mysqlMarks : List Pattern :=
  [lit "`" ++ someWord ++ lit "`",
    edge ++ phrase "ENGINE" ++ gap ++ lit "=", word "AUTO_INCREMENT", word "DEFAULT CHARSET",
    word "UNSIGNED"]

def postgresMarks : List Pattern :=
  [edge ++ opt (oneOf ["BIG", "SMALL"]) ++ phrase "SERIAL" ++ edge, word "CREATE EXTENSION",
    lit "::" ++ gap ++ one isWordChar, word "ALTER TABLE ONLY", word "JSONB",
    edge ++ phrase "nextval" ++ gap ++ lit "(",
    edge ++ phrase "CREATE TYPE " ++ some1 (!isBlank ·) ++ phrase " AS ENUM" ++ edge,
    word "TIMESTAMPTZ"]

def sqliteMarks : List Pattern :=
  [word "AUTOINCREMENT", word "PRAGMA", word "WITHOUT ROWID", word "sqlite_sequence"]

end Marks

/-- The dialect of a script: the first whose marks it carries, and PostgreSQL if it carries
none. -/
def detect (cs : List Char) : Dialect :=
  if holds cs "MariaDB dump" then .mariadb
  else if holds cs "MySQL dump" then .mysql
  else if isPostgresDump cs then .postgresql
  else if anyOccurs sqlServerMarks cs then .sqlServer
  else if anyOccurs mysqlMarks cs then .mysql
  else if anyOccurs postgresMarks cs then .postgresql
  else if anyOccurs sqliteMarks cs then .sqlite
  else .postgresql

end SchemaChart.Script
