-- The SQL dialects, with their names and the schema a table has when none is written.
import SchemaChart.Text.Blank
import SchemaChart.Text.LetterCase

namespace SchemaChart

/-- A SQL dialect. `generic` leaves the choice open. -/
inductive Dialect where
  | generic
  | postgresql
  | mysql
  | sqlServer
  | mariadb
  | sqlite
  | clickhouse
  | cockroachdb
  | oracle
deriving Repr, DecidableEq, Inhabited

namespace Dialect

def all : List Dialect :=
  [generic, postgresql, mysql, sqlServer, mariadb, sqlite, clickhouse, cockroachdb, oracle]

/-- The name in stored diagrams and in messages. -/
def name : Dialect → String
  | generic => "generic"
  | postgresql => "postgresql"
  | mysql => "mysql"
  | sqlServer => "sql_server"
  | mariadb => "mariadb"
  | sqlite => "sqlite"
  | clickhouse => "clickhouse"
  | cockroachdb => "cockroachdb"
  | oracle => "oracle"

/-- The name for readers. -/
def displayName : Dialect → String
  | generic => "Generic SQL"
  | postgresql => "PostgreSQL"
  | mysql => "MySQL"
  | sqlServer => "SQL Server"
  | mariadb => "MariaDB"
  | sqlite => "SQLite"
  | clickhouse => "ClickHouse"
  | cockroachdb => "CockroachDB"
  | oracle => "Oracle"

/-- The schema of a table that names none. -/
def defaultSchema? : Dialect → Option String
  | postgresql | cockroachdb => some "public"
  | sqlServer => some "dbo"
  | _ => none

/-- MySQL and MariaDB write and read the same. -/
def isMysqlFamily : Dialect → Bool
  | mysql | mariadb => true
  | _ => false

/-- The dialect with a stored name. -/
def ofName? (s : String) : Option Dialect := all.find? (·.name == s)

/-- Other spellings under which a dialect is asked for. -/
def aliases : List (String × Dialect) :=
  [("", generic), ("postgres", postgresql), ("pg", postgresql), ("sqlserver", sqlServer),
    ("mssql", sqlServer)]

/-- The dialect that a user asks for, in any case and with blanks around; or the reason why
there is none. -/
def ask (s : String) : Except String Dialect :=
  let wanted := String.ofList (Text.lower (Text.trim s.toList))
  match ofName? wanted <|> aliases.lookup wanted with
  | some d => .ok d
  | none => .error ("Unknown database type: " ++ wanted)

end Dialect

end SchemaChart
