-- Columns in scripts: the type, and what follows it.
import SchemaChart.Export.ColumnType
import SchemaChart.Export.DefaultValue

namespace SchemaChart.Export

open Diagram (CustomType Field)

/-- How a script is written. -/
structure Style where
  quoting : Quoting
  /-- In the idiom of the dialect, and not in the forms that most dialects share. -/
  native : Bool
  types : List CustomType := []
deriving Repr, DecidableEq, Inhabited

namespace Style

/-- The idiom of a dialect; it quotes every identifier. -/
def ofDialect (dialect : Dialect) (d : Diagram) : Style := ⟨⟨dialect, true⟩, true, d.types⟩

/-- The forms that most dialects share. -/
def portable (q : Quoting) (d : Diagram) : Style := ⟨q, false, d.types⟩

def dialect (s : Style) : Dialect := s.quoting.dialect

/-- Is a script written in the idiom of PostgreSQL. -/
def isPostgresql (s : Style) : Bool := s.native && s.dialect == .postgresql

/-- Does a column take its values from a sequence that its default names. -/
def usesSequence (s : Style) (f : Field) : Bool :=
  s.isPostgresql && f.default.any Schema.isSequenceDefault

/-- The serial type that a column is written with. -/
def serial? (s : Style) (f : Field) : Option String :=
  if s.isPostgresql && !s.usesSequence f then serialType? f else none

def columnType (s : Style) (f : Field) : String :=
  (s.serial? f).getD (typeText s.quoting s.types f)

/-- What makes a column count up, where neither its type nor its default does. -/
def increment? (s : Style) (f : Field) (inlineKey : Bool) : Option String :=
  if !f.increments then none
  else match s.dialect with
    | .mysql | .mariadb => some "AUTO_INCREMENT"
    | .sqlServer => some "IDENTITY(1,1)"
    | .sqlite => if inlineKey && s.columnType f == "integer" then some "AUTOINCREMENT" else none
    | _ =>
      if s.isPostgresql && (s.usesSequence f || (serialType? f).isSome) then none
      else some "GENERATED BY DEFAULT AS IDENTITY"

/-- The default of a column; a column that counts up has none but its sequence. -/
def default? (s : Style) (f : Field) : Option String :=
  if f.increments && !s.usesSequence f then none
  else f.default.bind (defaultText? s.dialect f.type.id)

/-- What an update sets a column to; only the MySQL family has it. -/
def onUpdate? (s : Style) (f : Field) : Option String :=
  if s.dialect.isMysqlFamily then f.onUpdate else none

/-- Is a column marked as unique. -/
def marksUnique (f : Field) (inlineKey : Bool) : Bool := !inlineKey && f.unique && !f.primaryKey

/-- The parts of a column, those that it has, in order. -/
def columnParts (s : Style) (f : Field) (inlineKey : Bool) : List String :=
  [ s.quoting.ident f.name, s.columnType f ]
    ++ (if !f.nullable || f.primaryKey then ["NOT NULL"] else [])
    ++ (if inlineKey then ["PRIMARY KEY"] else [])
    ++ (if marksUnique f inlineKey then ["UNIQUE"] else [])
    ++ (s.increment? f inlineKey).toList
    ++ ((s.default? f).map ("DEFAULT " ++ ·)).toList
    ++ ((s.onUpdate? f).map ("ON UPDATE " ++ ·)).toList

/-- A column. -/
def column (s : Style) (f : Field) (inlineKey : Bool) : String :=
  " ".intercalate (s.columnParts f inlineKey)

end Style

end SchemaChart.Export
