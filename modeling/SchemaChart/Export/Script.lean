-- Whole scripts: schemas, types, tables with their indexes and comments, and foreign keys, in the
-- idiom of a dialect or in the forms that most dialects share.
import SchemaChart.Diagram.Align
import SchemaChart.Diagram.Dependency
import SchemaChart.Export.ForeignKey
import SchemaChart.Export.Table

namespace SchemaChart.Export

open Text
open Diagram (CustomType Field Table)

/-! ## Sections -/

/-- The sections that are not blank, with an empty line between them and a line feed at the
end. -/
def joinSections (sections : List String) : String :=
  match sections.filter (fun s => !(trim s.toList).isEmpty) with
  | [] => ""
  | ss => "\n\n".intercalate ss ++ "\n"

/-- Lines of one section. -/
def joinLines (ls : List String) : String := "\n".intercalate ls

/-- The tables that a script creates. -/
def writtenTables (d : Diagram) : List Table := d.tables.filter (!·.isView)

/-! ## Schemas -/

/-- The schemas that are named, in order. -/
def schemaNames (schemas : List (Option String)) : List String :=
  sorted ((schemas.filterMap id).filter (!·.isEmpty))

def tableSchemas (d : Diagram) : List String := schemaNames ((writtenTables d).map (·.schema))

def typeSchemas (d : Diagram) : List String := schemaNames (d.types.map (·.schema))

/-- The statement that creates a schema. It is a database in the MySQL family; SQLite has no
schemas, and in SQL Server `dbo` is there. -/
def createSchema? (q : Quoting) (schema : String) : Option String :=
  match q.dialect with
  | .sqlite => none
  | .mysql | .mariadb => some ("CREATE DATABASE IF NOT EXISTS " ++ q.ident schema ++ ";")
  | .sqlServer =>
    if sameName schema "dbo" then none
    else
      some ("IF NOT EXISTS (SELECT * FROM sys.schemas WHERE name = N" ++ quoteLiteral schema
        ++ ")\n    EXEC('CREATE SCHEMA "
        ++ String.ofList (double '\'' (q.ident schema).toList) ++ "');")
  | _ => some ("CREATE SCHEMA IF NOT EXISTS " ++ q.ident schema ++ ";")

def schemaSection (q : Quoting) (schemas : List String) : String :=
  joinLines ((sorted schemas).filterMap (createSchema? q))

/-! ## Types -/

/-- The statement that creates a type. -/
def createType (q : Quoting) (t : CustomType) : String :=
  let content := match t.kind with
    | .enum => "ENUM (" ++ literals ", " (t.values.getD []) ++ ")"
    | .composite =>
      let fields := (t.fields.getD []).map (fun f => q.ident f.field ++ " " ++ f.type)
      "(" ++ ", ".intercalate fields ++ ")"
  "CREATE TYPE " ++ q.qualified t.schema t.name ++ " AS " ++ content ++ ";"

def typeSection (q : Quoting) (d : Diagram) : String := joinLines (d.types.map (createType q))

/-! ## Comments -/

/-- A comment that is not empty. -/
def comment? (comments : Option String) : Option String := comments.filter (!·.isEmpty)

/-- The comments of a table and of its fields: what `ofTable` and `ofField` make of them. -/
def commentLines (t : Table) (ofTable : String → String) (ofField : Field → String → String) :
    List String :=
  ((comment? t.comments).map ofTable).toList
    ++ t.fields.filterMap (fun f => (comment? f.comments).map (ofField f))

/-- Comments as statements of PostgreSQL. -/
def commentStatements (q : Quoting) (t : Table) : List String :=
  commentLines t
    (fun c => "COMMENT ON TABLE " ++ q.table t ++ " IS " ++ quoteLiteral c ++ ";")
    (fun f c => "COMMENT ON COLUMN " ++ q.table t ++ "." ++ q.ident f.name
      ++ " IS " ++ quoteLiteral c
      ++ ";")

/-- Comments as properties of SQL Server. -/
def commentProperties (t : Table) : List String :=
  let national (s : String) := "N" ++ quoteLiteral s
  let schema := match t.schema with
    | some s => if s.isEmpty then "dbo" else s
    | none => "dbo"
  let place := "@level0type = N'SCHEMA', @level0name = " ++ national schema
    ++ ", @level1type = N'TABLE', @level1name = " ++ national t.name
  let property (c more : String) :=
    "EXEC sp_addextendedproperty @name = N'MS_Description', @value = " ++ national c ++ ", "
      ++ place
      ++ more ++ ";"
  commentLines t (property · "")
    (fun f c => property c (", @level2type = N'COLUMN', @level2name = " ++ national f.name))

/-- Comments as remarks in a script. -/
def commentRemarks (t : Table) : List String :=
  let oneLine (s : String) := String.ofList (s.toList.map (fun c => if c == '\n' then ' ' else c))
  commentLines t (fun c => "-- " ++ t.name ++ ": " ++ oneLine c)
    (fun f c => "-- " ++ t.name ++ "." ++ f.name ++ ": " ++ oneLine c)

/-! ## Sequences -/

/-- A call that takes the next value of a sequence. -/
def sequenceCall : Pattern :=
  open Pattern in
  phrase "nextval" ++ gap ++ lit "(" ++ gap ++ lit "'" ++ group "name" (some1 (· != '\''))
    ++ lit "'"

/-- The sequence that a default names. -/
def sequenceOf? (f : Field) : Option String := do
  let m ← sequenceCall.find? (← f.default).toList
  return String.ofList (m.group "name")

/-- The sequences that defaults name, in order. -/
def sequences (d : Diagram) : List String :=
  sorted ((writtenTables d).flatMap (·.fields.filterMap sequenceOf?))

/-! ## Idioms -/

/-- What a script holds. -/
inductive Scope where
  | everything
  /-- The foreign keys alone. -/
  | keysOnly
deriving Repr, DecidableEq

/-- The foreign keys as remarks, for a dialect that cannot add them to a table that is there. -/
def remarkedKeys (q : Quoting) (d : Diagram) : String :=
  match foreignKeys d with
  | [] => ""
  | ks =>
    joinSections [joinLines ("-- SQLite cannot add foreign keys to existing tables"
      :: ks.map (fun k => "-- " ++ k.statement q))]

/-- Tables in the order of their dependencies, with their foreign keys inside. -/
def tablesWithKeys (s : Style) (d : Diagram) (allowInline : Bool) (remarks : Table → List String) :
    List String :=
  let ks := foreignKeys d
  (d.dependencyOrder.filter (!·.isView)).map (fun t =>
    let keys := (ks.filter (·.holder.id == t.id)).map (fun k => k.clause s.quoting false)
    joinLines (remarks t ++ [s.createTable t (s.tableLines t allowInline ++ keys) ++ ";"]
      ++ s.tableIndexes t))

/-- A table with its indexes, and what else belongs to it. -/
def tableSection (s : Style) (t : Table) (allowInline : Bool) (more : List String) : String :=
  joinLines ([s.createTable t (s.tableLines t allowInline) ++ ";"] ++ s.tableIndexes t ++ more)

def postgresqlSections (s : Style) (d : Diagram) : List String :=
  let q := s.quoting
  [ schemaSection q (tableSchemas d ++ typeSchemas d),
    typeSection q d,
    joinLines ((sequences d).map (fun n => "CREATE SEQUENCE IF NOT EXISTS " ++ n ++ ";")) ]
    ++ (writtenTables d).map (fun t => tableSection s t true [])
    ++ [ joinLines ((writtenTables d).flatMap (commentStatements q)), keyBlock q d ]

/-- Lines of fields with their comments behind them; lines beyond the fields stay. -/
def withComments : List String → List Field → List String
  | l :: ls, f :: fs =>
    let comment := (comment? f.comments).elim "" (fun c => " COMMENT " ++ quoteLiteral c)
    (l ++ comment) :: withComments ls fs
  | ls, _ => ls

/-- A table of the MySQL family, with its indexes. -/
def mysqlTable (s : Style) (t : Table) : String :=
  let body := s.createTable t (withComments (s.tableLines t true) t.fields)
  let comment := (comment? t.comments).elim "" (fun c => " COMMENT=" ++ quoteLiteral c)
  joinLines ([body ++ " ENGINE=InnoDB" ++ comment ++ ";"] ++ s.tableIndexes t)

def mysqlSections (s : Style) (d : Diagram) : List String :=
  [schemaSection s.quoting (tableSchemas d)] ++ (writtenTables d).map (mysqlTable s)
    ++ [keyBlock s.quoting d]

def sqlServerSections (s : Style) (d : Diagram) : List String :=
  [schemaSection s.quoting (tableSchemas d)]
    ++ (writtenTables d).map (fun t => tableSection s t true (commentProperties t))
    ++ [keyBlock s.quoting d]

/-- The script of a diagram in the idiom of a dialect, if it has one. -/
def native? (target : Dialect) (d : Diagram) (scope : Scope) : Option String :=
  let s := Style.ofDialect target d
  let keys := match target with
    | .sqlite => remarkedKeys s.quoting d
    | _ => joinSections [keyBlock s.quoting d]
  let script (sections : List String) : String :=
    if d.tables.isEmpty then ""
    else match scope with
      | .everything => joinSections sections
      | .keysOnly => keys
  match target with
  | .postgresql => some (script (postgresqlSections s d))
  | .mysql | .mariadb => some (script (mysqlSections s d))
  | .sqlServer => some (script (sqlServerSections s d))
  | .sqlite => some (script (tablesWithKeys s d true commentRemarks))
  | _ => none

/-! ## Forms that most dialects share -/

/-- Has a target types that scripts declare. -/
def declaresTypes : Dialect → Bool
  | .postgresql | .generic => true
  | _ => false

/-- The script of a diagram in the forms that most dialects share. -/
def portable (q : Quoting) (d : Diagram) (scope : Scope) : String :=
  let s := Style.portable q d
  if d.tables.isEmpty then ""
  else match scope, q.dialect with
    | .keysOnly, .sqlite => remarkedKeys q d
    | .keysOnly, _ => joinSections [keyBlock q d]
    | .everything, target =>
      let types := declaresTypes target
      let head :=
        [ schemaSection q (tableSchemas d ++ if types then typeSchemas d else []),
          if types then typeSection q d else "" ]
      let tables := match target with
        | .sqlite => tablesWithKeys s d false (fun _ => [])
        | _ => (writtenTables d).map (fun t => tableSection s t false []) ++ [keyBlock q d]
      joinSections (head ++ tables)

/-! ## Any target -/

/-- What is asked for. -/
structure Request where
  target : Dialect
  /-- For readers that want every identifier in quotes. -/
  quoteAll : Bool := false
  scope : Scope := .everything
deriving Repr, DecidableEq

/-- The script of a diagram: in the idiom of its dialect if that is the target, and otherwise with
aligned types in the forms that most dialects share. -/
def write (d : Diagram) (r : Request) : String :=
  let idiom := if !r.quoteAll && d.dialect == r.target then native? r.target d r.scope else none
  idiom.getD (portable ⟨r.target, r.quoteAll⟩ d.aligned r.scope)

end SchemaChart.Export
