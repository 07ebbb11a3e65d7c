-- The types of columns in scripts: the name that a dialect has for a catalog type, with length or
-- precision, and what it has in place of custom types and arrays.
import SchemaChart.Export.Quoting

namespace SchemaChart.Export

open Text
open Diagram (CustomType Field)

/-! ## Names -/

/-- What a dialect has for a catalog type. -/
inductive TargetType where
  /-- A whole type, whatever the size of the field. -/
  | fixed (text : String)
  /-- A name that the size of the field follows, if it has one. -/
  | sized (name : String)
  /-- A name that the size of the field follows, or else this one. -/
  | sizedOr (name size : String)
deriving Repr, DecidableEq

open TargetType

def postgresqlType? : String → Option TargetType
  | "tinyint" => some (fixed "smallint")
  | "mediumint" | "year" => some (fixed "integer")
  | "datetime" | "datetime2" | "smalldatetime" => some (fixed "timestamp")
  | "datetimeoffset" => some (fixed "timestamp with time zone")
  | "blob" | "tinyblob" | "mediumblob" | "longblob" | "image" | "binary" | "varbinary" =>
    some (fixed "bytea")
  | "tinytext" | "mediumtext" | "longtext" | "ntext" | "enum" | "set" => some (fixed "text")
  | "nvarchar" => some (sized "varchar")
  | "nchar" => some (sized "char")
  | "uniqueidentifier" => some (fixed "uuid")
  | "bit" => some (fixed "boolean")
  | "smallmoney" => some (fixed "money")
  | _ => none

def mysqlType? : String → Option TargetType
  | "integer" => some (fixed "int")
  | "bytea" | "image" => some (fixed "longblob")
  | "uuid" | "uniqueidentifier" => some (fixed "char(36)")
  | "jsonb" => some (fixed "json")
  | "timestamp with time zone" => some (fixed "timestamp")
  | "time with time zone" => some (fixed "time")
  | "double precision" => some (fixed "double")
  | "real" => some (fixed "float")
  | "money" | "smallmoney" => some (fixed "decimal(19,4)")
  | "varchar" | "nvarchar" => some (sizedOr "varchar" "255")
  | "varbinary" => some (sizedOr "varbinary" "255")
  | "nchar" => some (sized "char")
  | "ntext" | "xml" => some (fixed "longtext")
  | "datetime2" | "datetimeoffset" | "smalldatetime" => some (fixed "datetime")
  | "inet" | "cidr" | "macaddr" => some (fixed "varchar(45)")
  | "interval" | "enum" | "set" => some (fixed "varchar(255)")
  | "geography" => some (fixed "geometry")
  | _ => none

def sqlServerType? : String → Option TargetType
  | "boolean" => some (fixed "bit")
  | "integer" | "mediumint" => some (fixed "int")
  | "year" => some (fixed "smallint")
  | "text" | "tinytext" | "mediumtext" | "longtext" | "json" | "jsonb" =>
    some (fixed "nvarchar(max)")
  | "uuid" => some (fixed "uniqueidentifier")
  | "timestamp" | "datetime" => some (fixed "datetime2")
  | "timestamp with time zone" => some (fixed "datetimeoffset")
  | "time with time zone" => some (fixed "time")
  | "double precision" => some (fixed "float")
  | "bytea" | "blob" | "tinyblob" | "mediumblob" | "longblob" => some (fixed "varbinary(max)")
  | "varchar" => some (sizedOr "varchar" "max")
  | "nvarchar" => some (sizedOr "nvarchar" "max")
  | "varbinary" => some (sizedOr "varbinary" "max")
  | "interval" | "enum" | "set" => some (fixed "varchar(255)")
  | "inet" | "cidr" | "macaddr" => some (fixed "varchar(45)")
  | "point" => some (fixed "geometry")
  | _ => none

/-- SQLite has storage classes only. -/
def sqliteType : String → TargetType
  | "tinyint" | "smallint" | "mediumint" | "integer" | "bigint" | "bit" | "boolean" | "year" =>
    fixed "integer"
  | "real" | "float" | "double precision" => fixed "real"
  | "decimal" | "numeric" => sized "numeric"
  | "money" | "smallmoney" => fixed "numeric"
  | "blob" | "tinyblob" | "mediumblob" | "longblob" | "bytea" | "binary" | "varbinary" | "image" =>
    fixed "blob"
  | _ => fixed "text"

/-- What a dialect has for a type; its own name, where the dialect has no other. -/
def targetType (d : Dialect) (id : String) : TargetType :=
  let other := match d with
    | .postgresql => postgresqlType? id
    | .mysql | .mariadb => mysqlType? id
    | .sqlServer => sqlServerType? id
    | .sqlite => some (sqliteType id)
    | _ => none
  other.getD (sized id)

/-! ## Sizes -/

/-- The size of a field in parentheses, as far as its type has one. -/
def sizeText? (f : Field) : Option String :=
  match Catalog.sizeKind f.type.id with
  | .length => (f.length.filter (!·.isEmpty)).map (fun l => "(" ++ l ++ ")")
  | .precisionScale =>
    match f.precision, f.scale with
    | some p, some s => some ("(" ++ toString p ++ "," ++ toString s ++ ")")
    | some p, none => some ("(" ++ toString p ++ ")")
    | none, _ => none
  | .none => none

/-- A type with the size of a field. -/
def TargetType.text (f : Field) : TargetType → String
  | fixed text => text
  | sized name => name ++ (sizeText? f).getD ""
  | sizedOr name size => name ++ (sizeText? f).getD ("(" ++ size ++ ")")

/-! ## Custom types and arrays -/

/-- String literals with something between them. -/
def literals (between : String) (values : List String) : String :=
  between.intercalate (values.map quoteLiteral)

/-- What stands for a custom type. -/
def customTypeText (q : Quoting) (t : CustomType) : String :=
  match q.dialect, t.kind with
  | .postgresql, _ | .generic, _ => q.qualified t.schema t.name
  | .mysql, .enum | .mariadb, .enum => "enum(" ++ literals "," (t.values.getD []) ++ ")"
  | .mysql, .composite | .mariadb, .composite => "json"
  | .sqlServer, .enum => "nvarchar(255)"
  | .sqlServer, .composite => "nvarchar(max)"
  | _, _ => "text"

/-- What stands for an array in a dialect without arrays. -/
def arrayStandIn? : Dialect → Option String
  | .mysql | .mariadb => some "json"
  | .sqlServer => some "nvarchar(max)"
  | .sqlite => some "text"
  | _ => none

/-- The custom type that a field has; the catalog comes first. -/
def customTypeOf? (types : List CustomType) (f : Field) : Option CustomType :=
  if Catalog.ids.contains f.type.id then none
  else types.find? (fun t => sameName t.name f.type.id)

/-- The type of a field, not regarding whether it is an array. -/
def elementType (q : Quoting) (types : List CustomType) (f : Field) : String :=
  match customTypeOf? types f with
  | some t => customTypeText q t
  | none => (targetType q.dialect f.type.id).text f

/-- The type of a field. -/
def typeText (q : Quoting) (types : List CustomType) (f : Field) : String :=
  if f.isList then (arrayStandIn? q.dialect).getD (elementType q types f ++ "[]")
  else elementType q types f

/-! ## Kinds of types -/

/-- The type of an integer that counts up by itself. -/
def serialType? (f : Field) : Option String :=
  if !f.increments || f.isList then none
  else match f.type.id with
    | "bigint" => some "bigserial"
    | "smallint" | "tinyint" => some "smallserial"
    | "integer" | "mediumint" => some "serial"
    | _ => none

/-- Does a type hold texts or bytes of any length. -/
def isLongType (type : String) : Bool :=
  let cs := lower type.toList
  holds cs "text" || holds cs "blob" || cs == "json".toList

end SchemaChart.Export
