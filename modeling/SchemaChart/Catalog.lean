-- The catalog of data types that diagrams use, whatever the dialect of the script was.

namespace SchemaChart

/-- The data type of a field: what it is known by, and what is shown. -/
structure DataType where
  id : String
  name : String
deriving Repr, DecidableEq, Inhabited

/-- A data type shown under its own name. -/
def DataType.named (id : String) : DataType := ⟨id, id⟩

/-- What a type that nothing else fits is taken for. -/
def DataType.varchar : DataType := .named "varchar"

/-- Which size arguments a data type carries. -/
inductive SizeKind where
  | none
  | length
  | precisionScale
deriving Repr, DecidableEq

namespace Catalog

/-- The types of the catalog that carry a length. -/
def withLength : List String := ["binary", "char", "nchar", "nvarchar", "varbinary", "varchar"]

/-- The types of the catalog that carry a precision and a scale. -/
def withPrecision : List String := ["decimal", "numeric"]

/-- The types of the catalog that carry no size. -/
def plain : List String :=
  ["bigint", "bit", "blob", "boolean", "bytea", "cidr", "date", "datetime", "datetime2",
    "datetimeoffset", "double precision", "enum", "float", "geography", "geometry", "image",
    "inet", "integer", "interval", "json", "jsonb", "longblob", "longtext", "macaddr",
    "mediumblob", "mediumint", "mediumtext", "money", "ntext", "point", "real", "set",
    "smalldatetime", "smallint", "smallmoney", "text", "time", "time with time zone", "timestamp",
    "timestamp with time zone", "tinyblob", "tinyint", "tinytext", "uniqueidentifier", "uuid",
    "xml", "year"]

/-- Every type of the catalog. -/
def ids : List String := withLength ++ withPrecision ++ plain

/-- Names that mean a type of the catalog. -/
def synonyms : List (String × String) :=
  [("character varying", "varchar"), ("varchar2", "varchar"), ("nvarchar2", "nvarchar"),
    ("national character varying", "nvarchar"), ("national char varying", "nvarchar"),
    ("character", "char"), ("national character", "nchar"), ("int", "integer"),
    ("int4", "integer"), ("integer unsigned", "integer"), ("int unsigned", "integer"),
    ("serial", "integer"), ("serial4", "integer"), ("int8", "bigint"),
    ("bigint unsigned", "bigint"), ("bigserial", "bigint"), ("serial8", "bigint"),
    ("int2", "smallint"), ("smallint unsigned", "smallint"), ("smallserial", "smallint"),
    ("serial2", "smallint"), ("tinyint unsigned", "tinyint"), ("mediumint unsigned", "mediumint"),
    ("bool", "boolean"), ("float8", "double precision"), ("double", "double precision"),
    ("float4", "real"), ("dec", "decimal"), ("fixed", "decimal"),
    ("timestamptz", "timestamp with time zone"), ("timestamp without time zone", "timestamp"),
    ("timetz", "time with time zone"), ("time without time zone", "time"), ("string", "text"),
    ("clob", "text"), ("binary varying", "varbinary"), ("rowversion", "binary"),
    ("sql_variant", "varbinary")]

/-- The size arguments that a type carries; a type outside the catalog carries none. -/
def sizeKind (id : String) : SizeKind :=
  if withLength.contains id then .length
  else if withPrecision.contains id then .precisionScale
  else .none

/-- The sizes of numeric types in storage, to compare them by. -/
def ranks : List (String × Nat) :=
  [("tinyint", 1), ("smallint", 2), ("mediumint", 3), ("int", 4), ("integer", 4), ("bigint", 8),
    ("decimal", 16), ("numeric", 16)]

/-- The size of a numeric type in storage. -/
def rank? (id : String) : Option Nat := ranks.lookup id

/-- The type that a name in lower case means. -/
def lookup? (name : String) : Option DataType :=
  if ids.contains name then some (.named name) else (synonyms.lookup name).map .named

end Catalog

end SchemaChart
