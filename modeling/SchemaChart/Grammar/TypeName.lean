-- Column types of the strict grammar. A type the grammar knows is printed in capitals with its
-- arguments in a fixed form; any other name is kept as written.
import SchemaChart.Grammar.Expr
import SchemaChart.Grammar.Literal

namespace SchemaChart.Grammar

open Reader

/-- What an expression that starts with a type may be. -/
inductive TypeKind where
  | known
  | custom
  | interval
deriving Repr, DecidableEq

/-- A type as it is printed back. -/
structure TypeText where
  text : String
  kind : TypeKind := .known
deriving Repr, DecidableEq

namespace TypeText

/-! ## Arguments -/

/-- A length in parentheses, as text; empty if there is none. -/
def optionalLength : Reader String := do
  if ← mark "(" then
    let n ← literalUint
    expectMark ")"
    return "(" ++ toString n ++ ")"
  else return ""

/-- A precision and perhaps a scale in parentheses, as text. -/
def optionalScale : Reader String := do
  if ← mark "(" then
    let p ← literalUint
    let s ← if ← mark "," then do pure ("," ++ toString (← literalInt)) else pure ""
    expectMark ")"
    return "(" ++ toString p ++ s ++ ")"
  else return ""

/-- A length of characters in parentheses, which may be `MAX` or have a unit. -/
def optionalCharacters : Reader String := do
  if ← mark "(" then
    let inner ←
      if ← key "MAX" then pure "MAX"
      else do
        let n ← literalUint
        match ← oneOf ["CHARACTERS", "OCTETS"] with
        | some u => pure (toString n ++ " " ++ u)
        | none => pure (toString n)
    expectMark ")"
    return "(" ++ inner ++ ")"
  else return ""

/-- A length of bytes in parentheses, which may be `MAX`. -/
def optionalBytes : Reader String := do
  if ← mark "(" then
    let inner ← if ← key "MAX" then pure "MAX" else toString <$> literalUint
    expectMark ")"
    return "(" ++ inner ++ ")"
  else return ""

/-- An integer type with its display width and its sign word. -/
def integer (name : String) (signed : Bool) : Reader TypeText := do
  let width ← optionalLength
  if ← key "UNSIGNED" then return ⟨name ++ width ++ " UNSIGNED", .known⟩
  else
    if signed && (← flavor) == .mysql then let _ ← key "SIGNED"
    return ⟨name ++ width, .known⟩

/-- A number type with precision and scale and its sign word. -/
def scaled (name : String) : Reader TypeText := do
  let args ← optionalScale
  if ← key "UNSIGNED" then return ⟨name ++ args ++ " UNSIGNED", .known⟩
  else return ⟨name ++ args, .known⟩

/-- A time type with its precision and its zone. -/
def zoned (name : String) : Reader TypeText := do
  let precision ← optionalLength
  if ← key "WITH" then
    expectKeys ["TIME", "ZONE"]
    return ⟨name ++ precision ++ " WITH TIME ZONE", .known⟩
  else if ← key "WITHOUT" then
    expectKeys ["TIME", "ZONE"]
    return ⟨name ++ precision ++ " WITHOUT TIME ZONE", .known⟩
  else return ⟨name ++ precision, .known⟩

/-- A character type in its short or long spelling. -/
def characters (name : String) : Reader TypeText := do
  if ← key "VARYING" then return ⟨name ++ " VARYING" ++ (← optionalCharacters), .known⟩
  else if ← keys ["LARGE", "OBJECT"] then
    return ⟨name ++ " LARGE OBJECT" ++ (← optionalLength), .known⟩
  else return ⟨name ++ (← optionalCharacters), .known⟩

/-- One argument of a type the grammar does not know; commas between them are not asked for. -/
def modifier : Reader (Option (Option String)) := do
  let t ← next
  match t.token with
  | .word .. => return some (some t.token.render)
  | .number d _ => return some (some d)
  | .text .single v => return some (some v)
  | .mark "," => return some none
  | .mark ")" => return none
  | _ => expected "type modifiers" t

/-- A type the grammar does not know: a dotted name and its arguments. -/
def custom : Reader TypeText := do
  let name ← objectName
  if ← mark "(" then
    let args := (← repeated modifier).filterMap id
    if args.isEmpty then return ⟨name, .custom⟩
    else return ⟨name ++ "(" ++ ", ".intercalate args ++ ")", .custom⟩
  else return ⟨name, .custom⟩

/-- A label of an enumeration, perhaps with a number. -/
def enumLabel : Reader String := do
  let label ← literalString
  let quoted := quoteText '\'' label
  if ← mark "=" then return quoted ++ " = " ++ (← signedNumber) else return quoted

/-- Labels of a set; every label is a string. -/
def setLabels : Nat → Reader (List String)
  | 0 => return []
  | n + 1 => do
    let t ← next
    match t.token with
    | .text .single v =>
      let sep ← next
      match sep.token with
      | .mark "," => return quoteText '\'' v :: (← setLabels n)
      | .mark ")" => return [quoteText '\'' v]
      | _ => expected ", or \x7d" sep
    | _ => expected "a string" t

/-- The fields an interval may be limited to, as text. -/
def intervalFields : Reader String := do
  match ← oneOf ["YEAR", "DAY", "HOUR", "MINUTE", "MONTH", "SECOND"] with
  | none => return ""
  | some first =>
    let last : List String :=
      match first with
      | "YEAR" => ["MONTH"]
      | "DAY" => ["HOUR", "MINUTE", "SECOND"]
      | "HOUR" => ["MINUTE", "SECOND"]
      | "MINUTE" => ["SECOND"]
      | _ => []
    if ← keysIf (!last.isEmpty) ["TO"] then
      match last with
      | [k] =>
        expectKey k
        return " " ++ first ++ " TO " ++ k
      | ks => return " " ++ first ++ " TO " ++ (← expectOneOf ks)
    else return " " ++ first

/-! ## The table of types -/

/-- Types that take no argument and are printed as their key word. -/
def plainNames : List String :=
  ["BOOLEAN", "BOOL", "FLOAT4", "FLOAT8", "FLOAT64", "INT64", "HUGEINT", "UBIGINT", "UHUGEINT",
    "USMALLINT", "UTINYINT", "UUID", "DATE", "JSON", "JSONB", "REGCLASS", "TEXT", "TINYTEXT",
    "MEDIUMTEXT", "LONGTEXT", "BYTEA", "TINYBLOB", "MEDIUMBLOB", "LONGBLOB", "TRIGGER"]

/-- Types that take no argument and are printed in mixed case. -/
def mixedNames : List (String × String) :=
  [("FLOAT32", "Float32"), ("INT16", "Int16"), ("INT32", "Int32"), ("INT128", "Int128"),
    ("INT256", "Int256"), ("UINT8", "UInt8"), ("UINT16", "UInt16"), ("UINT32", "UInt32"),
    ("UINT64", "UInt64"), ("UINT128", "UInt128"), ("UINT256", "UInt256"), ("DATE32", "Date32")]

/-- Types that may take a length. -/
def lengthNames : List String :=
  ["CLOB", "BINARY", "BLOB", "BYTES", "VARBIT", "DATETIME", "STRING", "TIMESTAMP_NTZ",
    "TIMESTAMPTZ", "TIMETZ"]

/-- Types that may take a length of characters. -/
def characterNames : List String := ["VARCHAR", "NVARCHAR"]

/-- Reads what stands behind the key word of a type, if it is one the grammar knows. `column`
reads a column of a table type, and `nested` the element type of an array; the answer tells
whether its closing bracket was taken. -/
def knownRest (column : Reader String) (nested : Reader (TypeText × Bool)) (k : String) :
    Reader (Option (TypeText × Bool)) := do
  let plain (t : Reader TypeText) : Reader (Option (TypeText × Bool)) := return some (← t, false)
  let just (s : String) : Reader (Option (TypeText × Bool)) := return some (⟨s, .known⟩, false)
  if plainNames.contains k then just k
  else if let some s := mixedNames.lookup k then just s
  else if lengthNames.contains k then plain do return ⟨k ++ (← optionalLength), .known⟩
  else if characterNames.contains k then plain do return ⟨k ++ (← optionalCharacters), .known⟩
  else if ["TINYINT", "SMALLINT", "MEDIUMINT", "INT", "INTEGER", "BIGINT"].contains k then
    plain (integer k true)
  else if ["INT2", "INT4", "INT8"].contains k then plain (integer k false)
  else if ["FLOAT", "DECIMAL", "DEC"].contains k then plain (scaled k)
  else if ["NUMERIC", "BIGNUMERIC", "BIGDECIMAL"].contains k then
    plain do return ⟨k ++ (← optionalScale), .known⟩
  else match k with
    | "REAL" => plain do
      if ← key "UNSIGNED" then return ⟨"REAL UNSIGNED", .known⟩ else return ⟨"REAL", .known⟩
    | "DOUBLE" => plain do
      if ← key "PRECISION" then
        if ← key "UNSIGNED" then return ⟨"DOUBLE PRECISION UNSIGNED", .known⟩
        else return ⟨"DOUBLE PRECISION", .known⟩
      else scaled "DOUBLE"
    | "CHARACTER" | "CHAR" => plain (characters k)
    | "VARBINARY" => plain do return ⟨"VARBINARY" ++ (← optionalBytes), .known⟩
    | "BIT" => plain do
      if ← key "VARYING" then return ⟨"BIT VARYING" ++ (← optionalLength), .known⟩
      else return ⟨"BIT" ++ (← optionalLength), .known⟩
    | "TIMESTAMP" | "TIME" => plain (zoned k)
    | "DATETIME64" => plain do
      expectMark "("
      let precision ← literalUint
      let zone ← if ← mark "," then do pure (", '" ++ (← literalString) ++ "'") else pure ""
      expectMark ")"
      return ⟨"DateTime64(" ++ toString precision ++ zone ++ ")", .known⟩
    | "INTERVAL" => plain do
      if (← flavor) == .postgres then
        let fields ← intervalFields
        return ⟨"INTERVAL" ++ fields ++ (← optionalLength), .interval⟩
      else return ⟨"INTERVAL", .interval⟩
    | "FIXEDSTRING" => plain do return ⟨"FixedString(" ++ toString (← parens literalUint)
        ++ ")", .known⟩
    | "ENUM" | "ENUM8" | "ENUM16" => plain do
      let labels ← parens (commaList enumLabel)
      return ⟨k ++ "(" ++ ", ".intercalate labels ++ ")", .known⟩
    | "SET" => plain do
      expectMark "("
      let labels ← setLabels ((← get).length + 1)
      return ⟨"SET(" ++ ", ".intercalate labels ++ ")", .known⟩
    | "ARRAY" => do
      expectMark "<"
      let (element, closed) ← nested
      if closed then return some (⟨"ARRAY<" ++ element.text ++ ">", .known⟩, false)
      else
        let t ← peek
        match t.token with
        | .mark ">" =>
          let _ ← next
          return some (⟨"ARRAY<" ++ element.text ++ ">", .known⟩, false)
        | .mark ">>" =>
          let _ ← next
          return some (⟨"ARRAY<" ++ element.text ++ ">", .known⟩, true)
        | _ => expected ">" t
    | "ANY" => do if ← key "TYPE" then just "ANY TYPE" else return none
    | "TABLE" => do
      if ← atMark "(" then just ("TABLE(" ++ ", ".intercalate (← parens (commaList column)) ++ ")")
      else just "TABLE"
    | "SIGNED" | "UNSIGNED" => do
      if ← key "INTEGER" then just (k ++ " INTEGER") else just k
    | "TSVECTOR" | "TSQUERY" => do
      if (← flavor) == .postgres then just k else return none
    | _ => return none

/-- Bounds in brackets behind a type, which make it an array. -/
def arrayBounds : Reader (Option String) := do
  if (← flavor) == .postgres && (← atMark "[") then
    let _ ← next
    let size ← attempt literalUint
    expectMark "]"
    return some ("[" ++ (match size with | some n => toString n | none => "") ++ "]")
  else return none

/-- Reads a type. The second argument bounds how deep arrays may nest; the number of tokens is
enough. The answer tells whether one closing angle bracket too many was taken. -/
def readFrom (column : Reader String) : Nat → Reader (TypeText × Bool)
  | 0 => refuse "a data type nests too deep"
  | n + 1 => do
    let t ← next
    match t.token with
    | .word _ _ k =>
      let ts ← get
      let (ty, closed) ←
        match ← knownRest column (readFrom column n) k with
        | some r => pure r
        | none => do
          set (t :: ts)
          pure (← custom, false)
      let bounds ← repeated arrayBounds
      if bounds.isEmpty then return (ty, closed)
      else return (⟨ty.text ++ String.join bounds, .known⟩, closed)
    | _ => expected "a data type name" t

end TypeText

/-- Reads a type. -/
def typeName (r : Nested) : Reader TypeText := do
  let (ty, closed) ← TypeText.readFrom r.column ((← get).length + 1)
  if closed then
    refuse ("unmatched > after parsing data type " ++ ty.text ++ (← peek).token.render)
  else return ty

end SchemaChart.Grammar
