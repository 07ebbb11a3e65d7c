-- Table definitions of the strict grammar. Of what stands behind the columns it matters only that
-- it is well formed.
import SchemaChart.Grammar.Constraint
import SchemaChart.Grammar.Query

namespace SchemaChart.Grammar

open Reader

/-- A table definition: its dotted name, its columns, and its constraints as text. -/
structure TableDefinition where
  name : String
  columns : List ColumnDefinition
  constraints : List String
deriving Repr, DecidableEq

/-! ## Options of a table -/

/-- Options of a table that take one value, by their key words. -/
def valueOptions : List (List String) :=
  [["DEFAULT", "CHARSET"], ["CHARSET"], ["DEFAULT", "CHARACTER", "SET"], ["CHARACTER", "SET"],
    ["DEFAULT", "COLLATE"], ["COLLATE"], ["DATA", "DIRECTORY"], ["INDEX", "DIRECTORY"],
    ["KEY_BLOCK_SIZE"], ["ROW_FORMAT"], ["PACK_KEYS"], ["STATS_AUTO_RECALC"], ["STATS_PERSISTENT"],
    ["STATS_SAMPLE_PAGES"], ["DELAY_KEY_WRITE"], ["COMPRESSION"], ["ENCRYPTION"], ["MAX_ROWS"],
    ["MIN_ROWS"], ["AUTOEXTEND_SIZE"], ["AVG_ROW_LENGTH"], ["CHECKSUM"], ["CONNECTION"],
    ["ENGINE_ATTRIBUTE"], ["PASSWORD"], ["SECONDARY_ENGINE_ATTRIBUTE"], ["INSERT_METHOD"],
    ["AUTO_INCREMENT"]]

/-- One option behind the columns of a table. -/
def tableOption : Reader (Option Unit) := do
  if ← keys ["START", "TRANSACTION"] then return some ()
  else if ← key "COMMENT" then
    let _ ← mark "="
    let t ← next
    match t.token with
    | .text .single _ => return some ()
    | _ => expected "Token::SingleQuotedString" { t with offset := none }
  else if ← key "ENGINE" then
    let _ ← mark "="
    let t ← next
    match t.token with
    | .word .. =>
      if ← atMark "(" then let _ ← parens (commaList identifier)
      return some ()
    | _ => expected "Token::Word" t
  else if ← key "TABLESPACE" then
    let _ ← mark "="
    let t ← next
    match t.token with
    | .word .. | .text .single _ =>
      if ← key "STORAGE" then
        let _ ← mark "="
        let s ← next
        match s.token with
        | .word _ _ k =>
          if k == "DISK" || k == "MEMORY" then return some ()
          else expected "Storage type (DISK or MEMORY)" s
        | _ => expected "Token::Word" s
      else return some ()
    | _ => expected "Token::Word" t
  else if ← key "UNION" then
    let _ ← mark "="
    let t ← next
    match t.token with
    | .mark "(" =>
      let _ ← commaList0 identifier ")"
      expectMark ")"
      return some ()
    | _ => expected "Token::LParen" t
  else if ← eitherKeys valueOptions then
    let _ ← mark "="
    match ← attempt constant with
    | some _ => return some ()
    | none =>
      let _ ← identifier
      return some ()
  else return none

/-- Options behind the columns of a table; a comma may stand behind each. -/
def tableOptions : Reader Unit := do
  let _ ← repeated do
    match ← tableOption with
    | some () =>
      let _ ← mark ","
      return some ()
    | none => return none

/-- How the fields of a stored row are told apart. -/
def rowDelimiter : Reader (Option Unit) := do
  let character (ks : List String) : Reader (Option Unit) := do
    if ← keys ks then
      let _ ← identifier
      return some ()
    else return none
  match ← oneOf ["FIELDS", "COLLECTION", "MAP", "LINES", "NULL"] with
  | some "FIELDS" =>
    let found ← character ["TERMINATED", "BY"]
    if found.isSome then let _ ← character ["ESCAPED", "BY"]
    return found
  | some "COLLECTION" => character ["ITEMS", "TERMINATED", "BY"]
  | some "MAP" => character ["KEYS", "TERMINATED", "BY"]
  | some "LINES" => character ["TERMINATED", "BY"]
  | some _ => character ["DEFINED", "AS"]
  | none => return none

section

variable (r : Nested)

/-! ## Settings -/

/-- How SQL Server divides a table, from `PARTITION` on. -/
def partitionSetting : Reader Unit := do
  expectKey "PARTITION"
  parens do
    let _ ← identifier
    expectKey "RANGE"
    let _ ← oneOf ["LEFT", "RIGHT"]
    expectKeys ["FOR", "VALUES"]
    let _ ← parens r.list

/-- How SQL Server orders the rows of a table, from `CLUSTERED` on. -/
def clusteredSetting : Reader Unit := do
  if ← keys ["CLUSTERED", "COLUMNSTORE", "INDEX", "ORDER"] then let _ ← columnList
  else if ← keys ["CLUSTERED", "COLUMNSTORE", "INDEX"] then return
  else if ← keys ["CLUSTERED", "INDEX"] then
    let _ ← parens (commaList do
      let _ ← identifier
      let _ ← oneOf ["ASC", "DESC"])
  else refuse "invalid CLUSTERED sequence"

/-- A setting in parentheses: a name and its value, or one of the forms that SQL Server has. -/
def setting : Reader Unit := do
  let server := (← flavor) == .sqlServer
  if server && (← atKey "HEAP") then let _ ← next
  else if server && (← atKey "PARTITION") then partitionSetting r
  else if server && (← atKey "CLUSTERED") then clusteredSetting
  else
    let _ ← identifier
    expectMark "="
    let _ ← r.any

/-- Settings in parentheses behind key words; tells whether there were any. -/
def settings (words : List String) : Reader Bool := do
  if ← keys words then
    let found ← parens (commaList0 (setting r) ")")
    return !found.isEmpty
  else return false

/-! ## What stands behind the columns -/

/-- Storage clauses behind the columns of a table that no flavor here gives a meaning to. -/
def storageClause : Reader (Option Unit) := do
  if ← key "ROW" then
    expectKey "FORMAT"
    match ← oneOf ["SERDE", "DELIMITED"] with
    | some "SERDE" =>
      let _ ← literalString
      return some ()
    | _ =>
      let _ ← repeated rowDelimiter
      return some ()
  else if ← key "STORED" then
    expectKey "AS"
    if ← key "INPUTFORMAT" then
      let _ ← r.any
      expectKey "OUTPUTFORMAT"
      let _ ← r.any
    else let _ ← fileFormat
    return some ()
  else if ← key "LOCATION" then
    let _ ← literalString
    return some ()
  else
    let found ← settings r ["WITH", "SERDEPROPERTIES"]
    return if found then some () else none

/-- What is done with a temporary table at the end of a transaction. -/
def onCommit : Reader Unit := do
  if ← keys ["ON", "COMMIT"] then
    unless ← eitherKeys [["DELETE", "ROWS"], ["PRESERVE", "ROWS"], ["DROP"]] do
      refuse ("Expecting DELETE ROWS, PRESERVE ROWS or DROP" ++ (← peek).token.render)

/-- How the rows of a table are divided. -/
def partitioned : Reader Unit := do
  if ← keys ["PARTITIONED", "BY"] then let _ ← parens (commaList (columnDefinition r))

/-- What may stand behind the columns of a table. -/
def tableTail : Reader Unit := do
  let f ← flavor
  may ["WITHOUT", "ROWID"]
  partitioned r
  let _ ← repeated (storageClause r)
  if ← key "INHERITS" then let _ ← nameList
  let withSettings ← settings r ["WITH"]
  let properties ← settings r ["TBLPROPERTIES"]
  if ← keysIf (f == .postgres) ["PARTITION", "BY"] then let _ ← r.any
  if !withSettings && !properties then tableOptions
  if ← keys ["ORDER", "BY"] then
    if ← mark "(" then
      let _ ← commaList0 r.any ")"
      expectMark ")"
    else let _ ← r.any
  onCommit
  may ["STRICT"]
  if ← key "AS" then let _ ← r.query
  else if f == .mysql && (← atKey "SELECT") then let _ ← r.query

/-! ## Whole definitions -/

/-- Columns and constraints, from behind the opening parenthesis; the first argument bounds
their number. -/
def elementsFrom : Nat → Reader (List (ColumnDefinition ⊕ String))
  | 0 => return []
  | n + 1 => do
    let element ←
      match ← tableConstraint? r with
      | some c => pure (.inr c)
      | none =>
        if ← atWord then .inl <$> columnDefinition r
        else expectedHere "column name or constraint definition"
    let comma ← mark ","
    let closed ← atMark ")"
    if !comma && !closed then expectedHere "',' or ')' after column definition"
    else if closed && !comma then
      let _ ← next
      return [element]
    else return element :: (← elementsFrom n)

/-- The columns and constraints of a table definition; none if the list is empty or missing. -/
def elements : Reader (List (ColumnDefinition ⊕ String)) := do
  if !(← mark "(") then return []
  else if ← mark ")" then return []
  else elementsFrom r ((← get).length + 1)

/-- The definition of a table with these columns and constraints. -/
def TableDefinition.ofElements (name : String) (es : List (ColumnDefinition ⊕ String)) :
    TableDefinition :=
  { name
    columns := es.filterMap (fun | .inl c => some c | .inr _ => none)
    constraints := es.filterMap (fun | .inl _ => none | .inr c => some c) }

/-- A table definition, from behind `TABLE`. -/
def tableDefinition : Reader TableDefinition := do
  may ["IF", "NOT", "EXISTS"]
  let name ← objectName
  if ← keys ["ON", "CLUSTER"] then let _ ← identifier
  if ← eitherKeys [["LIKE"], ["ILIKE"]] then let _ ← objectName
  if ← key "CLONE" then passName
  let es ← elements r
  tableTail r
  return .ofElements name es

/-- The definition of a table that is kept elsewhere, from behind `EXTERNAL`. -/
def externalTable : Reader TableDefinition := do
  expectKey "TABLE"
  may ["IF", "NOT", "EXISTS"]
  let name ← objectName
  let es ← elements r
  partitioned r
  let _ ← repeated (storageClause r)
  let _ ← settings r ["TBLPROPERTIES"]
  return .ofElements name es

end

end SchemaChart.Grammar
