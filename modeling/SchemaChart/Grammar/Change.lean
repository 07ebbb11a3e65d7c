-- Statements of the strict grammar that change rows: insertion, update, deletion and merging. They
-- may stand inside a query, so they are printed back while they are read.
import SchemaChart.Grammar.Select

namespace SchemaChart.Grammar

open Reader

section

variable (r : Nested)

/-! ## Shared parts -/

/-- What SQLite does about a conflict, said before the table. -/
def conflictWord : Reader String := do
  let rows := [["OR", "REPLACE"], ["OR", "ROLLBACK"], ["OR", "ABORT"], ["OR", "FAIL"],
    ["OR", "IGNORE"]]
  let word ← firstFlag rows
  if word.isEmpty then
    if ← key "REPLACE" then return " OR REPLACE" else return ""
  else return word

/-- One column and its new value, or several columns with a row of values. -/
def assignment : Reader String := do
  let target ←
    if ← mark "(" then do
      let names ← commaList objectName
      expectMark ")"
      pure ("(" ++ ", ".intercalate names ++ ")")
    else objectName
  expectMark "="
  return target ++ " = " ++ (← r.anyText)

def assignments : Reader String := do return ", ".intercalate (← commaList (assignment r))

/-- The columns of the changed rows that are given back. -/
def returning : Reader String := clause ["RETURNING"] (selectItems r)

/-- Columns in parentheses, which may be left out, and which MySQL may leave empty. -/
def targetColumns : Reader (List String) := do
  if (← flavor) == .mysql && (← atMark "(") && (← peekNth 1).token == .mark ")" then
    modify (List.drop 2)
    return []
  else optionalColumnList

/-! ## Insertion -/

/-- The names of the formats a file may have. -/
def fileFormats : List String :=
  ["AVRO", "JSONFILE", "ORC", "PARQUET", "RCFILE", "SEQUENCEFILE", "TEXTFILE"]

/-- The format of a file. -/
def fileFormat : Reader String := do
  let t ← next
  match fileFormats.find? t.token.isKey with
  | some k => return k
  | none => expected "fileformat" t

/-- What happens when a row to be inserted is already there. -/
def onInsert : Reader String := do
  if !(← key "ON") then return ""
  else if ← key "CONFLICT" then
    let target ←
      if ← keys ["ON", "CONSTRAINT"] then do pure (" ON CONSTRAINT " ++ (← objectName))
      else if ← atMark "(" then do pure ("(" ++ ", ".intercalate (← columnList) ++ ")")
      else pure ""
    expectKey "DO"
    if ← key "NOTHING" then return " ON CONFLICT" ++ target ++ " DO NOTHING"
    else
      expectKeys ["UPDATE", "SET"]
      let values ← assignments r
      let condition ← clause ["WHERE"] r.anyText
      return " ON CONFLICT" ++ target ++ " DO UPDATE SET " ++ values ++ condition
  else
    expectKeys ["DUPLICATE", "KEY", "UPDATE"]
    return " ON DUPLICATE KEY UPDATE " ++ (← assignments r)

/-- The rows that are inserted, with the columns and the parts they go to. -/
def insertedRows : Reader String := do
  if ← keys ["DEFAULT", "VALUES"] then return "DEFAULT VALUES"
  let queryAhead := (← atMark "(") && (← peekNth 1).token.isKey "SELECT"
  let target ←
    if queryAhead then pure ""
    else do
      let columns ← targetColumns
      let parts ←
        if ← key "PARTITION" then do pure ("PARTITION (" ++ (← parens r.list) ++ ") ") else pure ""
      pure ((if columns.isEmpty then "" else "(" ++ ", ".intercalate columns ++ ") ") ++ parts)
  if ← atOneOf ["FORMAT", "SETTINGS"] then return target
  else if ← keysIf ((← flavor) == .mysql) ["SET"] then return target ++ "SET " ++ (← assignments r)
  else return target ++ (← r.query)

/-- Rows put into a directory, from behind `DIRECTORY`. -/
def directoryInsertion : Reader String := do
  let path ← literalString
  let format ← clause ["STORED", "AS"] fileFormat
  return "INSERT DIRECTORY '" ++ path ++ "'" ++ format ++ " " ++ (← r.query)

/-- Rows put into a table, from behind the first word; `word` is how that is printed. -/
def insertion (word : String) : Reader String := do
  let f ← flavor
  let conflict ← conflictWord
  let priority ←
    if f == .mysql then firstFlag [["LOW_PRIORITY"], ["DELAYED"], ["HIGH_PRIORITY"]] else pure ""
  let ignore ← if f == .mysql then flag ["IGNORE"] else pure ""
  let overwrite ← flag ["OVERWRITE"]
  let into ← flag ["INTO"]
  may ["LOCAL"]
  if ← key "DIRECTORY" then directoryInsertion r
  else
    let table ← flag ["TABLE"]
    let name ← objectName
    let other ← if f == .postgres then clause ["AS"] (Name.render <$> identifier) else pure ""
    let start :=
      if conflict.isEmpty then word ++ priority ++ ignore ++ overwrite ++ into ++ table ++ " "
      else word ++ conflict ++ " INTO "
    let rows ← insertedRows r
    let rowName ←
      if f == .mysql then clause ["AS"] do
        let row ← objectName
        let columns ← optionalColumnList
        return if columns.isEmpty then row else row ++ " (" ++ ", ".intercalate columns ++ ")"
      else pure ""
    let on ← onInsert r
    return start ++ name ++ other ++ " " ++ rows ++ rowName ++ on ++ (← returning r)

/-! ## Update and deletion -/

/-- Rows changed in place, from behind `UPDATE`. -/
def update : Reader String := do
  let conflict ← conflictWord
  let table ← joinedTable r
  let early ← clause ["FROM"] (tables r)
  expectKey "SET"
  let values ← assignments r
  let late ← if early.isEmpty then clause ["FROM"] (tables r) else pure ""
  let condition ← clause ["WHERE"] r.anyText
  let back ← returning r
  let limit ← clause ["LIMIT"] r.anyText
  return "UPDATE" ++ conflict ++ " " ++ table ++ early ++ " SET " ++ values ++ late ++ condition
    ++ back ++ limit

/-- Rows taken away, from behind `DELETE`. -/
def deletion : Reader String := do
  let targets ←
    if ← key "FROM" then pure ""
    else do
      let names ← commaList objectName
      expectKey "FROM"
      pure (" " ++ ", ".intercalate names)
  let source ← tables r
  let using_ ← clause ["USING"] (tables r)
  let condition ← clause ["WHERE"] r.anyText
  let back ← returning r
  let order ← clause ["ORDER", "BY"] (orderKeys r)
  let limit ←
    if ← key "LIMIT" then
      if ← key "ALL" then pure "" else do pure (" LIMIT " ++ (← r.anyText))
    else pure ""
  return "DELETE" ++ targets ++ " FROM " ++ source ++ using_ ++ condition ++ back ++ order ++ limit

/-! ## Merging -/

/-- Which rows a clause of a merge is about. -/
def mergeRows : Reader String := do
  let absent ← key "NOT"
  expectKey "MATCHED"
  if !absent then return "MATCHED"
  else return "NOT MATCHED" ++ (← firstFlag [["BY", "SOURCE"], ["BY", "TARGET"]])

/-- What a clause of a merge does with its rows. -/
def mergeAction (rows : String) : Reader String := do
  let missing := rows == "NOT MATCHED" || rows == "NOT MATCHED BY TARGET"
  let t ← peek
  let check (word : String) (allowed : Bool) : Reader Unit := do
    unless allowed do refuseAt (word ++ " is not allowed in a " ++ rows ++ " merge clause") t
  match ← oneOf ["UPDATE", "INSERT", "DELETE"] with
  | some "UPDATE" =>
    check "UPDATE" (!missing)
    expectKey "SET"
    return "UPDATE SET " ++ (← assignments r)
  | some "DELETE" =>
    check "DELETE" (!missing)
    return "DELETE"
  | some _ =>
    check "INSERT" missing
    let columns ← targetColumns
    expectKey "VALUES"
    let list := if columns.isEmpty then "" else "(" ++ ", ".intercalate columns ++ ") "
    return "INSERT " ++ list ++ (← valuesRule r)
  | none => refuseHere "expected UPDATE, DELETE or INSERT in merge clause"

/-- One clause of a merge. -/
def mergeClause : Reader (Option String) := do
  if !(← key "WHEN") then return none
  let rows ← mergeRows
  let condition ← clause ["AND"] r.anyText
  expectKey "THEN"
  return some (" WHEN " ++ rows ++ condition ++ " THEN " ++ (← mergeAction r rows))

/-- One table merged into another, from behind `MERGE`. -/
def merging : Reader String := do
  let into ← flag ["INTO"]
  let table ← oneTable r
  expectKey "USING"
  let source ← oneTable r
  expectKey "ON"
  let condition ← r.anyText
  let clauses ← repeated (mergeClause r)
  let output ←
    match ← oneOf ["OUTPUT", "RETURNING"] with
    | none => pure ""
    | some word => do
      let items ← selectItems r
      let target ← if ← keysIf (word == "OUTPUT") ["INTO"] then selectInto else pure ""
      pure (" " ++ word ++ " " ++ items ++ target)
  return "MERGE" ++ into ++ " " ++ table ++ " USING " ++ source ++ " ON " ++ condition
    ++ String.join clauses ++ output

end

end SchemaChart.Grammar
