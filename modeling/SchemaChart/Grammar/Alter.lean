-- Statements of the strict grammar that change or remove what was defined before.
import SchemaChart.Grammar.Index
import SchemaChart.Grammar.Object

namespace SchemaChart.Grammar

open Reader

/-- What becomes of the things that depend on a removed one. -/
def dropBehavior : Reader Unit := do let _ ← oneOf ["CASCADE", "RESTRICT"]

/-- Takes what may stand between a name and its value: an equals sign or `TO`. -/
def equalsOrTo : Reader Bool := do if ← mark "=" then return true else key "TO"

section

variable (r : Nested)

/-! ## Changes of a table -/

/-- The values that name a part of a table. -/
def partValues : Reader Unit := do let _ ← parens (commaList r.any)

/-- Where MySQL puts a column. -/
def columnPosition : Reader Unit := do
  if (← flavor) == .mysql then
    if ← key "FIRST" then return
    else if ← key "AFTER" then let _ ← identifier

/-- The type and the options of a column that is changed. -/
def changedColumn : Reader Unit := do
  let _ ← typeName r
  let _ ← repeated (columnOption? r)
  columnPosition

/-- What is added to a table, from behind `ADD`. -/
def tableAddition : Reader Unit := do
  if (← tableConstraint? r).isSome then may ["NOT", "VALID"]
  else
    may ["IF", "NOT", "EXISTS"]
    let parts ← repeated (after ["PARTITION"] (partValues r))
    if parts.isEmpty then
      may ["COLUMN"]
      let _ ← keysIf ((← flavor) == .postgres) ["IF", "NOT", "EXISTS"]
      let _ ← columnDefinition r
      columnPosition

/-- A new name for a table or a part of it, from behind `RENAME`. -/
def tableRenaming : Reader Unit := do
  let pair : Reader Unit := do
    let _ ← identifier
    expectKey "TO"
    let _ ← identifier
  if ← keysIf ((← flavor) == .postgres) ["CONSTRAINT"] then pair
  else if (← oneOf ["TO", "AS"]).isSome then let _ ← objectName
  else
    may ["COLUMN"]
    pair

/-- What is removed from a table, from behind `DROP`. -/
def tableRemoval : Reader Unit := do
  if ← eitherKeys [["IF", "EXISTS", "PARTITION"], ["PARTITION"]] then partValues r
  else if ← key "CONSTRAINT" then
    may ["IF", "EXISTS"]
    let _ ← identifier
    dropBehavior
  else if ← keys ["PRIMARY", "KEY"] then dropBehavior
  else if ← keys ["FOREIGN", "KEY"] then
    let _ ← identifier
    dropBehavior
  else if ← key "INDEX" then let _ ← identifier
  else
    may ["PROJECTION"]
    unless ← keys ["CLUSTERING", "KEY"] do
      may ["COLUMN"]
      may ["IF", "EXISTS"]
      let _ ← identifier
      dropBehavior

/-- A change of one column, from behind `ALTER`. -/
def columnChange : Reader Unit := do
  may ["COLUMN"]
  let _ ← identifier
  let postgres := (← flavor) == .postgres
  if ← eitherKeys [["SET", "NOT", "NULL"], ["DROP", "NOT", "NULL"], ["DROP", "DEFAULT"]] then return
  else if ← keys ["SET", "DEFAULT"] then let _ ← r.any
  else if ← eitherKeys [["SET", "DATA", "TYPE"], ["TYPE"]] then
    let _ ← typeName r
    if ← keysIf postgres ["USING"] then let _ ← r.any
  else if ← keys ["ADD", "GENERATED"] then
    let _ ← eitherKeys [["ALWAYS"], ["BY", "DEFAULT"]]
    expectKeys ["AS", "IDENTITY"]
    if ← mark "(" then
      let _ ← sequenceOptions
      expectMark ")"
  else if postgres then
    expectedHere
      "SET/DROP NOT NULL, SET DEFAULT, SET DATA TYPE, or ADD GENERATED after ALTER COLUMN"
  else expectedHere "SET/DROP NOT NULL, SET DEFAULT, or SET DATA TYPE after ALTER COLUMN"

/-- Rules and triggers of a table switched off, from behind `DISABLE`. -/
def disabling : Reader Unit := do
  if ← keys ["ROW", "LEVEL", "SECURITY"] then return
  else if (← oneOf ["RULE", "TRIGGER"]).isSome then let _ ← identifier
  else expectedHere "ROW LEVEL SECURITY, RULE, or TRIGGER after DISABLE"

/-- Rules and triggers of a table switched on, from behind `ENABLE`. -/
def enabling : Reader Unit := do
  if ← keys ["ROW", "LEVEL", "SECURITY"] then return
  else if ← eitherKeys [["ALWAYS", "RULE"], ["ALWAYS", "TRIGGER"], ["REPLICA", "RULE"],
    ["REPLICA", "TRIGGER"], ["RULE"], ["TRIGGER"]] then let _ ← identifier
  else expectedHere "ALWAYS, REPLICA, ROW LEVEL SECURITY, RULE, or TRIGGER after ENABLE"

/-- What identifies a row elsewhere, from behind `REPLICA IDENTITY`. -/
def replicaIdentity : Reader Unit := do
  if (← oneOf ["NONE", "FULL", "DEFAULT"]).isSome then return
  else if ← keys ["USING", "INDEX"] then let _ ← identifier
  else expectedHere "NONE, FULL, DEFAULT, or USING INDEX index_name after REPLICA IDENTITY"

/-- Changes of a table that have no key word of their own in front: settings. -/
def settingChange : Reader Unit := do
  if ← settings r ["SET", "TBLPROPERTIES"] then return
  if ← settings r ["SET"] then return
  expectedHere ("ADD, RENAME, PARTITION, SWAP, DROP, REPLICA IDENTITY, SET, or SET TBLPROPERTIES "
    ++ "after ALTER TABLE")

/-- One change of a table. -/
def tableChange : Reader Unit := do
  match ← oneOf ["ADD", "RENAME", "DISABLE", "ENABLE"] with
  | some "ADD" => tableAddition r
  | some "RENAME" => tableRenaming
  | some "DISABLE" => disabling
  | some _ => enabling
  | none =>
    may ["CLEAR", "PROJECTION"]
    may ["MATERIALIZE", "PROJECTION"]
    match ← oneOf ["DROP", "PARTITION", "CHANGE", "MODIFY", "ALTER", "SWAP"] with
    | some "DROP" => tableRemoval r
    | some "PARTITION" =>
      partValues r
      expectKeys ["RENAME", "TO", "PARTITION"]
      partValues r
    | some "CHANGE" =>
      may ["COLUMN"]
      let _ ← identifier
      let _ ← identifier
      changedColumn r
    | some "MODIFY" =>
      may ["COLUMN"]
      let _ ← identifier
      changedColumn r
    | some "ALTER" => columnChange r
    | some _ =>
      expectKey "WITH"
      let _ ← objectName
    | none =>
      if ← keysIf ((← flavor) == .postgres) ["OWNER", "TO"] then owner
      else if ← keys ["CLUSTER", "BY"] then partValues r
      else if ← eitherKeys [["SUSPEND", "RECLUSTER"], ["RESUME", "RECLUSTER"]] then return
      else if ← key "LOCK" then changeLock
      else if ← key "ALGORITHM" then algorithm
      else if ← key "AUTO_INCREMENT" then
        let _ ← mark "="
        let _ ← signlessNumber
      else if ← keys ["REPLICA", "IDENTITY"] then replicaIdentity
      else if ← keys ["VALIDATE", "CONSTRAINT"] then let _ ← identifier
      else settingChange r

/-- Changes of a table, from behind `TABLE`. -/
def tableChanges : Reader Unit := do
  may ["IF", "EXISTS"]
  may ["ONLY"]
  let _ ← objectName
  if ← keys ["ON", "CLUSTER"] then let _ ← identifier
  let _ ← commaList (tableChange r)
  if ← eitherKeys [["LOCATION"], ["SET", "LOCATION"]] then let _ ← identifier

/-! ## Changes of other things -/

/-- A change of a view, from behind `VIEW`. -/
def viewChange : Reader Unit := do
  let _ ← objectName
  let _ ← optionalColumnList
  let _ ← settings r ["WITH"]
  expectKey "AS"
  let _ ← r.query

/-- A change of a type, from behind `TYPE`. -/
def typeChange : Reader Unit := do
  let _ ← objectName
  if ← keys ["RENAME", "TO"] then let _ ← identifier
  else if ← keys ["ADD", "VALUE"] then
    may ["IF", "NOT", "EXISTS"]
    let _ ← identifier
    if (← oneOf ["BEFORE", "AFTER"]).isSome then let _ ← identifier
  else if ← keys ["RENAME", "VALUE"] then
    let _ ← identifier
    expectKey "TO"
    let _ ← identifier
  else expectedHere "\x7bRENAME TO | \x7b RENAME | ADD \x7d VALUE\x7d"

/-- A change of an index, from behind `INDEX`. -/
def indexChange : Reader Unit := do
  let _ ← objectName
  unless ← key "RENAME" do expectedHere "RENAME after ALTER INDEX"
  unless ← key "TO" do expectedHere "TO after RENAME"
  let _ ← objectName

/-- A change of a schema, from behind `SCHEMA`. -/
def schemaChange : Reader Unit := do
  may ["IF", "EXISTS"]
  let _ ← objectName
  if startWith ["SET", "OPTIONS"] (← get) then
    let _ ← next
    let _ ← settings r ["OPTIONS"]
  else if ← keys ["SET", "DEFAULT", "COLLATE"] then let _ ← r.any
  else if ← keys ["ADD", "REPLICA"] then
    let _ ← identifier
    let _ ← settings r ["OPTIONS"]
  else if ← keys ["DROP", "REPLICA"] then let _ ← identifier
  else if ← keys ["RENAME", "TO"] then let _ ← objectName
  else if ← keys ["OWNER", "TO"] then owner
  else expectedHere "ALTER SCHEMA operation"

/-- A change of a role of SQL Server, from behind its name. -/
def serverRoleChange : Reader Unit := do
  if ← eitherKeys [["ADD", "MEMBER"], ["DROP", "MEMBER"]] then let _ ← identifier
  else if ← keys ["WITH", "NAME"] then
    unless ← mark "=" do expectedHere "= after WITH NAME "
    let _ ← identifier
  else expectedHere "'ADD' or 'DROP' or 'WITH NAME' after ALTER ROLE"

/-- A change of a role of PostgreSQL, from behind its name. -/
def postgresRoleChange : Reader Unit := do
  if ← keys ["IN", "DATABASE"] then passName
  if ← key "RENAME" then
    unless ← key "TO" do expectedHere "TO after RENAME"
    let _ ← identifier
  else if ← key "SET" then
    let _ ← objectName
    if ← keys ["FROM", "CURRENT"] then return
    unless ← equalsOrTo do expectedHere "'TO' or '=' or 'FROM CURRENT'"
    unless ← key "DEFAULT" do
      if (← attempt r.any).isNone then expectedHere "config value"
  else if ← key "RESET" then unless ← key "ALL" do let _ ← objectName
  else
    may ["WITH"]
    let before := (← get).length
    roleRest [] (before + 1)
    if (← get).length == before then expectedHere "option"

/-- A change of a role, from behind `ROLE`. -/
def roleChange : Reader Unit := do
  match ← flavor with
  | .postgres =>
    let _ ← identifier
    postgresRoleChange r
  | .sqlServer =>
    let _ ← identifier
    serverRoleChange
  | _ => refuse "ALTER ROLE is only support for PostgreSqlDialect, MsSqlDialect"

/-- A change of a policy, from behind `POLICY`. -/
def policyChange : Reader Unit := do
  let _ ← identifier
  expectKey "ON"
  let _ ← objectName
  if ← key "RENAME" then
    expectKey "TO"
    let _ ← identifier
  else
    if ← key "TO" then let _ ← commaList owner
    if ← key "USING" then let _ ← parens r.any
    if ← keys ["WITH", "CHECK"] then let _ ← parens r.any

/-- A change of a connector, from behind `CONNECTOR`. -/
def connectorChange : Reader Unit := do
  let _ ← identifier
  expectKey "SET"
  let _ ← settings r ["DCPROPERTIES"]
  if ← key "URL" then let _ ← literalString
  if ← key "OWNER" then
    let _ ← expectOneOf ["USER", "ROLE"]
    let _ ← identifier

/-- A change of a user, from behind `USER`. -/
def userChange : Reader Unit := do
  may ["IF", "EXISTS"]
  let _ ← identifier
  if ← keys ["RENAME", "TO"] then let _ ← identifier
  may ["RESET", "PASSWORD"]
  may ["ABORT", "ALL", "QUERIES"]
  if ← key "SET" then namedValues false [] ((← get).length + 1)
  if ← key "UNSET" then let _ ← commaList identifier

/-- A change of an operator, from behind `OPERATOR`. -/
def operatorChange : Reader Unit := do
  operatorPath
  let _ ← parens do
    unless ← key "NONE" do let _ ← typeName r
    expectMark ","
    typeName r
  if ← keys ["OWNER", "TO"] then owner
  else if ← keys ["SET", "SCHEMA"] then let _ ← objectName
  else if ← key "SET" then
    let _ ← parens (commaList do
      let _ ← identifier
      if ← mark "=" then unless ← key "NONE" do operatorPath)
  else expectedHere "OWNER TO, SET SCHEMA, or SET after ALTER OPERATOR"

/-- What the change statement can change. -/
def changed : List String :=
  ["VIEW", "TYPE", "TABLE", "INDEX", "ROLE", "POLICY", "CONNECTOR", "ICEBERG", "SCHEMA", "USER",
    "OPERATOR"]

/-- A change, from behind `ALTER`. -/
def alteration : Reader Unit := do
  match ← expectOneOf changed with
  | "VIEW" => viewChange r
  | "TYPE" => typeChange
  | "TABLE" => tableChanges r
  | "INDEX" => indexChange
  | "ROLE" => roleChange r
  | "POLICY" => policyChange r
  | "CONNECTOR" => connectorChange r
  | "ICEBERG" =>
    expectKey "TABLE"
    tableChanges r
  | "SCHEMA" => schemaChange r
  | "USER" => userChange
  | _ => operatorChange r

/-! ## Removal -/

/-- Things that are removed by name alone. -/
def removedByName : List (List String) :=
  [["TABLE"], ["VIEW"], ["MATERIALIZED", "VIEW"], ["INDEX"], ["ROLE"], ["SCHEMA"], ["DATABASE"],
    ["SEQUENCE"], ["STAGE"], ["TYPE"], ["USER"], ["STREAM"]]

/-- Things removed by name, from behind the word that says what they are. -/
def namedRemoval (role : Bool) : Reader Unit := do
  may ["IF", "EXISTS"]
  let _ ← commaList objectName
  let t ← peek
  let cascade ← key "CASCADE"
  let restrict ← key "RESTRICT"
  let purge ← key "PURGE"
  if cascade && restrict then refuseAt "Cannot specify both CASCADE and RESTRICT in DROP" t
  if role && (cascade || restrict || purge) then
    refuseAt "Cannot specify CASCADE, RESTRICT, or PURGE in DROP ROLE" t
  if ← key "ON" then let _ ← objectName

/-- An operator removed, from behind `OPERATOR`. -/
def operatorRemoval : Reader Unit := do
  if (← oneOf ["FAMILY", "CLASS"]).isSome then
    may ["IF", "EXISTS"]
    let _ ← commaList objectName
    expectKey "USING"
    let _ ← identifier
    dropBehavior
  else
    may ["IF", "EXISTS"]
    let _ ← commaList do
      operatorPath
      let _ ← parens do
        unless ← key "NONE" do let _ ← typeName r
        expectMark ","
        typeName r
    dropBehavior

/-- A removal, from behind `DROP`. -/
def removal : Reader Unit := do
  let _ ← keysIf ((← flavor) == .mysql) ["TEMPORARY"]
  let role ← atKey "ROLE"
  if ← eitherKeys removedByName then namedRemoval role
  else match ← oneOf ["FUNCTION", "POLICY", "CONNECTOR", "DOMAIN", "PROCEDURE", "SECRET", "TRIGGER",
    "EXTENSION", "OPERATOR"] with
  | some "OPERATOR" => operatorRemoval r
  | some word =>
    may ["IF", "EXISTS"]
    match word with
    | "FUNCTION" | "PROCEDURE" =>
      let _ ← commaList (functionSignature r)
      dropBehavior
    | "POLICY" =>
      let _ ← identifier
      expectKey "ON"
      let _ ← objectName
      dropBehavior
    | "CONNECTOR" => let _ ← identifier
    | "SECRET" =>
      let _ ← identifier
      if ← key "FROM" then let _ ← identifier
    | "TRIGGER" =>
      let _ ← objectName
      if ← key "ON" then let _ ← objectName
      dropBehavior
    | "EXTENSION" =>
      let _ ← commaList identifier
      dropBehavior
    | _ =>
      let _ ← objectName
      dropBehavior
  | none =>
    expectedHere ("CONNECTOR, DATABASE, EXTENSION, FUNCTION, INDEX, OPERATOR, POLICY, PROCEDURE, "
      ++ "ROLE, SCHEMA, SECRET, SEQUENCE, STAGE, TABLE, TRIGGER, TYPE, VIEW, MATERIALIZED VIEW or "
      ++ "USER after DROP")

end

end SchemaChart.Grammar
