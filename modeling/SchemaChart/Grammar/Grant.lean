-- Statements of the strict grammar that grant, deny and take back privileges.
import SchemaChart.Grammar.Alter

namespace SchemaChart.Grammar

open Reader

/-! ## Privileges -/

/-- Privileges of several words or of one word that take nothing behind them. -/
def plainPrivileges : List (List String) :=
  [["IMPORTED", "PRIVILEGES"], ["ADD", "SEARCH", "OPTIMIZATION"], ["ATTACH", "LISTING"],
    ["ATTACH", "POLICY"], ["BIND", "SERVICE", "ENDPOINT"], ["EVOLVE", "SCHEMA"],
    ["IMPORT", "SHARE"], ["MANAGE", "VERSIONS"], ["MANAGE", "RELEASES"],
    ["OVERRIDE", "SHARE", "RESTRICTIONS"], ["PURCHASE", "DATA", "EXCHANGE", "LISTING"],
    ["RESOLVE", "ALL"], ["READ", "SESSION"], ["APPLYBUDGET"], ["AUDIT"], ["CONNECT"], ["DELETE"],
    ["FAILOVER"], ["OPERATE"], ["READ"], ["REPLICATE"], ["TEMPORARY"], ["TRIGGER"], ["TRUNCATE"],
    ["USAGE"], ["OWNERSHIP"], ["DROP"]]

/-- Privileges that may be limited to columns. -/
def columnPrivileges : List String := ["INSERT", "REFERENCES", "SELECT", "UPDATE"]

/-- What a privilege may be about, by its first word. -/
def privilegeTopics : List (String × List (List String)) :=
  [("CREATE", [["APPLICATION", "PACKAGE"], ["COMPUTE", "POOL"], ["DATA", "EXCHANGE", "LISTING"],
      ["EXTERNAL", "VOLUME"], ["FAILOVER", "GROUP"], ["NETWORK", "POLICY"],
      ["ORGANIZATION", "LISTING"], ["REPLICATION", "GROUP"], ["ACCOUNT"], ["APPLICATION"],
      ["DATABASE"], ["INTEGRATION"], ["ROLE"], ["SCHEMA"], ["SHARE"], ["USER"], ["WAREHOUSE"]]),
    ("EXEC", [["DATA", "METRIC", "FUNCTION"], ["MANAGED", "ALERT"], ["MANAGED", "TASK"], ["TASK"]]),
    ("EXECUTE", [["DATA", "METRIC", "FUNCTION"], ["MANAGED", "ALERT"], ["MANAGED", "TASK"],
      ["TASK"]]),
    ("MODIFY", [["LOG", "LEVEL"], ["TRACE", "LEVEL"], ["SESSION", "LOG", "LEVEL"],
      ["SESSION", "TRACE", "LEVEL"]]),
    ("MONITOR", [["EXECUTION"], ["SECURITY"], ["USAGE"]])]

/-- What a privilege must be about, by its first word. -/
def requiredTopics : List (String × List (List String)) :=
  [("APPLY", [["AGGREGATION", "POLICY"], ["AUTHENTICATION", "POLICY"], ["JOIN", "POLICY"],
      ["MASKING", "POLICY"], ["PACKAGES", "POLICY"], ["PASSWORD", "POLICY"],
      ["PROJECTION", "POLICY"], ["ROW", "ACCESS", "POLICY"], ["SESSION", "POLICY"], ["TAG"]]),
    ("MANAGE", [["ACCOUNT", "SUPPORT", "CASES"], ["EVENT", "SHARING"], ["GRANTS"],
      ["LISTING", "AUTO", "FULFILLMENT"], ["ORGANIZATION", "SUPPORT", "CASES"],
      ["USER", "SUPPORT", "CASES"], ["WAREHOUSES"]])]

/-- One privilege. -/
def privilege : Reader Unit := do
  if ← eitherKeys plainPrivileges then return
  else if ← eitherKeys [["DATABASE", "ROLE"], ["ROLE"]] then let _ ← objectName
  else if (← oneOf columnPrivileges).isSome then let _ ← optionalColumnList
  else
    match ← oneOf (privilegeTopics.map (·.1)) with
    | some k => let _ ← eitherKeys ((privilegeTopics.lookup k).getD [])
    | none =>
      match ← oneOf (requiredTopics.map (·.1)) with
      | some k =>
        unless ← eitherKeys ((requiredTopics.lookup k).getD []) do
          expectedHere ("GRANT " ++ k ++ " type")
      | none => expectedHere "a privilege keyword"

/-! ## What they are about, and whom -/

/-- Objects that are named together by their schema, their database or their kind. -/
def objectGroups : List (List String) :=
  [["ALL", "TABLES", "IN", "SCHEMA"], ["ALL", "EXTERNAL", "TABLES", "IN", "SCHEMA"],
    ["ALL", "VIEWS", "IN", "SCHEMA"], ["ALL", "MATERIALIZED", "VIEWS", "IN", "SCHEMA"],
    ["ALL", "FUNCTIONS", "IN", "SCHEMA"], ["FUTURE", "SCHEMAS", "IN", "DATABASE"],
    ["FUTURE", "TABLES", "IN", "SCHEMA"], ["FUTURE", "EXTERNAL", "TABLES", "IN", "SCHEMA"],
    ["FUTURE", "VIEWS", "IN", "SCHEMA"], ["FUTURE", "MATERIALIZED", "VIEWS", "IN", "SCHEMA"],
    ["ALL", "SEQUENCES", "IN", "SCHEMA"], ["FUTURE", "SEQUENCES", "IN", "SCHEMA"],
    ["RESOURCE", "MONITOR"], ["COMPUTE", "POOL"], ["FAILOVER", "GROUP"], ["REPLICATION", "GROUP"],
    ["EXTERNAL", "VOLUME"]]

/-- A dotted name in which a star may stand for a part. -/
def starredName : Reader Unit := do
  let part : Reader Unit := do unless ← mark "*" do let _ ← identifier
  part
  let _ ← repeated do
    if ← mark "." then
      part
      return some ()
    else return none

/-- The objects that privileges are about, from behind `ON`. -/
def grantObjects (r : Nested) : Reader Unit := do
  if ← eitherKeys objectGroups then let _ ← commaList objectName
  else
    let kind ← oneOf ["SEQUENCE", "DATABASE", "SCHEMA", "TABLE", "VIEW", "WAREHOUSE", "INTEGRATION",
      "USER", "CONNECTION", "PROCEDURE", "FUNCTION", "TYPE", "DOMAIN"]
    let _ ← commaList starredName
    if kind == some "PROCEDURE" || kind == some "FUNCTION" then
      if ← mark "(" then
        let _ ← commaList0 (typeName r) ")"
        expectMark ")"

/-- Privileges and the objects they are about; tells whether objects were named. -/
def privileges (r : Nested) : Reader Bool := do
  if ← key "ALL" then may ["PRIVILEGES"]
  else let _ ← commaList privilege
  if ← key "ON" then
    grantObjects r
    return true
  else return false

/-- Those who are granted something. The kind of one holds for the next as well; the first
argument bounds their number. -/
def grantees (everyone : Bool) : Nat → Reader Unit
  | 0 => return
  | n + 1 => do
    let words :=
      if (← flavor) == .sqlServer then [["ROLE"], ["USER"], ["SHARE"], ["GROUP"]]
      else [["ROLE"], ["USER"], ["SHARE"], ["GROUP"], ["PUBLIC"]]
    let everyoneNow := words.contains ["PUBLIC"] && (← atKey "PUBLIC")
    let named ← eitherKeys
      (words ++ [["DATABASE", "ROLE"], ["APPLICATION", "ROLE"], ["APPLICATION"]])
    let everyone := everyoneNow || (everyone && !named)
    unless everyone do
      granteeName
      if ← mark ":" then let _ ← identifier
    if ← mark "," then grantees everyone n

/-- Those who are granted something. -/
def granteeList : Reader Unit := do grantees false ((← get).length + 1)

/-! ## Statements -/

/-- From behind `GRANT`. -/
def granting (r : Nested) : Reader Unit := do
  let _ ← privileges r
  expectKey "TO"
  granteeList
  may ["WITH", "GRANT", "OPTION"]
  let _ ← eitherKeys [["COPY", "CURRENT", "GRANTS"], ["REVOKE", "CURRENT", "GRANTS"]]
  if ← key "AS" then let _ ← identifier
  if ← keys ["GRANTED", "BY"] then let _ ← identifier

/-- From behind `DENY`. -/
def denying (r : Nested) : Reader Unit := do
  unless ← privileges r do refuseHere "DENY statements must specify an object"
  expectKey "TO"
  granteeList
  dropBehavior
  if ← key "AS" then let _ ← identifier

/-- From behind `REVOKE`. -/
def revoking (r : Nested) : Reader Unit := do
  let _ ← privileges r
  expectKey "FROM"
  granteeList
  if ← keys ["GRANTED", "BY"] then let _ ← identifier
  dropBehavior

end SchemaChart.Grammar
