-- Queries of the strict grammar, as they may stand inside expressions and behind a table
-- definition. Like expressions they are printed back while they are read.
import SchemaChart.Grammar.Change

namespace SchemaChart.Grammar

open Reader

section

variable (r : Nested)

/-! ## Set operations -/

/-- A table by its name as a query, from behind `TABLE`. Three tokens are taken, whether they
belong to the name or not. -/
def wholeTable : Reader String := do
  let first ← next
  let second ← next
  let third ← next
  match first.token, third.token with
  | .word v _ _, .word w _ _ =>
    return "TABLE " ++ v ++ (if second.token == .mark "." then "." ++ w else "")
  | .word v _ _, _ =>
    if second.token == .mark "." then expected "Table name" third else return "TABLE " ++ v
  | _, _ => expected (if second.token == .mark "." then "Schema name" else "Table name") first

/-- A query without set operations. -/
def queryOperand : Reader String := do
  if ← key "SELECT" then selectRule r
  else if ← mark "(" then
    let q ← r.query
    expectMark ")"
    return "(" ++ q ++ ")"
  else if ← key "VALUES" then valuesRule r
  else if ← key "TABLE" then wholeTable
  else expectedHere "SELECT, VALUES, or a subquery in the query body"

/-- A set operation ahead and how tightly it binds. -/
def setOperation : Reader (Option (String × Nat)) := do
  match (← peek).token with
  | .word _ _ "UNION" => return some ("UNION", 10)
  | .word _ _ "EXCEPT" => return some ("EXCEPT", 10)
  | .word _ _ "MINUS" => return some ("MINUS", 10)
  | .word _ _ "INTERSECT" => return some ("INTERSECT", 20)
  | _ => return none

/-- How a set operation treats equal rows and the names of columns. -/
def setQuantifier : Reader String :=
  firstFlag
    [["DISTINCT", "BY", "NAME"], ["BY", "NAME"], ["ALL", "BY", "NAME"], ["ALL"], ["DISTINCT"]]

/-- Selections combined by set operations; the first argument bounds their number. -/
def queryBody : Nat → Nat → Reader String
  | 0, _ => queryOperand r
  | n + 1, rank => do
    let first ← queryOperand r
    let more ← repeated do
      match ← setOperation with
      | some (word, ahead) =>
        if rank ≥ ahead then return none
        else
          let _ ← next
          let quantifier ← setQuantifier
          return some (" " ++ word ++ quantifier ++ " " ++ (← queryBody n ahead))
      | none => return none
    return first ++ String.join more

/-! ## Around the body -/

/-- Named queries before a query, from behind their key word. -/
def withRule : Reader String := do
  let recursive ← if ← key "RECURSIVE" then pure "RECURSIVE " else pure ""
  let kept : Reader String := do
    if (← flavor) == .postgres then firstFlag [["MATERIALIZED"], ["NOT", "MATERIALIZED"]]
    else return ""
  let item : Reader String := do
    let name ← identifier
    let columns ←
      if ← key "AS" then pure ""
      else do
        let columns ← aliasColumns r
        expectKey "AS"
        pure columns
    let materialized ← kept
    let q ← parens r.query
    let source ← clause ["FROM"] (Name.render <$> identifier)
    return name.render ++ columns ++ " AS" ++ materialized ++ " (" ++ q ++ ")" ++ source
  return "WITH " ++ recursive ++ ", ".intercalate (← commaList item) ++ " "

/-- How many rows are passed over, from behind `OFFSET`. -/
def offset : Reader String := do
  let e ← r.anyText
  return " OFFSET " ++ e ++ (← firstFlag [["ROW"], ["ROWS"]])

/-- The limits behind a query. An offset may come first and is printed last; a limit of all rows
is not printed. -/
def limitRule : Reader String := do
  let f ← flavor
  let early ← if ← key "OFFSET" then offset r else pure ""
  if !(← key "LIMIT") then return early
  let limit ← if ← key "ALL" then pure none else some <$> r.anyText
  match limit with
  | some e =>
    if ← markIf ((f == .mysql || f == .sqlite) && early.isEmpty) "," then
      return " LIMIT " ++ e ++ ", " ++ (← r.anyText)
    else
      let late ← if ← keysIf early.isEmpty ["OFFSET"] then offset r else pure early
      return " LIMIT " ++ e ++ late
  | none => if ← keysIf early.isEmpty ["OFFSET"] then offset r else return early

/-- How many rows are fetched. -/
def fetchRule : Reader String := do
  if !(← key "FETCH") then return ""
  let _ ← oneOf ["FIRST", "NEXT"]
  let quantity ←
    match ← oneOf ["ROW", "ROWS"] with
    | some _ => pure ""
    | none => do
      let n ← constant
      let percent ← flag ["PERCENT"]
      let _ ← oneOf ["ROW", "ROWS"]
      pure (n.text ++ percent ++ " ")
  let ties ← if ← key "ONLY" then pure false else keys ["WITH", "TIES"]
  return " FETCH FIRST " ++ quantity ++ "ROWS " ++ (if ties then "WITH TIES" else "ONLY")

/-- A name in parentheses that may be left out. -/
def elementName : Reader String := do
  if ← atMark "(" then return "('" ++ (← parens literalString) ++ "')" else return ""

/-- A result as XML, from behind `XML`. -/
def forXml : Reader String := do
  let shape ←
    match ← oneOf ["RAW", "AUTO", "EXPLICIT", "PATH"] with
    | some "RAW" => do pure (" RAW" ++ (← elementName))
    | some "PATH" => do pure (" PATH" ++ (← elementName))
    | some k => pure (" " ++ k)
    | none => refuse "Expected FOR XML [RAW | AUTO | EXPLICIT | PATH ]"
  let options ← repeated do
    if !(← mark ",") then return none
    else if ← key "ELEMENTS" then return some ", ELEMENTS"
    else if ← key "BINARY" then
      expectKey "BASE64"
      return some ", BINARY BASE64"
    else if ← key "ROOT" then return some (", ROOT('" ++ (← parens literalString) ++ "')")
    else if ← key "TYPE" then return some ", TYPE"
    else return some ""
  return " FOR XML" ++ shape ++ String.join options

/-- A result as JSON, from behind `JSON`. -/
def forJson : Reader String := do
  let shape ←
    match ← oneOf ["AUTO", "PATH"] with
    | some k => pure (" " ++ k)
    | none => refuse "Expected FOR JSON [AUTO | PATH ]"
  let options ← repeated do
    if !(← mark ",") then return none
    else if ← key "ROOT" then return some (", ROOT('" ++ (← parens literalString) ++ "')")
    else if ← key "INCLUDE_NULL_VALUES" then return some ", INCLUDE_NULL_VALUES"
    else if ← key "WITHOUT_ARRAY_WRAPPER" then return some ", WITHOUT_ARRAY_WRAPPER"
    else return some ""
  return " FOR JSON" ++ shape ++ String.join options

/-- A lock on the rows of a result, from behind `FOR`. -/
def lock : Reader String := do
  let k ← expectOneOf ["UPDATE", "SHARE"]
  let table ← clause ["OF"] objectName
  let wait ← firstFlag [["NOWAIT"], ["SKIP", "LOCKED"]]
  return " FOR " ++ k ++ table ++ wait

/-- Locks and the form of the result; a form comes last. The first argument bounds the number of
locks. -/
def forRule : Nat → Reader String
  | 0 => return ""
  | n + 1 => do
    if !(← key "FOR") then return ""
    else if ← key "XML" then forXml
    else if ← key "JSON" then forJson
    else if ← key "BROWSE" then return " FOR BROWSE"
    else
      let first ← lock
      return first ++ (← forRule n)

/-- Reads a query, or a change of rows in the place of one. -/
def queryRule : Reader String := do
  let named ← if ← key "WITH" then withRule r else pure ""
  if ← key "INSERT" then return named ++ (← insertion r "INSERT")
  else if ← key "UPDATE" then return named ++ (← update r)
  else if ← key "DELETE" then return named ++ (← deletion r)
  else if ← key "MERGE" then return named ++ (← merging r)
  else
    let body ← queryBody r ((← get).length + 1) 0
    let order ← clause ["ORDER", "BY"] (orderKeys r)
    let limits ← limitRule r
    let fetch ← fetchRule
    let form ← forRule ((← get).length + 1)
    return named ++ body ++ order ++ limits ++ fetch ++ form

end

end SchemaChart.Grammar
