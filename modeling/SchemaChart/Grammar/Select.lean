-- Selections of the strict grammar: what is taken, from where, and how it is grouped; and rows that
-- are written out. They are printed back while they are read.
import SchemaChart.Grammar.Relation

namespace SchemaChart.Grammar

open Reader

section

variable (r : Nested)

/-! ## What is selected -/

/-- One column of a result. SQL Server may give the alias as the left side of an equation. -/
def selectItem : Reader String := do
  let f ← flavor
  let e ← exprOrStar r
  let withAlias : Reader String := do
    match ← alias? f.notColumnAlias with
    | some (a, _) => return e.text ++ " AS " ++ a.render
    | none => return e.text
  match e.kind with
  | .star => return e.text
  | .name =>
    if e.text.toList.map Char.toLower == "from".toList then
      refuseHere ("Expected an expression, found: " ++ e.text)
    else withAlias
  | .equation name value =>
    if f == .sqlServer then return value ++ " AS " ++ name else withAlias
  | _ => withAlias

def selectItems : Reader String := do return ", ".intercalate (← commaList (selectItem r))

/-- `ALL` or `DISTINCT` before the columns of a result. -/
def selectDistinct : Reader String := do
  let t ← peek
  let all ← key "ALL"
  let distinct ← key "DISTINCT"
  if !distinct then return ""
  else if all then refuseAt "Cannot specify both ALL and DISTINCT" t
  else if ← key "ON" then
    let columns ← parens (commaList0 r.anyText ")")
    return " DISTINCT ON (" ++ ", ".intercalate columns ++ ")"
  else return " DISTINCT"

/-- How many rows are taken from the top. -/
def selectTop : Reader String := do
  if !(← key "TOP") then return ""
  let quantity ←
    if ← mark "(" then do
      let e ← r.anyText
      expectMark ")"
      pure ("(" ++ e ++ ")")
    else do pure (toString (← literalUint))
  let percent ← flag ["PERCENT"]
  let ties ← flag ["WITH", "TIES"]
  return " TOP " ++ quantity ++ percent ++ ties

/-- The table that a result is put into, from behind `INTO`. -/
def selectInto : Reader String := do
  let temporary ← oneOf ["TEMP", "TEMPORARY"]
  let unlogged ← flag ["UNLOGGED"]
  let table ← flag ["TABLE"]
  let name ← objectName
  let kept := if temporary.isSome then " TEMPORARY" else ""
  return " INTO" ++ kept ++ unlogged ++ table ++ " " ++ name

/-- Rows made of the elements of a column. -/
def lateralView : Reader (Option String) := do
  if !(← keys ["LATERAL", "VIEW"]) then return none
  let outer ← flag ["OUTER"]
  let e ← r.anyText
  let name ← objectName
  let columns ← commaList (alias? ["WHERE", "GROUP", "CLUSTER", "HAVING", "LATERAL"])
  let names := columns.filterMap (fun c => c.map (fun (n, _) => n.render))
  let list := if names.isEmpty then "" else " AS " ++ ", ".intercalate names
  return some (" LATERAL VIEW" ++ outer ++ " " ++ e ++ " " ++ name ++ list)

/-! ## Groups -/

/-- A row of expressions in parentheses; one expression may stand for a row. -/
def groupRow : Reader (List String) := do
  if ← mark "(" then
    let es ← commaList0 r.anyText ")"
    expectMark ")"
    return es
  else return [← r.anyText]

/-- Rows of which one with a single expression has no parentheses. -/
def looseRows (rows : List (List String)) : String :=
  ", ".intercalate (rows.map fun
    | [e] => e
    | es => "(" ++ ", ".intercalate es ++ ")")

/-- Rows that all have parentheses. -/
def strictRows (rows : List (List String)) : String :=
  ", ".intercalate (rows.map (fun es => "(" ++ ", ".intercalate es ++ ")"))

/-- One key of a grouping; PostgreSQL has keys that stand for several groupings at once. -/
def groupKey : Reader String := do
  if (← flavor) != .postgres then r.anyText
  else if ← keys ["GROUPING", "SETS"] then
    let row : Reader (List String) := do
      expectMark "("
      let es ← commaList0 r.anyText ")"
      expectMark ")"
      return es
    return "GROUPING SETS (" ++ strictRows (← parens (commaList row)) ++ ")"
  else if ← key "CUBE" then
    return "CUBE (" ++ looseRows (← parens (commaList (groupRow r))) ++ ")"
  else if ← key "ROLLUP" then
    return "ROLLUP (" ++ looseRows (← parens (commaList (groupRow r))) ++ ")"
  else if (← atMark "(") && (← peekNth 1).token == .mark ")" then
    modify (List.drop 2)
    return "()"
  else r.anyText

/-- What is said about a grouping as a whole. -/
def groupModifier : Reader (Option String) := do
  if ← keysIf ((← flavor) == .mysql) ["WITH"] then
    return some (" WITH " ++ (← expectOneOf ["ROLLUP", "CUBE", "TOTALS"]))
  else return none

/-- A grouping. -/
def groupBy : Reader String := do
  if !(← keys ["GROUP", "BY"]) then return ""
  let groups ←
    if ← key "ALL" then pure "ALL" else do pure (", ".intercalate (← commaList (groupKey r)))
  let modifiers ← repeated groupModifier
  let sets ←
    if ← keys ["GROUPING", "SETS"] then do
      pure (" GROUPING SETS (" ++ strictRows (← parens (commaList (groupRow r))) ++ ")")
    else pure ""
  return " GROUP BY " ++ groups ++ String.join modifiers ++ sets

/-! ## Windows with names -/

/-- A window with a name. -/
def namedWindow : Reader String := do
  let name ← identifier
  expectKey "AS"
  if ← mark "(" then return name.render ++ " AS " ++ (← windowSpec r) else expectedHere "("

/-- Named windows and the condition on rows in windows, which may come in either order. -/
def windowClauses : Reader String := do
  let windows : Reader String :=
    clause ["WINDOW"] do return ", ".intercalate (← commaList (namedWindow r))
  let qualify : Reader String := clause ["QUALIFY"] r.anyText
  if ← atKey "WINDOW" then
    let first ← windows
    return first ++ (← qualify)
  else
    let first ← qualify
    if first.isEmpty then return "" else return first ++ (← windows)

/-! ## Hierarchies -/

/-- How the rows of a result form a hierarchy, which SQL Server may say in either order. -/
def hierarchyClause : Reader String := do
  let ties : Reader String := within .hierarchy r.list
  if (← flavor) != .sqlServer || !(← atOneOf ["START", "CONNECT"]) then return ""
  else if ← keys ["CONNECT", "BY"] then
    let rows ← ties
    expectKeys ["START", "WITH"]
    return " START WITH " ++ (← r.anyText) ++ " CONNECT BY " ++ rows
  else
    expectKeys ["START", "WITH"]
    let start ← r.anyText
    expectKeys ["CONNECT", "BY"]
    return " START WITH " ++ start ++ " CONNECT BY " ++ (← ties)

/-! ## Whole selections -/

/-- A selection, from behind its key word. -/
def selectRule : Reader String := do
  let distinct ← selectDistinct r
  let top ← selectTop r
  let items ←
    if (← flavor) == .postgres && (← atKey "FROM") then pure ""
    else do pure (" " ++ (← selectItems r))
  let into ← if ← key "INTO" then selectInto else pure ""
  let source ← clause ["FROM"] (tables r)
  let views ← repeated (lateralView r)
  let condition ← clause ["WHERE"] r.anyText
  let groups ← groupBy r
  let cluster ← clause ["CLUSTER", "BY"] r.list
  let distribute ← clause ["DISTRIBUTE", "BY"] r.list
  let sort ← clause ["SORT", "BY"] (orderKeys r)
  let having ← clause ["HAVING"] r.anyText
  let windows ← windowClauses r
  let hierarchy ← hierarchyClause r
  return "SELECT" ++ distinct ++ top ++ items ++ into ++ source ++ String.join views ++ condition
    ++ groups ++ cluster ++ distribute ++ sort ++ having ++ windows ++ hierarchy

/-- Rows that are written out, from behind their key word. If one of them is called a row, all
are printed so. -/
def valuesRule : Reader String := do
  let empty := (← flavor) == .mysql
  let rows ← commaList do
    let named ← key "ROW"
    let es ← parens (if empty then commaList0 r.anyText ")" else commaList r.anyText)
    return (named, "(" ++ ", ".intercalate es ++ ")")
  let word := if rows.any (·.1) then "ROW" else ""
  return "VALUES " ++ ", ".intercalate (rows.map (fun row => word ++ row.2))

end

end SchemaChart.Grammar
