-- Tables of a query in the strict grammar: names, calls, queries in parentheses, and what is joined
-- to them. They are printed back while they are read.
import SchemaChart.Grammar.Operator

namespace SchemaChart.Grammar

open Reader

/-! ## Aliases -/

/-- Words that end a column of a result, so that they are not taken for its alias. -/
def notColumnAlias : List String :=
  ["WITH", "EXPLAIN", "ANALYZE", "SELECT", "WHERE", "GROUP", "SORT", "HAVING", "ORDER", "TOP",
    "LATERAL", "VIEW", "LIMIT", "OFFSET", "FETCH", "UNION", "EXCEPT", "INTERSECT", "MINUS",
    "CLUSTER", "DISTRIBUTE", "RETURNING", "FROM", "INTO", "END"]

/-- Words that end a table of a query, so that they are not taken for its alias. -/
def notTableAlias : List String :=
  ["WITH", "EXPLAIN", "ANALYZE", "SELECT", "WHERE", "GROUP", "SORT", "HAVING", "WINDOW", "ORDER",
    "PIVOT", "UNPIVOT", "TOP", "LATERAL", "VIEW", "LIMIT", "OFFSET", "FETCH", "UNION", "EXCEPT",
    "INTERSECT", "MINUS", "ON", "JOIN", "INNER", "CROSS", "FULL", "LEFT", "RIGHT", "NATURAL",
    "USING", "CLUSTER", "DISTRIBUTE", "GLOBAL", "ANTI", "SEMI", "RETURNING", "OUTPUT", "ASOF",
    "MATCH_CONDITION", "OUTER", "SET", "QUALIFY", "END", "FOR", "PARTITION", "PREWHERE", "SETTINGS",
    "FORMAT", "START", "CONNECT", "MATCH_RECOGNIZE", "SAMPLE", "TABLESAMPLE", "FROM", "OPEN"]

/-- The words that no alias may be, for columns. -/
def Flavor.notColumnAlias (f : Flavor) : List String :=
  if f == .sqlServer then "IF" :: "ELSE" :: Grammar.notColumnAlias else Grammar.notColumnAlias

/-- The words that no alias may be, for tables. -/
def Flavor.notTableAlias (f : Flavor) : List String :=
  if f == .mysql then "USE" :: "IGNORE" :: "FORCE" :: "STRAIGHT_JOIN" :: Grammar.notTableAlias
  else Grammar.notTableAlias

/-- An alias, with or without `AS` before it; the answer tells whether it was written. Behind `AS`
any word will do. -/
def alias? (reserved : List String) : Reader (Option (Name × Bool)) := do
  let written ← key "AS"
  let t ← peek
  match t.token with
  | .word v q k =>
    if written || !reserved.contains k then
      let _ ← next
      return some (⟨v, q⟩, written)
    else return none
  | .text .single v =>
    let _ ← next
    return some (⟨v, some '\''⟩, written)
  | .text .double v =>
    let _ ← next
    return some (⟨v, some '"'⟩, written)
  | _ => if written then expected "an identifier after AS" t else return none

section

variable (r : Nested)

/-- Columns that a table alias renames, perhaps with their types. -/
def aliasColumns : Reader String := do
  if ← mark "(" then
    let names ← commaList do
      let n ← identifier
      let t ← attempt (typeName r)
      return n.render ++ (match t with | some t => " " ++ t.text | none => "")
    expectMark ")"
    return " (" ++ ", ".intercalate names ++ ")"
  else return ""

/-- The alias of a table, with a space before it. -/
def tableAlias : Reader String := do
  match ← alias? (← flavor).notTableAlias with
  | some (a, written) =>
    return (if written then " AS " else " ") ++ a.render ++ (← aliasColumns r)
  | none => return ""

/-! ## Tables made of something else -/

/-- What is done when a JSON column is empty or wrong. -/
def jsonHandling : Reader (Option (Bool × String)) := do
  let value ←
    if ← key "NULL" then pure (some "NULL")
    else if ← key "ERROR" then pure (some "ERROR")
    else if ← key "DEFAULT" then do pure (some ("DEFAULT " ++ (← constant).text))
    else pure none
  match value with
  | none => return none
  | some v =>
    expectKey "ON"
    if ← key "EMPTY" then return some (true, v)
    else
      expectKey "ERROR"
      return some (false, v)

/-- A column of a JSON table; the first argument bounds how deep columns nest. -/
def jsonColumn : Nat → Reader String
  | 0 => refuse "columns nest too deep"
  | n + 1 => do
    if ← key "NESTED" then
      let _ ← key "PATH"
      let path ← constant
      expectKey "COLUMNS"
      let columns ← parens (commaList (jsonColumn n))
      return "NESTED PATH " ++ path.text ++ " COLUMNS (" ++ ", ".intercalate columns ++ ")"
    let name ← identifier
    if ← key "FOR" then
      expectKey "ORDINALITY"
      return name.render ++ " FOR ORDINALITY"
    let t ← typeName r
    let test ← flag ["EXISTS"]
    expectKey "PATH"
    let path ← constant
    let handlings ← repeated jsonHandling
    let last (empty : Bool) (word : String) : String :=
      match (handlings.filter (·.1 == empty)).getLast? with
      | some (_, v) => " " ++ v ++ " ON " ++ word
      | none => ""
    return name.render ++ " " ++ t.text ++ test ++ " PATH " ++ path.text ++ last true "EMPTY"
      ++ last false "ERROR"

/-- A table made of a JSON text, from behind the opening parenthesis. -/
def jsonTable : Reader String := do
  let e ← r.anyText
  expectMark ","
  let path ← constant
  expectKey "COLUMNS"
  let columns ← parens do commaList (jsonColumn r ((← get).length + 1))
  expectMark ")"
  return "JSON_TABLE(" ++ e ++ ", " ++ path.text ++ " COLUMNS(" ++ ", ".intercalate columns ++ "))"
    ++ (← tableAlias r)

/-- The rows of a JSON text, from behind the opening parenthesis. -/
def openJson : Reader String := do
  let e ← r.anyText
  let path ← if ← mark "," then do pure (", " ++ (← constant).text) else pure ""
  expectMark ")"
  let column : Reader String := do
    let name ← identifier
    let t ← typeName r
    let path ←
      match (← peek).token with
      | .text .single v => do
        let _ ← next
        pure (" " ++ quoteText '\'' v)
      | _ => pure ""
    let whole ← if ← key "AS" then do
        expectKey "JSON"
        pure " AS JSON"
      else pure ""
    return name.render ++ " " ++ t.text ++ path ++ whole
  let columns ←
    if ← key "WITH" then do
      let cs ← parens (commaList column)
      pure (" WITH (" ++ ", ".intercalate cs ++ ")")
    else pure ""
  return "OPENJSON(" ++ e ++ path ++ ")" ++ columns ++ (← tableAlias r)

/-- A table made of an XML text, from behind the opening parenthesis. -/
def xmlTable : Reader String := do
  let space : Reader String := do
    let e ← r.anyText
    expectKey "AS"
    return e ++ " AS " ++ (← identifier).render
  let spaces ←
    if ← key "XMLNAMESPACES" then do
      let items ← parens (commaList space)
      expectMark ","
      pure ("XMLNAMESPACES(" ++ ", ".intercalate items ++ "), ")
    else pure ""
  let row ← r.anyText
  let passed : Reader String := do
    let how ← if ← keys ["BY", "VALUE"] then pure "BY VALUE " else pure ""
    let e ← r.anyText
    return how ++ e ++ (← clause ["AS"] (Name.render <$> identifier))
  let passing ← clause ["PASSING"] do return ", ".intercalate (← commaList passed)
  expectKey "COLUMNS"
  let column : Reader String := do
    let name ← identifier
    if ← keys ["FOR", "ORDINALITY"] then return name.render ++ " FOR ORDINALITY"
    let t ← typeName r
    let path ← clause ["PATH"] r.anyText
    let default ← clause ["DEFAULT"] r.anyText
    let notNull ← flag ["NOT", "NULL"]
    if notNull.isEmpty then may ["NULL"]
    return name.render ++ " " ++ t.text ++ path ++ default ++ notNull
  let columns ← commaList column
  expectMark ")"
  return "XMLTABLE(" ++ spaces ++ row ++ passing ++ " COLUMNS " ++ ", ".intercalate columns ++ ")"
    ++ (← tableAlias r)

/-- The elements of arrays as rows, from behind `UNNEST`. -/
def unnested : Reader String := do
  let arrays ← parens r.list
  let numbered ← flag ["WITH", "ORDINALITY"]
  let name ← tableAlias r
  let counted ← if ← key "WITH" then key "OFFSET" else pure false
  let offset ←
    if counted then
      match ← alias? notColumnAlias with
      | some (a, _) => pure (" WITH OFFSET AS " ++ a.render)
      | none => pure " WITH OFFSET"
    else pure ""
  return "UNNEST(" ++ arrays ++ ")" ++ numbered ++ name ++ offset

/-! ## What follows a table -/

/-- Which rows of a table are taken as a sample. -/
def sample : Reader String := do
  match ← oneOf ["TABLESAMPLE", "SAMPLE"] with
  | none => return ""
  | some word =>
    let method ← firstFlag [["BERNOULLI"], ["ROW"], ["SYSTEM"], ["BLOCK"]]
    let open_ ← mark "("
    let number : Reader String := do
      let t ← peek
      let c ← constant
      if c.numeric then return c.text else expected "literal number" t
    let (quantity, bucket) ←
      if ← keysIf open_ ["BUCKET"] then do
        let which ← number
        expectKeys ["OUT", "OF"]
        let total ← number
        let on ← clause ["ON"] r.anyText
        pure ("", " (BUCKET " ++ which ++ " OUT OF " ++ total ++ on ++ ")")
      else do
        let value ←
          match ← attempt r.anyText with
          | some e => pure e
          | none =>
            match (← next).token with
            | .word v _ _ => pure v
            | _ => refuseHere "Expecting number or byte length e.g. 100M"
        let unit ← firstFlag [["ROWS"], ["PERCENT"]]
        pure (if open_ then " (" ++ value ++ unit ++ ")" else " " ++ value ++ unit, "")
    if open_ then expectMark ")"
    let seed ←
      match ← oneOf ["REPEATABLE", "SEED"] with
      | some k => do pure (" " ++ k ++ " (" ++ (← parens number) ++ ")")
      | none => pure ""
    let offset ← clause ["OFFSET"] r.anyText
    return " " ++ word ++ method ++ quantity ++ seed ++ bucket ++ offset

/-- A hint of MySQL about the indexes of a table. -/
def indexHint : Reader (Option String) := do
  match ← oneOf ["USE", "IGNORE", "FORCE"] with
  | none => return none
  | some kind =>
    let word ← match ← oneOf ["INDEX", "KEY"] with
      | some k => pure k
      | none => expectedHere "expected to match USE/IGNORE/FORCE keyword"
    let purpose ←
      if ← key "FOR" then
        let purpose ← firstFlag [["JOIN"], ["ORDER", "BY"], ["GROUP", "BY"]]
        if purpose.isEmpty then
          expectedHere "expected to match FOR/ORDER BY/GROUP BY table hint in for clause"
        else pure (" FOR" ++ purpose)
      else pure ""
    let names ← parens (commaList0 identifier ")")
    return some (" " ++ kind ++ " " ++ word ++ purpose ++ " ("
      ++ ", ".intercalate (names.map Name.render) ++ ")")

/-- Hints in parentheses behind `WITH`, which may also start something else. -/
def tableHints : Reader String := do
  if (← atKey "WITH") && (← peekNth 1).token == .mark "(" then
    let _ ← next
    return " WITH (" ++ (← parens r.list) ++ ")"
  else return ""

/-- An expression, perhaps with an alias behind `AS`. -/
def exprWithAlias : Reader String := do
  let e ← r.anyText
  return e ++ (← clause ["AS"] (Name.render <$> identifier))

/-- Rows turned into columns, or columns into rows. -/
def pivot? : Reader (Option String) := do
  match ← oneOf ["PIVOT", "UNPIVOT"] with
  | none => return none
  | some "PIVOT" =>
    expectMark "("
    let aggregates ← commaList do
      match (← next).token with
      | .word v _ _ => do
        let e ← call r v
        return e.text ++ (← clause ["AS"] (Name.render <$> identifier))
      | _ => expectedHere "a function identifier"
    expectKey "FOR"
    let rank := (← flavor).rank .between
    let column ←
      if ← atMark "(" then do
        let columns ← listOf (Expr.text <$> r.expr rank)
        pure (match columns with
          | [c] => c
          | cs => "(" ++ ", ".intercalate cs ++ ")")
      else Expr.text <$> r.expr rank
    expectKey "IN"
    expectMark "("
    let values ←
      if ← key "ANY" then do pure ("ANY" ++ (← clause ["ORDER", "BY"] (orderKeys r)))
      else if ← atQuery then r.query
      else do pure (", ".intercalate (← commaList (exprWithAlias r)))
    expectMark ")"
    let default ←
      if ← keys ["DEFAULT", "ON", "NULL"] then do
        pure (" DEFAULT ON NULL (" ++ (← parens r.anyText) ++ ")")
      else pure ""
    expectMark ")"
    return some (" PIVOT(" ++ ", ".intercalate aggregates ++ " FOR " ++ column ++ " IN (" ++ values
      ++ ")" ++ default ++ ")" ++ (← tableAlias r))
  | some _ =>
    let nulls ← firstFlag [["INCLUDE", "NULLS"], ["EXCLUDE", "NULLS"]]
    expectMark "("
    let value ← r.anyText
    expectKey "FOR"
    let name ← identifier
    expectKey "IN"
    let columns ← listOf (exprWithAlias r)
    expectMark ")"
    return some (" UNPIVOT" ++ nulls ++ "(" ++ value ++ " FOR " ++ name.render ++ " IN ("
      ++ ", ".intercalate columns ++ "))" ++ (← tableAlias r))

/-- The arguments of a table that is a call, from behind the opening parenthesis. -/
def tableArguments : Reader String := do
  if ← mark ")" then return "()"
  let args ← commaList (argument r)
  expectMark ")"
  return "(" ++ ", ".intercalate args ++ ")"

/-- The version of a table that SQL Server reads, printed behind everything else. -/
def tableVersion : Reader String := do
  if (← flavor) != .sqlServer then return ""
  else if ← keys ["FOR", "SYSTEM_TIME", "AS", "OF"] then
    return " FOR SYSTEM_TIME AS OF " ++ (← r.anyText)
  else if ← atOneOf ["AT", "BEFORE"] then
    let name ← objectName
    return " " ++ (← call r name).text
  else return ""

/-- A table by its name. -/
def namedTable : Reader String := do
  let f ← flavor
  let name ← objectName
  let parts ←
    if ← keysIf (f == .mysql) ["PARTITION"] then do
      let names ← parens (commaList identifier)
      pure (" PARTITION (" ++ ", ".intercalate (names.map Name.render) ++ ")")
    else pure ""
  let version ← tableVersion r
  let args ← if ← mark "(" then tableArguments r else pure ""
  let numbered ← flag ["WITH", "ORDINALITY"]
  let other ← tableAlias r
  let indexes ←
    if f == .mysql then do pure ((← attempt (repeated indexHint)).getD []) else pure []
  let hints ← tableHints r
  let sampled ← sample r
  let pivots ← repeated (pivot? r)
  return name ++ parts ++ args ++ numbered ++ other ++ String.join indexes ++ hints ++ version
    ++ sampled ++ String.join pivots

/-! ## Joins -/

/-- A table as it is printed back; `nested` tells whether it is a join in parentheses. -/
structure Relation where
  text : String
  nested : Bool := false

/-- A query in parentheses as a table, from behind the opening parenthesis. -/
def derivedTable : Reader String := do
  let q ← r.query
  expectMark ")"
  return "(" ++ q ++ ")" ++ (← tableAlias r)

/-- What stands in parentheses where a table is asked for. `joined` reads a table and what is
joined to it, and tells whether anything is. -/
def groupedTable (joined : Reader (Relation × Bool)) : Reader Relation := do
  match ← attempt (derivedTable r) with
  | some q => return { text := q ++ String.join (← repeated (pivot? r)) }
  | none =>
    let (inner, more) ← joined
    if more || inner.nested then
      expectMark ")"
      return ⟨"(" ++ inner.text ++ ")" ++ (← tableAlias r), true⟩
    else expectedHere "joined table"

/-- One table of a query. -/
def tableFactor (joined : Reader (Relation × Bool)) : Reader Relation := do
  let f ← flavor
  let opens := (← peekNth 1).token == .mark "("
  let call? (k : String) : Reader Bool := do
    if opens && (← atKey k) then
      modify (List.drop 2)
      return true
    else return false
  if ← key "LATERAL" then
    if ← mark "(" then return { text := "LATERAL " ++ (← derivedTable r) }
    else
      let name ← objectName
      expectMark "("
      let args ← commaList0 (argument r) ")"
      expectMark ")"
      let call := name ++ "(" ++ ", ".intercalate args ++ ")"
      return { text := "LATERAL " ++ call ++ (← tableAlias r) }
  else if ← key "TABLE" then
    let e ← parens r.anyText
    return { text := "TABLE(" ++ e ++ ")" ++ (← tableAlias r) }
  else if ← mark "(" then groupedTable r joined
  else if ← keysIf (f == .postgres) ["UNNEST"] then return { text := ← unnested r }
  else if ← call? "JSON_TABLE" then return { text := ← jsonTable r }
  else if ← call? "OPENJSON" then return { text := ← openJson r }
  else if ← call? "XMLTABLE" then return { text := ← xmlTable r }
  else return { text := ← namedTable r }

/-- How one table is joined to the next. -/
inductive JoinKind where
  /-- A join that takes no condition. -/
  | free (word : String)
  | conditional (word : String)
  /-- A join of rows that are nearest to each other. -/
  | nearest

/-- What joins one table to the next, if anything does. -/
def joinKind? : Reader (Option JoinKind) := do
  let whole ← if ← key "GLOBAL" then pure "GLOBAL " else pure ""
  let f ← flavor
  if ← key "CROSS" then
    if ← key "JOIN" then
      return some (if f == .mysql then .conditional (whole ++ "CROSS JOIN")
        else .free (whole ++ "CROSS JOIN"))
    else if ← key "APPLY" then return some (.free (whole ++ "CROSS APPLY"))
    else expectedHere "JOIN or APPLY after CROSS"
  else if ← key "OUTER" then
    expectKey "APPLY"
    return some (.free (whole ++ "OUTER APPLY"))
  else if ← key "ASOF" then
    expectKey "JOIN"
    return some .nearest
  else
    let natural ← key "NATURAL"
    let found (word : String) : Reader (Option JoinKind) :=
      return some <|
        if natural then .free (whole ++ "NATURAL " ++ word) else .conditional (whole ++ word)
    let plain (word : String) : Reader (Option JoinKind) := do
      expectKey "JOIN"
      found (word ++ "JOIN")
    match ← oneOf ["INNER", "JOIN", "LEFT", "RIGHT", "ANTI", "SEMI", "FULL", "STRAIGHT_JOIN"] with
    | some "INNER" => plain "INNER "
    | some "JOIN" => found "JOIN"
    | some "ANTI" => plain "ANTI "
    | some "SEMI" => plain "SEMI "
    | some "FULL" =>
      may ["OUTER"]
      plain "FULL "
    | some "STRAIGHT_JOIN" => found "STRAIGHT_JOIN"
    | some side =>
      match ← oneOf ["OUTER", "SEMI", "ANTI", "JOIN"] with
      | some "JOIN" => found (side ++ " JOIN")
      | some k => plain (side ++ " " ++ k ++ " ")
      | none => refuse ("expected OUTER, SEMI, ANTI or JOIN after " ++ side)
    | none =>
      if ← atKey "OUTER" then expectedHere "LEFT, RIGHT, or FULL"
      else if natural then expectedHere "a join type after NATURAL"
      else return none

/-- The condition of a join. -/
def joinCondition : Reader String := do
  if ← key "ON" then return " ON " ++ (← r.anyText)
  else if ← key "USING" then return " USING(" ++ ", ".intercalate (← nameList) ++ ")"
  else return ""

/-- A table and everything joined to it, and whether anything is. The first argument bounds the
nesting of parentheses. -/
def joinedTables : Nat → Reader (Relation × Bool)
  | 0 => refuse "tables nest too deep"
  | n + 1 => do
    let first ← tableFactor r (joinedTables n)
    let more ← repeated do
      match ← joinKind? with
      | none => return none
      | some kind =>
        let t ← tableFactor r (joinedTables n)
        match kind with
        | .free word => return some (" " ++ word ++ " " ++ t.text)
        | .conditional word => return some (" " ++ word ++ " " ++ t.text ++ (← joinCondition r))
        | .nearest =>
          expectKey "MATCH_CONDITION"
          let e ← parens r.anyText
          return some (" ASOF JOIN " ++ t.text ++ " MATCH_CONDITION (" ++ e ++ ")"
            ++ (← joinCondition r))
    if more.isEmpty then return (first, false)
    else return ({ text := first.text ++ String.join more }, true)

/-- A table and everything joined to it. -/
def joinedTable : Reader String := do
  let (t, _) ← joinedTables r ((← get).length + 1)
  return t.text

/-- One table where no join may follow. -/
def oneTable : Reader String := do
  let n := (← get).length + 1
  return (← tableFactor r (joinedTables r n)).text

/-- Tables with commas between them. -/
def tables : Reader String := do return ", ".intercalate (← commaList (joinedTable r))

end

end SchemaChart.Grammar
