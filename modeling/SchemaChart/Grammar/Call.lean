-- Calls of the strict grammar: arguments, orders, windows and intervals, which are printed back
-- while they are read.
import SchemaChart.Grammar.TypeName

namespace SchemaChart.Grammar

open Reader

/-! ## Fields of a date -/

/-- Names of the fields of a date or a time. -/
def dateFields : List String :=
  ["YEAR", "YEARS", "MONTH", "MONTHS", "WEEK", "WEEKS", "DAY", "DAYOFWEEK", "DAYOFYEAR", "DAYS",
    "DATE", "DATETIME", "HOUR", "HOURS", "MINUTE", "MINUTES", "SECOND", "SECONDS", "CENTURY",
    "DECADE", "DOY", "DOW", "EPOCH", "ISODOW", "ISOYEAR", "ISOWEEK", "JULIAN", "MICROSECOND",
    "MICROSECONDS", "MILLENIUM", "MILLENNIUM", "MILLISECOND", "MILLISECONDS", "NANOSECOND",
    "NANOSECONDS", "QUARTER", "TIME", "TIMEZONE", "TIMEZONE_ABBR", "TIMEZONE_HOUR",
    "TIMEZONE_MINUTE", "TIMEZONE_REGION"]

/-- Names that may follow an interval as its unit. -/
def intervalUnits : List String :=
  ["YEAR", "YEARS", "MONTH", "MONTHS", "WEEK", "WEEKS", "DAY", "DAYS", "HOUR", "HOURS", "MINUTE",
    "MINUTES", "SECOND", "SECONDS", "CENTURY", "DECADE", "DOW", "DOY", "EPOCH", "ISODOW", "ISOYEAR",
    "JULIAN", "MICROSECOND", "MICROSECONDS", "MILLENIUM", "MILLENNIUM", "MILLISECOND",
    "MILLISECONDS", "NANOSECOND", "NANOSECONDS", "QUARTER", "TIMEZONE", "TIMEZONE_HOUR",
    "TIMEZONE_MINUTE"]

/-- Reads the name of a field; PostgreSQL takes any name for one. -/
def dateField : Reader String := do
  let t ← next
  match t.token with
  | .word v q k =>
    if dateFields.contains k then return k
    else if (← flavor) == .postgres then return (Name.render ⟨v, q⟩)
    else expected "date/time field" t
  | .text .single v =>
    if (← flavor) == .postgres then return (Name.render ⟨v, some '\''⟩)
    else expected "date/time field" t
  | _ => expected "date/time field" t

/-! ## Orders -/

/-- Is a query ahead. -/
def atQuery : Reader Bool := atOneOf ["SELECT", "WITH"]

/-- A sort direction and the place of nulls, as text. -/
def orderOptions : Reader String := do
  let direction ← firstFlag [["ASC"], ["DESC"]]
  let nulls ← firstFlag [["NULLS", "FIRST"], ["NULLS", "LAST"]]
  return direction ++ nulls

section

variable (r : Nested)

/-- One key of an order. -/
def orderKey : Reader String := do
  let e ← r.anyText
  return e ++ (← orderOptions)

def orderKeys : Reader String := do return ", ".intercalate (← commaList (orderKey r))

/-- A collation behind an operand, which options of a column keep for themselves. -/
def collated (e : Expr) : Reader Expr := do
  if ← keysIf ((← context) != .column) ["COLLATE"] then
    return ⟨e.text ++ " COLLATE " ++ (← objectName), .other⟩
  else return e

/-! ## Intervals -/

/-- The rest of an interval behind its key word; `value` reads its value. -/
def intervalExpr (value : Reader Expr) : Reader Expr := do
  let mysql := (← flavor) == .mysql
  let v ← if mysql then r.any else value
  let unit ←
    if ← atOneOf intervalUnits then some <$> dateField
    else if mysql then refuseHere "INTERVAL requires a unit after the literal value"
    else pure none
  let start := "INTERVAL " ++ v.text ++ (match unit with | some u => " " ++ u | none => "")
  if unit == some "SECOND" then
    if ← mark "(" then
      let lead ← literalUint
      let fraction ← if ← mark "," then do pure (", " ++ toString (← literalUint)) else pure ""
      expectMark ")"
      return ⟨start ++ " (" ++ toString lead ++ fraction ++ ")", .other⟩
    else return ⟨start, .other⟩
  else
    let spaced (s : String) : String := if s.isEmpty then "" else " " ++ s
    let lead ← TypeText.optionalLength
    if ← key "TO" then
      let last ← dateField
      let fraction ← if last == "SECOND" then TypeText.optionalLength else pure ""
      return ⟨start ++ spaced lead ++ " TO " ++ last ++ spaced fraction, .other⟩
    else return ⟨start ++ spaced lead, .other⟩

/-! ## Arguments -/

/-- The parts of a name behind its first part, from a dot on. A star ends them; anything but a
name or a star is refused. -/
def starPath : Nat → Reader (List String × Bool)
  | 0 => return ([], false)
  | n + 1 => do
    if ← mark "." then
      let t ← next
      match t.token with
      | .word v q _ =>
        let (parts, star) ← starPath n
        return (Name.render ⟨v, q⟩ :: parts, star)
      | .text .single v =>
        let (parts, star) ← starPath n
        return (Name.render ⟨v, some '\''⟩ :: parts, star)
      | .mark "*" => return (["*"], true)
      | _ => expected "an identifier or a '*' after '.'" t
    else return ([], false)

/-- A star that may have a name before it, if one is ahead. A name is put back if no star ends
it. -/
def star? : Reader (Option Expr) := do
  let ts ← get
  let t ← next
  let named (first : Name) : Reader (Option Expr) := do
    let (parts, star) ← starPath ts.length
    if star then return some ⟨".".intercalate (first.render :: parts), .star⟩
    else
      set ts
      return none
  match t.token with
  | .mark "*" => return some ⟨"*", .star⟩
  | .word v q _ => named ⟨v, q⟩
  | .text .single v => named ⟨v, some '\''⟩
  | _ =>
    set ts
    return none

/-- An expression, or a star that may have a name before it. -/
def exprOrStar : Reader Expr := do
  match ← star? with
  | some e => return e
  | none => r.any

/-- The sign between the name of an argument and its value. -/
def argumentSign : Reader String := do
  let f ← flavor
  if ← key "VALUE" then return "VALUE"
  let t ← next
  match t.token with
  | .mark "=>" => if f == .sqlServer then expected "argument operator" t else return "=>"
  | .mark ":=" => if f == .postgres then return ":=" else expected "argument operator" t
  | .mark ":" =>
    if f == .postgres || f == .sqlServer then return ":" else expected "argument operator" t
  | _ => expected "argument operator" t

/-- One argument of a call, perhaps with a name. -/
def argument : Reader String := do
  let f ← flavor
  let named ← attempt do
    let name ← if f == .sqlServer || f == .postgres then r.anyText else Name.render <$> identifier
    let sign ← argumentSign
    let value ← exprOrStar r
    return name ++ " " ++ sign ++ " " ++ value.text
  match named with
  | some s => return s
  | none => Expr.text <$> exprOrStar r

/-- What a JSON function does with nulls. -/
def jsonNulls : Reader (List String) := do
  if ← keys ["ABSENT", "ON", "NULL"] then return ["ABSENT ON NULL"]
  else if ← keys ["NULL", "ON", "NULL"] then return ["NULL ON NULL"]
  else return []

/-- The type that a JSON function gives. -/
def jsonReturning : Reader (List String) := do
  if ← key "RETURNING" then return ["RETURNING " ++ (← typeName r).text] else return []

/-- `ALL` or `DISTINCT` before the arguments of a call. -/
def distinctWord : Reader String := do
  let t ← peek
  let all ← key "ALL"
  let distinct ← key "DISTINCT"
  if all && distinct then refuseAt "Cannot specify both ALL and DISTINCT" t
  else return if all then "ALL " else if distinct then "DISTINCT " else ""

/-- What a call that joins texts does when the result is too long. -/
def overflowClause : Reader (List String) := do
  if !(← keys ["ON", "OVERFLOW"]) then return []
  else if ← key "ERROR" then return ["ON OVERFLOW ERROR"]
  else
    expectKey "TRUNCATE"
    let filler ←
      match (← peek).token with
      | .word _ _ k =>
        if k == "WITH" || k == "WITHOUT" then pure ""
        else expectedHere "either filler, WITH, or WITHOUT in LISTAGG"
      | .text .double _ | .text .bits _ | .text .doubleBits _ =>
        expectedHere "either filler, WITH, or WITHOUT in LISTAGG"
      | .text .. => do pure (" " ++ (← r.anyText))
      | _ => expectedHere "either filler, WITH, or WITHOUT in LISTAGG"
    let counted ←
      match ← oneOf ["WITH", "WITHOUT"] with
      | some k => pure k
      | none => expectedHere "either WITH or WITHOUT in LISTAGG"
    expectKey "COUNT"
    return ["ON OVERFLOW TRUNCATE" ++ filler ++ " " ++ counted ++ " COUNT"]

/-- The arguments of a call, from behind the opening parenthesis to behind the closing one. -/
def arguments : Reader String := do
  let early := (← jsonNulls) ++ (← jsonReturning r)
  if ← mark ")" then return "(" ++ " ".intercalate early ++ ")"
  let distinct ← distinctWord
  let args ← commaList (argument r)
  let order ← if ← keys ["ORDER", "BY"] then do pure ["ORDER BY " ++ (← orderKeys r)] else pure []
  let limit ← if ← key "LIMIT" then do pure ["LIMIT " ++ (← r.anyText)] else pure []
  let separator ←
    if ← keysIf ((← flavor) == .mysql) ["SEPARATOR"] then do
      pure ["SEPARATOR " ++ (← constant).text]
    else pure []
  let overflow ← overflowClause r
  let late := (← jsonNulls) ++ (← jsonReturning r)
  expectMark ")"
  let clauses := early ++ order ++ limit ++ separator ++ overflow ++ late
  let tail := if clauses.isEmpty then "" else " " ++ " ".intercalate clauses
  return "(" ++ distinct ++ ", ".intercalate args ++ tail ++ ")"

/-! ## Windows -/

/-- One end of the frame of a window. A string stands for an interval. -/
def frameBound : Reader String := do
  if ← keys ["CURRENT", "ROW"] then return "CURRENT ROW"
  let rows ←
    if ← key "UNBOUNDED" then pure "UNBOUNDED"
    else
      match (← peek).token with
      | .text .single _ => do
        let value : Reader Expr := do collated ⟨(← constant).text, .other⟩
        Expr.text <$> intervalExpr r value
      | _ => r.anyText
  match ← oneOf ["PRECEDING", "FOLLOWING"] with
  | some k => return rows ++ " " ++ k
  | none => expectedHere "PRECEDING or FOLLOWING"

/-- The frame of a window. -/
def windowFrame : Reader String := do
  let t ← next
  match ["ROWS", "RANGE", "GROUPS"].find? t.token.isKey with
  | none => expected "ROWS, RANGE, GROUPS" t
  | some unit =>
    if ← key "BETWEEN" then
      let low ← frameBound r
      expectKey "AND"
      return unit ++ " BETWEEN " ++ low ++ " AND " ++ (← frameBound r)
    else return unit ++ " " ++ (← frameBound r)

/-- A window, from behind its opening parenthesis to behind the closing one. -/
def windowSpec : Reader String := do
  let name ←
    match (← peek).token with
    | .word _ _ k => if keyWords.contains k then pure [] else do pure [(← identifier).render]
    | _ => pure []
  let parts ←
    if ← keys ["PARTITION", "BY"] then do pure ["PARTITION BY " ++ (← r.list)] else pure []
  let order ← if ← keys ["ORDER", "BY"] then do pure ["ORDER BY " ++ (← orderKeys r)] else pure []
  let frame ←
    if ← mark ")" then pure []
    else do
      let frame ← windowFrame r
      expectMark ")"
      pure [frame]
  return "(" ++ " ".intercalate (name ++ parts ++ order ++ frame) ++ ")"

/-! ## Calls -/

/-- The condition on the rows that a call takes in. Words that start one and do not go on are
passed over. -/
def filterClause : Reader String := do
  let f ← flavor
  if !(← keysIf (f == .postgres || f == .sqlite) ["FILTER"]) then return ""
  else if !(← mark "(") then return ""
  else if !(← key "WHERE") then return ""
  else
    let e ← r.anyText
    expectMark ")"
    return " FILTER (WHERE " ++ e ++ ")"

/-- A call, from its opening parenthesis on. -/
def call (name : String) : Reader Expr := do
  expectMark "("
  let args ← arguments r
  let within ←
    if ← keys ["WITHIN", "GROUP"] then do
      let order ← parens do
        expectKeys ["ORDER", "BY"]
        orderKeys r
      pure (" WITHIN GROUP (ORDER BY " ++ order ++ ")")
    else pure ""
  let filter ← filterClause r
  let nulls ←
    match ← oneOf ["RESPECT", "IGNORE"] with
    | some k => do
      expectKey "NULLS"
      pure (" " ++ k ++ " NULLS")
    | none => pure ""
  let window ←
    if ← key "OVER" then
      if ← mark "(" then do pure (" OVER " ++ (← windowSpec r))
      else do pure (" OVER " ++ (← identifier).render)
    else pure ""
  return ⟨name ++ args ++ within ++ filter ++ nulls ++ window, .other⟩

end

end SchemaChart.Grammar
