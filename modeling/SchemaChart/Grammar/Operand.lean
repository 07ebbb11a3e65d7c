-- Operands of the strict grammar: constants, names, calls, groups, the expressions that start with
-- a key word of their own, and the access steps behind all of them.
import SchemaChart.Grammar.Call

namespace SchemaChart.Grammar

open Reader

section

variable (r : Nested)

/-! ## Words that start an expression of their own -/

def caseExpr : Reader Expr := do
  let operand ←
    if ← key "WHEN" then pure ""
    else do
      let e ← r.anyText
      expectKey "WHEN"
      pure (" " ++ e)
  let branch : Reader String := do
    let c ← r.anyText
    expectKey "THEN"
    return " WHEN " ++ c ++ " THEN " ++ (← r.anyText)
  let first ← branch
  let more ← repeated (after ["WHEN"] branch)
  let otherwise ← clause ["ELSE"] r.anyText
  expectKey "END"
  return ⟨"CASE" ++ operand ++ first ++ String.join more ++ otherwise ++ " END", .other⟩

def castExpr (name : String) : Reader Expr := do
  expectMark "("
  let e ← r.anyText
  expectKey "AS"
  let t ← typeName r
  let format ← clause ["FORMAT"] do
    let value ← constant
    return value.text ++ (← clause ["AT", "TIME", "ZONE"] (Constant.text <$> constant))
  expectMark ")"
  return ⟨name ++ "(" ++ e ++ " AS " ++ t.text ++ format ++ ")", .other⟩

/-- A conversion; SQL Server names the type before the value. -/
def convertExpr (name : String) : Reader Expr := do
  expectMark "("
  if (← flavor) == .sqlServer then
    let t ← typeName r
    expectMark ","
    let e ← r.anyText
    let styles ← if ← mark "," then do pure (", " ++ (← r.list)) else pure ""
    expectMark ")"
    return ⟨name ++ "(" ++ t.text ++ ", " ++ e ++ styles ++ ")", .other⟩
  else
    let e ← r.anyText
    if ← key "USING" then
      let charset ← objectName
      expectMark ")"
      return ⟨name ++ "(" ++ e ++ " USING " ++ charset ++ ")", .other⟩
    else
      expectMark ","
      let t ← typeName r
      let charset ← clause ["CHARACTER", "SET"] objectName
      expectMark ")"
      return ⟨name ++ "(" ++ e ++ ", " ++ t.text ++ charset ++ ")", .other⟩

def existsExpr (negated : Bool) : Reader Expr := do
  let q ← parens r.query
  return ⟨(if negated then "NOT EXISTS (" else "EXISTS (") ++ q ++ ")", .other⟩

def extractExpr : Reader Expr := do
  expectMark "("
  let field ← dateField
  unless ← key "FROM" do refuse "Expected 'FROM' or ','"
  let e ← r.anyText
  expectMark ")"
  return ⟨"EXTRACT(" ++ field ++ " FROM " ++ e ++ ")", .other⟩

/-- `CEIL` or `FLOOR`, to a field of a date or to a number of places. -/
def roundExpr (name : String) : Reader Expr := do
  expectMark "("
  let e ← r.anyText
  let field ←
    if ← key "TO" then do pure (" TO " ++ (← dateField))
    else if ← mark "," then do
      let isNumber := match (← peek).token with
        | .number .. => true
        | _ => false
      let c ← constant
      if isNumber then pure (", " ++ c.text) else refuse "Scale field can only be of number type"
    else pure ""
  expectMark ")"
  return ⟨name ++ "(" ++ e ++ field ++ ")", .other⟩

def positionExpr (name : String) : Reader Expr := do
  let rank := (← flavor).rank .between
  let special ← attempt do
    expectMark "("
    let e ← r.expr rank
    expectKey "IN"
    let whole ← r.anyText
    expectMark ")"
    return "POSITION(" ++ e.text ++ " IN " ++ whole ++ ")"
  match special with
  | some s => return ⟨s, .other⟩
  | none => call r name

def substringExpr (name : String) : Reader Expr := do
  expectMark "("
  let e ← r.anyText
  let special ← mark ","
  let start ← if special then do pure (", " ++ (← r.anyText)) else clause ["FROM"] r.anyText
  let length ←
    if (← key "FOR") then do pure ((if special then ", " else " FOR ") ++ (← r.anyText))
    else if (← mark ",") then do pure ((if special then ", " else " FOR ") ++ (← r.anyText))
    else pure ""
  expectMark ")"
  return ⟨name ++ "(" ++ e ++ start ++ length ++ ")", .other⟩

def overlayExpr : Reader Expr := do
  expectMark "("
  let e ← r.anyText
  expectKey "PLACING"
  let what ← r.anyText
  expectKey "FROM"
  let start ← r.anyText
  let length ← clause ["FOR"] r.anyText
  expectMark ")"
  return ⟨"OVERLAY(" ++ e ++ " PLACING " ++ what ++ " FROM " ++ start ++ length ++ ")", .other⟩

def trimExpr : Reader Expr := do
  expectMark "("
  let side ← match ← oneOf ["BOTH", "LEADING", "TRAILING"] with
    | some k => pure (k ++ " ")
    | none => pure ""
  let e ← r.anyText
  let whole ← clause ["FROM"] r.anyText
  if whole.isEmpty then let _ ← mark ","
  expectMark ")"
  return ⟨"TRIM(" ++ side ++ e ++ whole ++ ")", .other⟩

/-- The elements of an array, from behind its opening bracket. -/
def arrayExpr (start : String) : Reader Expr := do
  let es ← commaList0 r.anyText "]"
  expectMark "]"
  return ⟨start ++ "[" ++ ", ".intercalate es ++ "]", .other⟩

def notExpr : Reader Expr := do
  if ← key "EXISTS" then existsExpr r true
  else
    let e ← r.expr ((← flavor).rank .unaryNot)
    return ⟨"NOT " ++ e.text, .other⟩

/-- A full-text search of MySQL. -/
def matchExpr : Reader Expr := do
  let columns ← nameList
  expectKey "AGAINST"
  expectMark "("
  let value ← constant
  let expansion := ["WITH", "QUERY", "EXPANSION"]
  let language ← flag ["IN", "NATURAL", "LANGUAGE", "MODE"]
  let mode ←
    if language.isEmpty then firstFlag [["IN", "BOOLEAN", "MODE"], expansion]
    else do pure (language ++ (← flag expansion))
  expectMark ")"
  let target := "(" ++ value.text ++ mode ++ ")"
  return ⟨"MATCH (" ++ ", ".intercalate columns ++ ") AGAINST " ++ target, .other⟩

/-- Geometric types, which PostgreSQL puts before a constant. -/
def geometricNames : List String := ["POINT", "LINE", "LSEG", "BOX", "PATH", "POLYGON", "CIRCLE"]

/-- Reads on behind a word that may start an expression of its own; nothing if the word is not
such. `operand` reads an operand. -/
def byKeyWord (operand : Reader Expr) (w : Name) (k : String) : Reader (Option Expr) := do
  let f ← flavor
  match k with
  | "TRUE" | "FALSE" =>
    if f == .sqlServer then return none
    else return some ⟨if k == "TRUE" then "true" else "false", .other⟩
  | "NULL" => return some ⟨"NULL", .other⟩
  | "CURRENT_CATALOG" | "CURRENT_USER" | "SESSION_USER" | "USER" =>
    if f == .postgres then return some ⟨w.render, .other⟩ else return none
  | "CURRENT_TIMESTAMP" | "CURRENT_TIME" | "CURRENT_DATE" | "LOCALTIME" | "LOCALTIMESTAMP" =>
    if ← mark "(" then return some ⟨w.render ++ (← arguments r), .other⟩
    else return some ⟨w.render, .other⟩
  | "CASE" => some <$> caseExpr r
  | "CONVERT" => some <$> convertExpr r "CONVERT"
  | "TRY_CONVERT" => if f == .sqlServer then some <$> convertExpr r "TRY_CONVERT" else return none
  | "CAST" | "TRY_CAST" | "SAFE_CAST" => some <$> castExpr r k
  | "EXISTS" => some <$> existsExpr r false
  | "EXTRACT" => some <$> extractExpr r
  | "CEIL" | "FLOOR" => some <$> roundExpr r k
  | "POSITION" => if ← atMark "(" then some <$> positionExpr r w.render else return none
  | "SUBSTR" | "SUBSTRING" => some <$> substringExpr r k
  | "OVERLAY" => some <$> overlayExpr r
  | "TRIM" => some <$> trimExpr r
  | "INTERVAL" => some <$> intervalExpr r operand
  | "ARRAY" =>
    if ← mark "[" then some <$> arrayExpr r "ARRAY"
    else if ← atMark "(" then return some ⟨w.render ++ "(" ++ (← parens r.query) ++ ")", .other⟩
    else return none
  | "NOT" => some <$> notExpr r
  | "MATCH" => if f == .mysql then some <$> matchExpr else return none
  | "PRIOR" =>
    if (← context) == .hierarchy then
      let e ← r.expr (f.rank .plus)
      return some ⟨"PRIOR " ++ e.text, .other⟩
    else return none
  | _ =>
    if f == .postgres && geometricNames.contains k then
      let c ← constant
      return some ⟨String.ofList (k.toList.map Char.toLower) ++ " " ++ c.text, .other⟩
    else return none

/-- Is the mark ahead that SQL Server puts behind a column of an outer join. -/
def atOuterMark : Reader Bool := do
  return (← flavor) == .sqlServer
    && ((← get).take 3).map Located.token == [.mark "(", .mark "+", .mark ")"]

/-- Reads on behind a word that is a name: a call, a string with its character set, or the name
alone. -/
def byName (w : Name) : Reader Expr := do
  let introduced (text : String) : Reader Expr := do
    if w.value.startsWith "_" then
      let _ ← next
      return ⟨w.render ++ " " ++ text, .other⟩
    else return ⟨w.render, .name⟩
  match (← peek).token with
  | .mark "(" => if ← atOuterMark then return ⟨w.render, .name⟩ else call r w.render
  | .text .single v => introduced (quoteText '\'' v)
  | .text .double v => introduced (quoteText '"' v)
  | .text .hex v => introduced ("X'" ++ v ++ "'")
  | _ => return ⟨w.render, .name⟩

/-- Words that cannot fall back to being a name. -/
def neverName (k : String) : Bool := ["EXISTS", "INTERVAL", "STRUCT", "TRIM"].contains k

/-! ## Operands -/

/-- A call or a date between braces. -/
def braceExpr (start : Located) : Reader Expr := do
  let function ← attempt do
    expectKey "FN"
    let name ← objectName
    return "\x7bfn " ++ (← call r name).text ++ "\x7d"
  let body ← match function with
    | some s => pure (some s)
    | none => attempt do
      let t ← next
      let word := t.token.render
      if ["d", "t", "ts"].contains word then
        return "\x7b" ++ word ++ " " ++ (← constant).text ++ "\x7d"
      else refuse "no date"
  match body with
  | some s =>
    expectMark "\x7d"
    return ⟨s, .other⟩
  | none => expected "an expression" start

/-- A constant behind the type it has. `operand` reads the value of an interval. -/
def typedConstant (operand : Reader Expr) : Reader Expr := do
  let t ← typeName r
  match t.kind with
  | .interval => intervalExpr r operand
  | .custom => refuse "a custom type"
  | .known => return ⟨t.text ++ " " ++ (← constant).text, .other⟩

/-- An operand that starts with a sign. -/
def signed (sign : String) (rank : Rank) : Reader Expr := do
  let e ← r.expr ((← flavor).rank rank)
  return ⟨sign ++ e.text, .other⟩

/-- A query or expressions, from behind an opening parenthesis. -/
def group : Reader Expr := do
  let e : Expr ←
    if ← atQuery then do pure ⟨"(" ++ (← r.query) ++ ")", .query⟩
    else do pure ⟨"(" ++ (← r.list) ++ ")", .other⟩
  expectMark ")"
  return e

/-- An operand that starts with a word. Where the word fails as the start of an expression of its
own it may still be a name, which then takes no collation; the answer tells whether it may. -/
def wordOperand (operand : Reader Expr) (w : Name) (k : String) : Reader (Expr × Bool) := do
  match ← attemptOr (byKeyWord r operand w k) with
  | .ok (some e) => return (e, true)
  | .ok none => return (← byName r w, true)
  | .error failure =>
    if neverName k then throw failure
    else match ← attemptOr (byName r w) with
      | .ok e => return (e, false)
      | .error _ => throw failure

/-- An operand that starts with a mark. -/
def markOperand (t : Located) (s : String) : Reader Expr := do
  let f ← flavor
  match s with
  | "[" => arrayExpr r ""
  | "-" | "+" => signed r s .times
  | "~" => signed r s .plus
  | "(" => group r
  | "\x7b" => braceExpr r t
  | _ =>
    if f == .postgres && ["!!", "|/", "||/", "@"].contains s then signed r s .plus
    else if f == .postgres && ["#", "@-@", "@@", "?-", "?|"].contains s then
      signed r (s ++ " ") .plus
    else if s == ":" || s == "@" then
      modify (t :: ·)
      return ⟨(← constant).text, .other⟩
    else expected "an expression" t

/-- Reads an operand: a constant, a name, a call, a group, or one with a sign before it. The
first argument bounds how many intervals may stand in a row. -/
def operandFrom : Nat → Reader Expr
  | 0 => refuse "an expression nests too deep"
  | n + 1 => do
    match ← attempt (typedConstant r (operandFrom n)) with
    | some e => return e
    | none =>
      let t ← next
      let literal : Reader Expr := do
        modify (t :: ·)
        return ⟨(← constant).text, .other⟩
      match t.token with
      | .word v q k =>
        let (e, collatable) ← wordOperand r (operandFrom n) ⟨v, q⟩ k
        if collatable then collated e else return e
      | .mark s => collated (← markOperand r t s)
      | .text .escaped _ =>
        if (← flavor) == .postgres then collated (← literal) else expected "an expression" t
      | .number .. | .text .. | .dollar .. | .placeholder _ => collated (← literal)
      | _ => expected "an expression" t

/-- Reads an operand. -/
def operand : Reader Expr := do operandFrom r ((← get).length + 1)

/-! ## Access behind an operand -/

/-- What stands between the brackets of a subscript, with the brackets: an index, or a slice with
up to three bounds. -/
def subscript : Reader String := do
  let lower ← if ← mark ":" then pure none else some <$> r.anyText
  match lower with
  | some e =>
    if ← mark "]" then return "[" ++ e ++ "]"
    else
      expectMark ":"
      upperBound e
  | none => if ← mark "]" then return "[:]" else upperBound ""
where
  upperBound (lower : String) : Reader String := do
    if ← mark "]" then return "[" ++ lower ++ ":]"
    else
      let upper ← r.anyText
      let both := "[" ++ lower ++ ":" ++ upper
      if ← mark "]" then return both ++ "]"
      else
        expectMark ":"
        if ← mark "]" then return both ++ "]"
        else
          let stride ← r.anyText
          expectMark "]"
          return both ++ ":" ++ stride ++ "]"

/-- The access steps behind an operand, and whether a star ended them. -/
def accessSteps : Nat → Reader (List Expr × Bool)
  | 0 => return ([], false)
  | n + 1 => do
    let goOn (step : Expr) : Reader (List Expr × Bool) := do
      let (steps, star) ← accessSteps n
      return (step :: steps, star)
    if ← atMark "." then
      match (← peekNth 1).token with
      | .mark "*" =>
        if (← flavor) == .postgres then
          modify (List.drop 2)
          return ([], true)
        else return ([], false)
      | .text .single v =>
        modify (List.drop 2)
        goOn ⟨"." ++ Name.render ⟨v, some '\''⟩, .name⟩
      | _ =>
        let _ ← next
        let e ← r.expr ((← flavor).rank .period)
        goOn ⟨"." ++ e.text, e.kind⟩
    else if ← mark "[" then goOn ⟨← subscript r, .other⟩
    else return ([], false)

/-- All access behind an operand that the tokens `before` start with. -/
def accessed (before : List Located) (e : Expr) : Reader Expr := do
  let (steps, star) ← accessSteps r ((← get).length + 1)
  let text := e.text ++ String.join (steps.map Expr.text)
  let names := e.kind == .name && steps.all (fun x => x.kind == .name || x.kind == .dotted)
  let last := (before.drop (before.length - (← get).length - 1)).headD Located.ending
  if star then
    if names then return ⟨text ++ ".*", .star⟩
    else expectedHere "an identifier or a '*' after '.'"
  else if ← atOuterMark then
    modify (List.drop 3)
    if names then return ⟨text ++ " (+)", .outer⟩
    else expected "column identifier before (+)" last
  else
    match steps with
    | [] => return e
    | [⟨_, .outer⟩] =>
      if e.kind == .name then return ⟨text, .outer⟩
      else refuseAt "column identifier before (+)" (before.headD Located.ending)
    | _ => return ⟨text, if names then .dotted else .other⟩

end

end SchemaChart.Grammar
