-- Operators of the strict grammar and the expressions they build. How deep expressions may nest is
-- bounded by the readers for nested parts that every rule is given.
import SchemaChart.Grammar.Operand

namespace SchemaChart.Grammar

open Reader

/-- Operators that may stand before `ANY`, `ALL` and `SOME`. -/
def comparisons : List String :=
  [">", "<", ">=", "<=", "=", "<>", "~", "~*", "!~", "!~*", "~~", "~~*", "!~~", "!~~*"]

/-- Marks that are operators between two operands in PostgreSQL alone. -/
def postgresMarks : List String :=
  ["<<", ">>", "#", "&&", "^@", "@", "?-", "##", "&<", "&>", "<->", "&<|", "|&>", "<^", ">^", "?#",
    "?-|", "?||", "~=", "<<|", "|>>"]

/-- The printed form of a mark that is an operator between two operands here. -/
def binaryMark (f : Flavor) (s : String) : Option String :=
  if s == "==" then some "="
  else if [".", "::", "!", "[", ":", "(", ")", ",", ";", "=>"].contains s then none
  else if postgresMarks.contains s then if f == .postgres then some s else none
  else some s

/-- How a token is named when no rule takes it as an operator. -/
def tokenName : Token → String
  | .mark ":" => "Colon"
  | .mark "!" => "ExclamationMark"
  | .mark "[" => "LBracket"
  | .mark "<<" => "ShiftLeft"
  | .mark ">>" => "ShiftRight"
  | .mark "#" => "Sharp"
  | .mark "&&" => "Overlap"
  | .mark "^@" => "CaretAt"
  | .mark "@" => "AtSign"
  | .word v _ k => "Word(Word \x7b value: \"" ++ v ++ "\", quote_style: None, keyword: " ++ k
      ++ " \x7d)"
  | t => t.render

def noOperator (t : Located) : Reader α :=
  refuseAt ("No infix parser for token " ++ tokenName t.token) t

/-- The name of an operator in `OPERATOR(…)`. -/
def operatorName : Reader String := do
  expectMark "("
  let first ← next
  let more ← repeated do
    if ← mark "." then return some (← next).token.render else return none
  expectMark ")"
  return "OPERATOR(" ++ ".".intercalate (first.token.render :: more) ++ ")"

section

variable (r : Nested)

/-- The right side of `ANY`, `ALL` and `SOME`, with its parentheses. -/
def quantified (rank : Nat) : Reader String := do
  let start ← peek
  expectMark "("
  if ← atQuery then
    modify (start :: ·)
    let e ← r.expr rank
    return if e.kind == .query then e.text else "(" ++ e.text ++ ")"
  else
    let e ← r.expr rank
    expectMark ")"
    return if e.kind == .query then e.text else "(" ++ e.text ++ ")"

/-- The right side of an operator between two operands, which the token `t` starts. -/
def binaryRest (left : Expr) (op : String) (rank : Nat) (t : Located) : Reader Expr := do
  match ← oneOf ["ANY", "ALL", "SOME"] with
  | some k =>
    let right ← quantified r rank
    if comparisons.contains op then
      return ⟨left.text ++ " " ++ op ++ " " ++ k ++ right, .other⟩
    else
      refuseAt ("Expected one of [=, >, <, =>, =<, !=, ~, ~*, !~, !~*, ~~, ~~*, !~~, !~~*]"
        ++ " as comparison operator, found: " ++ op) t
  | none =>
    let right ← r.expr rank
    let kind := if op == "=" && left.kind == .name then .equation left.text right.text else .other
    return ⟨left.text ++ " " ++ op ++ " " ++ right.text, kind⟩

/-- What stands behind `IS`. -/
def isRest (left : Expr) : Reader Expr := do
  let tests := [["NULL"], ["NOT", "NULL"], ["TRUE"], ["NOT", "TRUE"], ["FALSE"], ["NOT", "FALSE"],
    ["UNKNOWN"], ["NOT", "UNKNOWN"]]
  let test ← firstFlag tests
  if !test.isEmpty then return ⟨left.text ++ " IS" ++ test, .other⟩
  let distinct ← firstFlag [["DISTINCT", "FROM"], ["NOT", "DISTINCT", "FROM"]]
  if !distinct.isEmpty then
    return ⟨left.text ++ " IS" ++ distinct ++ " " ++ (← r.anyText), .other⟩
  let no ← flag ["NOT"]
  let form ← firstFlag [["NFC"], ["NFD"], ["NFKC"], ["NFKD"]]
  if ← key "NORMALIZED" then return ⟨left.text ++ " IS" ++ no ++ form ++ " NORMALIZED", .other⟩
  else expectedHere "[NOT] NULL | TRUE | FALSE | DISTINCT | [form] NORMALIZED FROM after IS"

/-- What stands behind `IN`. -/
def inRest (start : String) : Reader Expr := do
  if ← key "UNNEST" then return ⟨start ++ " IN UNNEST(" ++ (← parens r.anyText) ++ ")", .other⟩
  expectMark "("
  let inner ←
    match ← attempt r.query with
    | some q => pure q
    | none =>
      if (← flavor) == .sqlite then do pure (", ".intercalate (← commaList0 r.anyText ")"))
      else r.list
  expectMark ")"
  return ⟨start ++ " IN (" ++ inner ++ ")", .other⟩

/-- A pattern and its escape character, behind the word of the test. -/
def likeRest (start word : String) : Reader Expr := do
  let any ← if word == "SIMILAR TO" then pure false else key "ANY"
  let e ← r.expr ((← flavor).rank .like)
  let escape ← clause ["ESCAPE"] (Constant.text <$> constant)
  let anyText :=
    if !any then ""
    else if word == "ILIKE" && !escape.isEmpty then "ANY"
    else "ANY "
  return ⟨start ++ " " ++ word ++ " " ++ anyText ++ e.text ++ escape, .other⟩

/-- The tests that may be negated, from their first word on. -/
def testRest (left : Expr) : Reader Expr := do
  let f ← flavor
  let negated ← key "NOT"
  let start := left.text ++ (if negated then " NOT" else "")
  let regexp ← key "REGEXP"
  let rlike ← key "RLIKE"
  let null ← if (← context) == .column then pure false else key "NULL"
  if regexp || rlike then
    let pattern ← r.expr (f.rank .like)
    return ⟨start ++ (if regexp then " REGEXP " else " RLIKE ") ++ pattern.text, .other⟩
  else if negated && null then return ⟨left.text ++ " IS NOT NULL", .other⟩
  else if ← key "IN" then inRest r start
  else if ← key "BETWEEN" then
    let low ← r.expr (f.rank .between)
    expectKey "AND"
    let high ← r.expr (f.rank .between)
    return ⟨start ++ " BETWEEN " ++ low.text ++ " AND " ++ high.text, .other⟩
  else if ← key "LIKE" then likeRest r start "LIKE"
  else if ← key "ILIKE" then likeRest r start "ILIKE"
  else if ← keys ["SIMILAR", "TO"] then likeRest r start "SIMILAR TO"
  else expectedHere "IN or BETWEEN after NOT"

/-- A word that is an operator, and its right side behind the operand `left`. -/
def wordOperator (left : Expr) (rank : Nat) (t : Located) (k : String) : Reader Expr := do
  let f ← flavor
  match k with
  | "AND" | "OR" | "XOR" | "OVERLAPS" => binaryRest r left k rank t
  | "OPERATOR" =>
    if f == .postgres then binaryRest r left (← operatorName) rank t else noOperator t
  | "DIV" =>
    if f == .mysql then return ⟨left.text ++ " DIV " ++ (← r.anyText), .other⟩ else noOperator t
  | "MATCH" =>
    if f == .sqlite then return ⟨left.text ++ " MATCH " ++ (← r.anyText), .other⟩ else noOperator t
  | "IS" => isRest r left
  | "AT" =>
    expectKeys ["TIME", "ZONE"]
    return ⟨left.text ++ " AT TIME ZONE " ++ (← r.expr rank).text, .other⟩
  | "NOT" | "IN" | "BETWEEN" | "LIKE" | "ILIKE" | "SIMILAR" | "RLIKE" | "REGEXP" =>
    if k == "REGEXP" && f == .sqlite then
      return ⟨left.text ++ " REGEXP " ++ (← r.anyText), .other⟩
    else
      modify (t :: ·)
      testRest r left
  | "NOTNULL" => return ⟨left.text ++ " IS NOT NULL", .other⟩
  | "MEMBER" =>
    if ← key "OF" then return ⟨left.text ++ " MEMBER OF(" ++ (← parens r.anyText) ++ ")", .other⟩
    else expectedHere "OF after MEMBER"
  | _ => noOperator t

/-- An operator and its right side behind the operand `left`. -/
def operatorRest (left : Expr) (rank : Nat) : Reader Expr := do
  let f ← flavor
  let t ← next
  match t.token with
  | .mark "::" => return ⟨left.text ++ "::" ++ (← typeName r).text, .other⟩
  | .mark "!" => if f == .postgres then return ⟨left.text ++ "!", .other⟩ else noOperator t
  | .mark s =>
    match binaryMark f s with
    | some op => binaryRest r left op rank t
    | none => noOperator t
  | .word _ _ k => wordOperator r left rank t k
  | _ => noOperator t

/-- Operators behind an operand, as long as they bind more tightly than `rank`; the second
argument bounds their number. -/
def operators (rank : Nat) : Nat → Expr → Reader Expr
  | 0, e => return e
  | n + 1, e => do
    let ahead ← nextRank
    if rank ≥ ahead || (← atMark ".") then return e
    else operators rank n (← operatorRest r e ahead)

/-- Reads an expression whose operators bind more tightly than `rank`. -/
def exprRule (rank : Nat) : Reader Expr := do
  let before ← get
  let e ← accessed r before (← operand r)
  operators r rank ((← get).length + 1) e

end

end SchemaChart.Grammar
