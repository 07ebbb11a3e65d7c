-- Default values in scripts: what is kept as an expression, what becomes a literal, and what
-- another dialect does not have.
import SchemaChart.Dialect
import SchemaChart.Text.Identifier
import SchemaChart.Text.Pattern

namespace SchemaChart.Export

open Text

/-! ## Parentheses -/

/-- Is the parenthesis that opened first open until the end; `depth` are open, and quotes hide
parentheses. -/
def staysOpen (depth : Nat) (quoted : Bool) : List Char → Bool
  | [] => depth == 0
  | c :: cs =>
    if c == '\'' then staysOpen depth (!quoted) cs
    else if quoted then staysOpen depth quoted cs
    else if c == '(' then staysOpen (depth + 1) quoted cs
    else if c == ')' then
      if depth == 1 && !cs.isEmpty then false else staysOpen (depth - 1) quoted cs
    else staysOpen depth quoted cs

/-- What stands between parentheses around a whole text. -/
def wrapped? (cs : List Char) : Option (List Char) :=
  match cs with
  | '(' :: rest =>
    if rest.getLast? == some ')' && staysOpen 0 false cs then some rest.dropLast else none
  | _ => none

/-- Takes off at most `n` pairs of parentheses, and the blanks inside them. -/
def unwrapUpTo : Nat → List Char → List Char
  | 0, cs => cs
  | n + 1, cs =>
    match wrapped? cs with
    | some inner => unwrapUpTo n (trim inner)
    | none => cs

/-- A text without the parentheses around it. -/
def unwrap (cs : List Char) : List Char := unwrapUpTo cs.length (trim cs)

/-! ## Forms of values -/

namespace Forms

open Pattern

/-- A letter of the basic alphabet or an underscore. -/
def startsWord (c : Char) : Bool := c.isAlpha || c == '_'

def sign : Pattern := opt (one (fun c => c == '+' || c == '-'))

def digits : Pattern := some1 isDecimal

/-- A number in any of its forms. -/
def number : Pattern :=
  textStart ++ sign
    ++ ((digits ++ opt (lit "." ++ run true isDecimal)) <|> (lit "." ++ digits))
    ++ opt (one (fun c => c == 'e' || c == 'E') ++ sign ++ digits) ++ textEnd

/-- A call of a function on one line. -/
def call : Pattern :=
  textStart ++ one startsWord ++ run true (fun c => isWordChar c || c == '.') ++ gap ++ lit "("
    ++ restOfLine ++ lit ")" ++ textEnd

/-- A text from quote to quote, maybe with a letter before it. -/
def quoted : Pattern :=
  textStart ++ opt (oneOf ["n", "e", "b", "x"]) ++ lit "'" ++ rest ++ lit "'" ++ textEnd

/-- A cast at the end of a text. -/
def cast : Pattern :=
  lit "::" ++ one startsWord ++ run true (fun c => isWordChar c || c == ' ' || c == '.')
    ++ opt (lit "(" ++ digits ++ opt (lit "," ++ gap ++ digits) ++ lit ")")
    ++ opt (lit "[]") ++ textEnd

/-- A value that counts up by itself. -/
def identity : Pattern :=
  let arguments := gap ++ lit "(" ++ restOfLine ++ lit ")"
  textStart
    ++ ((phrase "nextval" ++ arguments) <|> phrase "auto_increment" <|> phrase "autoincrement"
      <|> (phrase "identity" ++ opt arguments)
      <|> (opt (oneOf ["big", "small"]) ++ phrase "serial"))
    ++ textEnd

end Forms

/-- Words that are values by themselves. -/
def valueWords : List String :=
  ["CURRENT_TIMESTAMP", "CURRENT_DATE", "CURRENT_TIME", "CURRENT_USER", "LOCALTIME",
    "LOCALTIMESTAMP", "NULL", "TRUE", "FALSE"]

/-- The word that a text is in upper case, if it is a value by itself. -/
def valueWord? (cs : List Char) : Option String :=
  let word := String.ofList (upper cs)
  if valueWords.contains word then some word else none

/-! ## Expressions -/

/-- Every other piece of a text between quotes, with a space for each piece. -/
def outsideQuotes : Bool → List (List Char) → List Char
  | _, [] => []
  | true, p :: ps => p ++ ' ' :: outsideQuotes false ps
  | false, _ :: ps => ' ' :: outsideQuotes true ps

/-- Is there an operator or a parenthesis outside of quotes. -/
def hasOperator (cs : List Char) : Bool :=
  let outside := outsideQuotes true (pieces (· == '\'') cs)
  ["(", "||", " + ", " - ", " * ", " / "].any (holds outside)

/-- Is a text an expression rather than a bare value; under at most `n` casts. -/
def isExpressionUnder : Nat → List Char → Bool
  | 0, _ => false
  | n + 1, cs =>
    if (valueWord? cs).isSome || Forms.number.occursIn cs || Forms.call.occursIn cs
        || Forms.quoted.occursIn cs || startsWith (upper cs) "ARRAY[" then true
    else match Forms.cast.find? cs with
      | some m =>
        let base := unwrap m.before
        !base.isEmpty && isExpressionUnder n base
      | none => cs.count '\'' % 2 == 0 && hasOperator cs

/-- Is a text an expression rather than a bare value. -/
def isExpression (cs : List Char) : Bool := isExpressionUnder (cs.length + 1) cs

/-! ## Values in a dialect -/

/-- A value without its cast. -/
def withoutCast (cs : List Char) : List Char :=
  match Forms.cast.find? cs with
  | some m => unwrap m.before
  | none => cs

/-- A text without the letter that marks it as a national one. -/
def withoutNationalMark : List Char → List Char
  | c :: '\'' :: d :: cs => if c == 'N' || c == 'n' then '\'' :: d :: cs else c :: '\'' :: d :: cs
  | cs => cs

/-- Has a dialect casts and sequences as values have them. -/
def keepsCasts : Dialect → Bool
  | .postgresql | .generic => true
  | _ => false

/-- A value that is no identity, in the forms that a dialect knows. -/
def adapt (d : Dialect) (cs : List Char) : List Char :=
  if keepsCasts d then cs
  else if d == .sqlServer then withoutCast cs
  else withoutNationalMark (withoutCast cs)

/-- The truth value that a number is in a column of truth values. -/
def truthWord? (d : Dialect) (typeId : String) (cs : List Char) : Option String :=
  if (typeId == "boolean" || typeId == "bit") && d != .sqlServer then
    if cs == ['0'] then some "FALSE" else if cs == ['1'] then some "TRUE" else none
  else none

/-- A value word as a dialect has it. -/
def valueWordIn (d : Dialect) (word : String) : String :=
  match d, word with
  | .sqlServer, "TRUE" => "1"
  | .sqlServer, "FALSE" => "0"
  | .sqlServer, "CURRENT_DATE" => "CAST(GETDATE() AS date)"
  | _, _ => word

/-- A default value in a dialect; nothing if the dialect has no such value. -/
def defaultText? (d : Dialect) (typeId : String) (raw : String) : Option String :=
  let value := unwrap raw.toList
  if value.isEmpty then none
  else if Forms.identity.occursIn value then
    if startsWith (lower value) "nextval" && keepsCasts d then some (String.ofList value) else none
  else
    let value := adapt d value
    match truthWord? d typeId value with
    | some word => some word
    | none =>
      match valueWord? value with
      | some word => some (valueWordIn d word)
      | none =>
        if isExpression value then some (String.ofList value)
        else some (quoteLiteral (String.ofList value))

end SchemaChart.Export
