-- Statements of the strict grammar. Table and index definitions are read in full; of other
-- statements it matters only that they are well formed.
import SchemaChart.Grammar.Block
import SchemaChart.Grammar.Grant
import SchemaChart.Grammar.Lexer
import SchemaChart.Grammar.Query
import SchemaChart.Grammar.Session

namespace SchemaChart.Grammar

open Reader

inductive Statement where
  | table (t : TableDefinition)
  | index (i : IndexDefinition)
  | other
deriving Repr, DecidableEq

section

variable (r : Nested)

/-! ## Definitions -/

/-- A definition that may replace an older one, if one is ahead. -/
def replaceable? : Reader (Option Statement) := do
  let other (s : Reader Unit) : Reader (Option Statement) := do
    s
    return some .other
  let f ← flavor
  if ← key "TABLE" then return some (.table (← tableDefinition r))
  else if ← atOneOf ["MATERIALIZED", "VIEW", "SECURE"] then other (viewDefinition r)
  else if ← key "POLICY" then other (policyDefinition r)
  else if ← key "EXTERNAL" then return some (.table (← externalTable r))
  else if ← atKey "FUNCTION" then
    let t ← next
    match f with
    | .postgres => other (postgresFunction r)
    | .sqlServer => other (serverFunction r)
    | _ => expected "an object type after CREATE" t
  else if ← key "DOMAIN" then other (domainDefinition r)
  else if ← eitherKeys [["TRIGGER"], ["CONSTRAINT", "TRIGGER"]] then other (triggerDefinition r)
  else if ← key "SECRET" then other secretDefinition
  else if ← key "USER" then other userDefinition
  else return none

/-- A definition that replaces nothing, by the words it starts with. -/
def plainDefinition : Reader Statement := do
  let other (s : Reader Unit) : Reader Statement := do
    s
    return .other
  if ← key "INDEX" then return .index (← indexDefinition r false)
  else if ← keys ["UNIQUE", "INDEX"] then return .index (← indexDefinition r true)
  else
    match ← oneOf ["EXTENSION", "VIRTUAL", "SCHEMA", "DATABASE", "ROLE", "SEQUENCE", "TYPE",
      "PROCEDURE", "CONNECTOR", "OPERATOR", "SERVER"] with
    | some "EXTENSION" => other extensionDefinition
    | some "VIRTUAL" => other virtualTable
    | some "SCHEMA" => other (schemaDefinition r)
    | some "DATABASE" => other databaseDefinition
    | some "ROLE" => other roleDefinition
    | some "SEQUENCE" => other (sequenceDefinition r)
    | some "TYPE" => other (typeDefinition r)
    | some "PROCEDURE" => other (procedureDefinition r)
    | some "CONNECTOR" => other (connectorDefinition r)
    | some "OPERATOR" => other (operatorDefinition r)
    | some _ => other serverDefinition
    | none => expectedHere "an object type after CREATE"

/-- A definition, from behind `CREATE`. -/
def definition : Reader Statement := do
  if (← flavor) == .sqlServer && startsServerTrigger (← get) then
    may ["OR", "ALTER"]
    let _ ← next
    serverTrigger r
    return .other
  let replaces ← keys ["OR", "REPLACE"]
  may ["OR", "ALTER"]
  may ["LOCAL"]
  may ["GLOBAL"]
  may ["TRANSIENT"]
  let _ ← oneOf ["TEMP", "TEMPORARY"]
  viewSettings
  match ← replaceable? r with
  | some s => return s
  | none =>
    if replaces then
      expectedHere "[EXTERNAL] TABLE or [MATERIALIZED] VIEW or FUNCTION after CREATE OR REPLACE"
    else plainDefinition r
where
  startsServerTrigger (ts : List Located) : Bool :=
    startWith ["TRIGGER"] ts || startWith ["OR", "ALTER", "TRIGGER"] ts

/-! ## Other statements -/

/-- Statements that are read from behind their first word. -/
def byFirstWord (f : Flavor) (t : Located) (k : String) : Option (Reader Unit) :=
  let name : Reader Unit := do let _ ← identifier
  let printed (s : Reader String) : Reader Unit := do let _ ← s
  let query : Reader Unit := do
    modify (t :: ·)
    let _ ← r.query
  match k with
  | "SELECT" | "WITH" | "VALUES" | "FROM" => some query
  | "INSERT" => some (printed (insertion r "INSERT"))
  | "REPLACE" =>
    match f with
    | .mysql => some (printed (insertion r "REPLACE"))
    | .sqlite => some do
      modify (t :: ·)
      printed (insertion r "REPLACE")
    | _ => some (refuseHere "Unsupported statement REPLACE")
  | "UPDATE" => some (printed (update r))
  | "DELETE" => some (printed (deletion r))
  | "MERGE" => some (printed (merging r))
  | "ALTER" => some (alteration r)
  | "DROP" => some (removal r)
  | "GRANT" => some (granting r)
  | "DENY" => some (denying r)
  | "REVOKE" => some (revoking r)
  | "CASE" => some (caseStatement r)
  | "IF" => some (if f == .sqlServer then serverConditional r else conditional r)
  | "WHILE" => some (loop r)
  | "RAISE" => some (raising r)
  | "START" => some do
    expectKey "TRANSACTION"
    transactionModes
  | "BEGIN" => some beginning
  | "END" => some ending
  | "COMMIT" => some transactionChain
  | "ROLLBACK" => some rollback
  | "SAVEPOINT" => some name
  | "RELEASE" => some do
    may ["SAVEPOINT"]
    name
  | "SET" => some (settingStatement r)
  | "RESET" => some do unless ← key "ALL" do let _ ← objectName
  | "SHOW" => some (showing r)
  | "USE" => some do let _ ← objectName
  | "EXPLAIN" => some (explaining r false)
  | "DESC" | "DESCRIBE" => some (explaining r true)
  | "DECLARE" => some (declaration r)
  | "OPEN" => some name
  | "FETCH" => some fetching
  | "CLOSE" => some do unless ← key "ALL" do name
  | "PREPARE" => some (preparation r)
  | "EXECUTE" | "EXEC" => some (execution r)
  | "DEALLOCATE" => some do
    may ["PREPARE"]
    name
  | "COPY" => some (copying r)
  | "ATTACH" => some (attaching r)
  | "UNLOAD" => some (unloading r)
  | "EXPORT" => some (exporting r)
  | "LOAD" => if f == .postgres then some name else some do
    may ["DATA"]
    expectedHere "\x60DATA\x60 or an extension name after \x60LOAD\x60"
  | "ANALYZE" => some (analysis r)
  | "TRUNCATE" => some (truncation r)
  | "VACUUM" => some vacuuming
  | "FLUSH" => some flushing
  | "KILL" => some killing
  | "MSCK" => some tableRepair
  | "CACHE" => some (caching r)
  | "UNCACHE" => some uncaching
  | "DISCARD" => some discarding
  | "RENAME" => some tablesRenamed
  | "COMMENT" => if f == .postgres then some remark else none
  | "LISTEN" => if f == .postgres then some name else none
  | "UNLISTEN" => if f == .postgres then some unlistening else none
  | "NOTIFY" => if f == .postgres then some notifying else none
  | "RAISERROR" => some (raisedError r)
  | "PRAGMA" => some pragma
  | "PRINT" => some do let _ ← r.any
  | "RETURN" => some do let _ ← attempt r.any
  | "CALL" => some (calling r)
  | "ASSERT" => some (asserting r)
  | _ => none

/-- Reads one statement. -/
def statementRule : Reader Statement := do
  let f ← flavor
  if ← keysIf (f == .mysql) ["LOCK", "TABLES"] then
    tableLocks
    return .other
  if ← keysIf (f == .mysql) ["UNLOCK", "TABLES"] then return .other
  let t ← next
  match t.token with
  | .word _ _ "CREATE" => definition r
  | .word _ _ k =>
    match byFirstWord r f t k with
    | some s =>
      s
      return .other
    | none => expected "an SQL statement" t
  | .mark "(" =>
    modify (t :: ·)
    let _ ← r.query
    return .other
  | _ => expected "an SQL statement" t

end

/-! ## Nesting -/

/-- The readers for parts that may nest `depth` levels deep. -/
def nested : Nat → Nested
  | 0 => ⟨fun _ => throw .tooDeep, throw .tooDeep, throw .tooDeep, throw .tooDeep⟩
  | depth + 1 =>
    let r := nested depth
    { expr := exprRule r
      query := queryRule r
      column := ColumnDefinition.render <$> columnDefinition r
      statement := do let _ ← statementRule r }

/-- How deep the parts of a statement may nest: a statement itself counts as one level. -/
def depthLimit : Nat := 49

/-- Reads one statement of a script. -/
def statement : Reader Statement := statementRule (nested depthLimit)

/-! ## Scripts -/

/-- Statements with semicolons between them; the first argument bounds their number. -/
def statementsFrom : Nat → Bool → Reader (List Statement)
  | 0, _ => return []
  | n + 1, ended => do
    let marks ← repeated do
      if ← mark ";" then return some () else return none
    let waiting := ended && marks.isEmpty
    let t ← peek
    if t.token == .ending then return []
    else if waiting && t.token.isKey "END" then return []
    else if waiting then expected "end of statement" t
    else
      let s ← statement
      return s :: (← statementsFrom n true)

/-- Why a text is refused: the words of the complaint, and the place that it names. -/
structure Refusal where
  words : String
  place : Option Place := none
deriving Repr, DecidableEq

/-- The whole message of a refusal: its words, and behind them its place. -/
def Refusal.message (r : Refusal) : String := r.words ++ (r.place.map Place.render).getD ""

/-- Refuses a text, at an offset or nowhere in particular. -/
def refusalIn (sql words : String) (offset : Option Nat) : Refusal :=
  ⟨words, offset.map (Place.ofOffset sql.toList)⟩

/-- The statements of a text, or why the grammar refuses it. -/
def statements (f : Flavor) (sql : String) : Except Refusal (List Statement) :=
  match lex f sql with
  | .error e => .error (refusalIn sql e.message e.offset)
  | .ok ts =>
    match statementsFrom (ts.length + 1) false { flavor := f } ts with
    | .ok (ss, _) => .ok ss
    | .error e => .error (refusalIn sql e.words e.offset)

/-- The one statement of a text. -/
def readStatement (f : Flavor) (sql : String) : Except Refusal Statement :=
  match statements f sql with
  | .error e => .error e
  | .ok [s] => .ok s
  | .ok ss => .error { words := "expected one statement, found " ++ toString ss.length }

end SchemaChart.Grammar
