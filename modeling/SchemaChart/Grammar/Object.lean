-- Definitions of the strict grammar other than tables and indexes. It matters only that they are
-- well formed, so nothing of them is kept.
import SchemaChart.Grammar.Table

namespace SchemaChart.Grammar

open Reader

/-! ## Shared parts -/

/-- The name of a role, a user or whoever is asking. -/
def owner : Reader Unit := do
  if (← oneOf ["CURRENT_USER", "CURRENT_ROLE", "SESSION_USER"]).isNone then
    match ← attemptOr identifier with
    | .ok _ => return
    | .error e =>
      let words := "Expected: CURRENT_USER, CURRENT_ROLE, SESSION_USER or identifier after "
        ++ "OWNER TO. sql parser error: " ++ e.words
      throw (.refused words e.offset)

/-- The name of someone who is granted something; MySQL may add a host. -/
def granteeName : Reader Unit := do
  let first ← get
  let _ ← objectName
  let parts := first.length - (← get).length
  if ← markIf ((← flavor) == .mysql && parts == 1) "@" then let _ ← identifier

/-- The name of an operator: any tokens with dots between them. -/
def operatorPath : Reader Unit := do
  let _ ← next
  let _ ← repeated do
    if ← mark "." then
      let _ ← next
      return some ()
    else return none

/-- One value of an option that has a name. -/
def plainValue : Reader Unit := do
  match (← peek).token with
  | .text .single _ | .number .. =>
    let _ ← constant
  | .word .. =>
    let _ ← next
  | _ => expectedHere "expected option value"

/-- Options with names and values, up to the end, a semicolon or one of the words `stop`. In
parentheses they end with the closing one. The first argument bounds their number. -/
def namedValues (grouped : Bool) (stop : List String) : Nat → Reader Unit
  | 0 => return
  | n + 1 => do
    let t ← next
    match t.token with
    | .mark ")" => if grouped then return else expectedHere " another option or EOF"
    | .ending | .mark ";" => return
    | .mark "," => namedValues grouped stop n
    | .word _ _ k =>
      if stop.contains k then modify (t :: ·)
      else
        expectMark "="
        if ← atMark "(" then
          match ← attempt (parens (commaList0 constant ")")) with
          | some _ => namedValues grouped stop n
          | none =>
            let _ ← next
            namedValues true [] n
            namedValues grouped stop n
        else
          plainValue
          namedValues grouped stop n
    | _ => expectedHere "another option, EOF, SemiColon, Comma or ')'"

section

variable (r : Nested)

/-! ## Views, schemas and databases -/

/-- What may stand between `CREATE` and `VIEW` in MySQL. -/
def viewSettings : Reader Unit := do
  if ← key "ALGORITHM" then
    expectMark "="
    let _ ← expectOneOf ["UNDEFINED", "MERGE", "TEMPTABLE"]
  if ← key "DEFINER" then
    expectMark "="
    granteeName
  if ← keys ["SQL", "SECURITY"] then let _ ← expectOneOf ["DEFINER", "INVOKER"]

/-- The columns of a view, which may have options of their own. -/
def viewColumns : Reader Unit := do
  if ← mark "(" then
    let _ ← commaList0 (do
      let _ ← identifier
      let _ ← repeated (columnOption? r)) ")"
    expectMark ")"

/-- A view definition. -/
def viewDefinition : Reader Unit := do
  may ["SECURE"]
  may ["MATERIALIZED"]
  expectKey "VIEW"
  may ["IF", "NOT", "EXISTS"]
  let _ ← objectName
  may ["IF", "NOT", "EXISTS"]
  viewColumns r
  let _ ← settings r ["WITH"]
  if ← key "CLUSTER" then
    expectKey "BY"
    let _ ← optionalColumnList
  expectKey "AS"
  let _ ← r.query

/-- A schema definition, from behind `SCHEMA`. -/
def schemaDefinition : Reader Unit := do
  may ["IF", "NOT", "EXISTS"]
  if ← key "AUTHORIZATION" then let _ ← identifier
  else
    let _ ← objectName
    if ← key "AUTHORIZATION" then let _ ← identifier
  if ← keys ["DEFAULT", "COLLATE"] then let _ ← r.any
  let _ ← settings r ["WITH"]
  let _ ← settings r ["OPTIONS"]
  if ← key "CLONE" then let _ ← objectName

/-- A database definition, from behind `DATABASE`. -/
def databaseDefinition : Reader Unit := do
  may ["IF", "NOT", "EXISTS"]
  let _ ← objectName
  let _ ← repeated do
    if (← oneOf ["LOCATION", "MANAGEDLOCATION"]).isSome then
      let _ ← literalString
      return some ()
    else return none
  if ← key "CLONE" then let _ ← objectName

/-- An extension, from behind `EXTENSION`. -/
def extensionDefinition : Reader Unit := do
  may ["IF", "NOT", "EXISTS"]
  let _ ← identifier
  if ← key "WITH" then
    if ← key "SCHEMA" then let _ ← identifier
    if ← key "VERSION" then let _ ← identifier
    may ["CASCADE"]

/-- A table with a module behind it, from behind `VIRTUAL`. -/
def virtualTable : Reader Unit := do
  expectKey "TABLE"
  may ["IF", "NOT", "EXISTS"]
  let _ ← objectName
  expectKey "USING"
  let _ ← identifier
  let _ ← optionalColumnList

/-! ## Types, domains and sequences -/

/-- One option of a range type. -/
def rangeOption : Reader Unit := do
  match ← oneOf ["SUBTYPE", "SUBTYPE_OPCLASS", "COLLATION", "CANONICAL", "SUBTYPE_DIFF",
    "MULTIRANGE_TYPE_NAME"] with
  | some "SUBTYPE" =>
    expectMark "="
    let _ ← typeName r
  | some _ =>
    expectMark "="
    let _ ← objectName
  | none => expectedHere "range option keyword"

/-- One option of a type that is defined by functions. -/
def baseTypeOption : Reader Unit := do
  let truth : Reader Unit := do
    unless (← oneOf ["TRUE", "FALSE"]).isSome do expectedHere "TRUE or FALSE"
  match ← oneOf ["INPUT", "OUTPUT", "RECEIVE", "SEND", "TYPMOD_IN", "TYPMOD_OUT", "ANALYZE",
    "SUBSCRIPT", "INTERNALLENGTH", "PASSEDBYVALUE", "ALIGNMENT", "STORAGE", "LIKE", "CATEGORY",
    "PREFERRED", "DEFAULT", "ELEMENT", "DELIMITER", "COLLATABLE"] with
  | none => expectedHere "SQL definition option keyword"
  | some "PASSEDBYVALUE" => return
  | some k =>
    expectMark "="
    match k with
    | "INTERNALLENGTH" => unless ← key "VARIABLE" do let _ ← literalUint
    | "ALIGNMENT" => let _ ← expectOneOf ["CHAR", "INT2", "INT4", "DOUBLE"]
    | "STORAGE" => let _ ← expectOneOf ["PLAIN", "EXTERNAL", "EXTENDED", "MAIN"]
    | "CATEGORY" | "DELIMITER" => let _ ← literalString
    | "PREFERRED" | "COLLATABLE" => truth
    | "DEFAULT" => let _ ← r.any
    | "ELEMENT" => let _ ← typeName r
    | _ => let _ ← objectName

/-- A type definition, from behind `TYPE`. -/
def typeDefinition : Reader Unit := do
  let _ ← objectName
  if !(← key "AS") then
    if ← mark "(" then
      let _ ← commaList0 (baseTypeOption r) ")"
      expectMark ")"
  else if ← key "ENUM" then let _ ← parens (commaList0 identifier ")")
  else if ← key "RANGE" then let _ ← parens (commaList0 (rangeOption r) ")")
  else if ← mark "(" then
    let _ ← commaList0 (do
      let _ ← identifier
      let _ ← typeName r
      if ← key "COLLATE" then let _ ← objectName) ")"
    expectMark ")"
  else expectedHere "ENUM, RANGE, or '(' after AS"

/-- A domain, from behind `DOMAIN`. -/
def domainDefinition : Reader Unit := do
  let _ ← objectName
  expectKey "AS"
  let _ ← typeName r
  if ← key "COLLATE" then let _ ← identifier
  if ← key "DEFAULT" then let _ ← r.any
  let _ ← repeated (tableConstraint? r)

/-- A sequence, from behind `SEQUENCE`. -/
def sequenceDefinition : Reader Unit := do
  may ["IF", "NOT", "EXISTS"]
  let _ ← objectName
  if ← key "AS" then let _ ← typeName r
  let _ ← sequenceOptions
  if ← keys ["OWNED", "BY"] then unless ← key "NONE" do let _ ← objectName

/-! ## Blocks of statements -/

/-- Statements with a semicolon behind each, up to one of the words `stop`; the first argument
bounds their number. -/
def statementList (stop : List String) : Nat → Reader Unit
  | 0 => return
  | n + 1 => do
    if (← peek).token == .ending || (← atOneOf stop) then return
    r.statement
    expectMark ";"
    statementList stop n

/-- The statements of a body, which may be a block of its own. -/
def bodyStatements (stop : List String) : Reader Unit := do
  let n := (← get).length + 1
  if ← key "BEGIN" then
    statementList r stop n
    expectKey "END"
  else statementList r stop n

/-! ## Functions, procedures and triggers -/

/-- The text that defines a function, or two of them. -/
def functionText : Reader Unit := do
  let one : Reader Unit := do
    match (← peek).token with
    | .dollar .. => if (← flavor) == .postgres then let _ ← next else let _ ← literalString
    | _ => let _ ← literalString
  one
  if ← mark "," then one

/-- An argument of a function: a type, or a name and a type. -/
def functionArgument : Reader Unit := do
  let _ ← oneOf ["IN", "OUT", "INOUT"]
  let first ← get
  let _ ← typeName r
  let taken := first.length - (← get).length
  let second ← if ← atKey "DEFAULT" then pure none else attempt (typeName r)
  if second.isSome then
    match first[taken - 1]? with
    | some t =>
      match t.token with
      | .word .. => pure ()
      | _ => expected "a name or type" t
    | none => pure ()
  if ← key "DEFAULT" then let _ ← r.any
  else if ← mark "=" then let _ ← r.any

/-- A function and, perhaps, its arguments. -/
def functionSignature : Reader Unit := do
  let _ ← objectName
  if ← mark "(" then
    let _ ← commaList0 (functionArgument r) ")"
    expectMark ")"

/-- The clauses of a function of which each may be given once. -/
def functionClauses : List (List String × String × String) :=
  let nulls := "CALLED ON NULL INPUT | RETURNS NULL ON NULL INPUT | STRICT"
  [(["IMMUTABLE"], "volatility", "IMMUTABLE | STABLE | VOLATILE"),
    (["STABLE"], "volatility", "IMMUTABLE | STABLE | VOLATILE"),
    (["VOLATILE"], "volatility", "IMMUTABLE | STABLE | VOLATILE"),
    (["CALLED", "ON", "NULL", "INPUT"], "nulls", nulls),
    (["RETURNS", "NULL", "ON", "NULL", "INPUT"], "nulls", nulls),
    (["STRICT"], "nulls", nulls)]

/-- The rest of a function of PostgreSQL; `seen` lists the kinds of clauses already given. The
first argument bounds their number. -/
def functionRest (seen : List String) : Nat → Reader Unit
  | 0 => return
  | n + 1 => do
    let once (kind name : String) : Reader Unit := do
      if seen.contains kind then refuse (name ++ " specified more than once")
    let plain? : List (List String × String × String) → Reader (Option (String × String))
      | table => table.foldlM (fun found (ks, kind, name) => do
        if found.isSome then return found
        else if ← keys ks then return some (kind, name)
        else return none) none
    if ← key "AS" then
      once "body" "AS"
      functionText
      functionRest ("body" :: seen) n
    else if ← key "LANGUAGE" then
      once "language" "LANGUAGE"
      let _ ← identifier
      functionRest ("language" :: seen) n
    else if ← key "PARALLEL" then
      once "parallel" "PARALLEL \x7b UNSAFE | RESTRICTED | SAFE \x7d"
      unless (← oneOf ["UNSAFE", "RESTRICTED", "SAFE"]).isSome do
        expectedHere "one of UNSAFE | RESTRICTED | SAFE"
      functionRest ("parallel" :: seen) n
    else if ← key "RETURN" then
      once "body" "RETURN"
      let _ ← r.any
      functionRest ("body" :: seen) n
    else
      match ← plain? functionClauses with
      | some (kind, name) =>
        once kind name
        functionRest (kind :: seen) n
      | none => return

/-- A function of PostgreSQL, from behind `FUNCTION`. -/
def postgresFunction : Reader Unit := do
  let _ ← objectName
  let _ ← parens (commaList0 (functionArgument r) ")")
  if ← key "RETURNS" then let _ ← typeName r
  functionRest r [] ((← get).length + 1)

/-- A function of SQL Server, from behind `FUNCTION`. -/
def serverFunction : Reader Unit := do
  let _ ← objectName
  let _ ← parens (commaList0 (do
    let _ ← identifier
    let _ ← typeName r
    if ← mark "=" then let _ ← r.any) ")")
  expectKey "RETURNS"
  let table ← attempt do
    let _ ← identifier
    unless ← atKey "TABLE" do expectedHere "TABLE"
    let t ← typeName r
    if t.text == "TABLE" then refuseHere "Expected table column definitions after TABLE keyword"
  if table.isNone then let _ ← typeName r
  may ["AS"]
  if ← atKey "BEGIN" then bodyStatements r ["END"]
  else if ← key "RETURN" then
    if ← atMark "(" then let _ ← r.any
    else if ← key "SELECT" then let _ ← selectRule r
    else refuseHere "Expected a subquery (or bare SELECT statement) after RETURN"
  else refuseHere "Unparsable function body"

/-- Parameters of a procedure; a comma may stand behind the last. The first argument bounds their
number. -/
def procedureParameters : Nat → Reader Unit
  | 0 => return
  | n + 1 => do
    if ← atWord then
      let _ ← oneOf ["IN", "OUT", "INOUT"]
      let _ ← identifier
      let _ ← typeName r
      if ← mark "=" then let _ ← r.any
    let comma ← mark ","
    if ← mark ")" then return
    else if comma then procedureParameters n
    else expectedHere "',' or ')' after parameter definition"

/-- A procedure, from behind `PROCEDURE`. -/
def procedureDefinition : Reader Unit := do
  let _ ← objectName
  if ← mark "(" then
    unless ← mark ")" do procedureParameters r ((← get).length + 1)
  if ← key "LANGUAGE" then let _ ← identifier
  expectKey "AS"
  bodyStatements r ["END"]

/-- When a trigger acts. -/
def triggerPeriod : Reader Unit := do
  let k ← expectOneOf ["FOR", "BEFORE", "AFTER", "INSTEAD"]
  if k == "INSTEAD" then expectKey "OF"

/-- What a trigger acts on. -/
def triggerEvent : Reader Unit := do
  let k ← expectOneOf ["INSERT", "UPDATE", "DELETE", "TRUNCATE"]
  if k == "UPDATE" then if ← key "OF" then let _ ← commaList identifier

/-- The names a trigger gives to the rows before and after. -/
def triggerRows : Reader (Option Unit) := do
  match ← oneOf ["OLD", "NEW"] with
  | none => return none
  | some _ =>
    if ← key "TABLE" then
      may ["AS"]
      let _ ← objectName
      return some ()
    else return none

/-- A trigger, from behind `TRIGGER`. -/
def triggerDefinition : Reader Unit := do
  let _ ← objectName
  let _ ← attempt triggerPeriod
  triggerEvent
  let _ ← repeated (after ["OR"] triggerEvent)
  expectKey "ON"
  let _ ← objectName
  if ← key "FROM" then passName
  let _ ← timing
  if ← key "REFERENCING" then let _ ← repeated triggerRows
  if ← key "FOR" then
    may ["EACH"]
    let _ ← expectOneOf ["ROW", "STATEMENT"]
  if ← key "WHEN" then let _ ← r.any
  if ← key "EXECUTE" then
    let _ ← expectOneOf ["FUNCTION", "PROCEDURE"]
    functionSignature r
  else bodyStatements r ["END"]

/-- A trigger of SQL Server, from behind `TRIGGER`. -/
def serverTrigger : Reader Unit := do
  let _ ← objectName
  expectKey "ON"
  let _ ← objectName
  triggerPeriod
  let _ ← commaList triggerEvent
  expectKey "AS"
  bodyStatements r ["END"]

/-! ## Roles, users and policies -/

/-- Options of a role, and how a second one of the same kind is called. -/
def roleOptions : List (String × String) :=
  [("LOGIN", "LOGIN or NOLOGIN"), ("NOLOGIN", "LOGIN or NOLOGIN"),
    ("INHERIT", "INHERIT or NOINHERIT"), ("NOINHERIT", "INHERIT or NOINHERIT"),
    ("BYPASSRLS", "BYPASSRLS or NOBYPASSRLS"), ("NOBYPASSRLS", "BYPASSRLS or NOBYPASSRLS"),
    ("PASSWORD", "PASSWORD"), ("CREATEDB", "CREATEDB or NOCREATEDB"),
    ("NOCREATEDB", "CREATEDB or NOCREATEDB"), ("CREATEROLE", "CREATEROLE or NOCREATEROLE"),
    ("NOCREATEROLE", "CREATEROLE or NOCREATEROLE"), ("SUPERUSER", "SUPERUSER or NOSUPERUSER"),
    ("NOSUPERUSER", "SUPERUSER or NOSUPERUSER"), ("REPLICATION", "REPLICATION or NOREPLICATION"),
    ("NOREPLICATION", "REPLICATION or NOREPLICATION"), ("CONNECTION", "CONNECTION LIMIT"),
    ("VALID", "VALID UNTIL"), ("IN", "IN"), ("ROLE", "ROLE"), ("ADMIN", "ADMIN"), ("USER", "USER")]

/-- The value of an option of a role behind its key word `k`. -/
def roleValue (k : String) : Reader Unit := do
  match k with
  | "PASSWORD" => unless ← key "NULL" do let _ ← constant
  | "CONNECTION" => let _ ← signedNumber
  | "VALID" => let _ ← constant
  | "IN" | "ROLE" | "ADMIN" | "USER" => let _ ← commaList identifier
  | _ => return

/-- Options of a role; `seen` lists those already given. The first argument bounds their number. -/
def roleRest (seen : List String) : Nat → Reader Unit
  | 0 => return
  | n + 1 => do
    let f ← flavor
    let words :=
      match f with
      | .postgres => roleOptions.map (·.1)
      | .sqlServer => ["AUTHORIZATION"]
      | _ => []
    let t ← peek
    match ← oneOf words with
    | none => return
    | some "AUTHORIZATION" =>
      if seen.contains "AUTHORIZATION" then refuseAt "Found multiple AUTHORIZATION" t
      let _ ← objectName
      roleRest ("AUTHORIZATION" :: seen) n
    | some k =>
      if k == "CONNECTION" then expectKey "LIMIT"
      if k == "VALID" then expectKey "UNTIL"
      let kind ←
        if k == "IN" then
          match ← oneOf ["ROLE", "GROUP"] with
          | some g => pure ("IN " ++ g)
          | none => expectedHere "ROLE or GROUP after IN"
        else pure ((roleOptions.lookup k).getD k)
      if seen.contains kind then refuseAt ("Found multiple " ++ kind) t
      roleValue k
      roleRest (kind :: seen) n

/-- Roles, from behind `ROLE`. -/
def roleDefinition : Reader Unit := do
  may ["IF", "NOT", "EXISTS"]
  let _ ← commaList objectName
  may ["WITH"]
  roleRest [] ((← get).length + 1)

/-- A user, from behind `USER`. -/
def userDefinition : Reader Unit := do
  may ["IF", "NOT", "EXISTS"]
  let _ ← identifier
  let n := (← get).length + 1
  namedValues false ["WITH", "TAG"] n
  may ["WITH"]
  if ← key "TAG" then
    expectMark "("
    namedValues true [] n

/-- A policy, from behind `POLICY`. -/
def policyDefinition : Reader Unit := do
  let _ ← identifier
  expectKey "ON"
  let _ ← objectName
  if ← key "AS" then let _ ← expectOneOf ["PERMISSIVE", "RESTRICTIVE"]
  if ← key "FOR" then let _ ← expectOneOf ["ALL", "SELECT", "INSERT", "UPDATE", "DELETE"]
  if ← key "TO" then let _ ← commaList owner
  if ← key "USING" then let _ ← parens r.any
  if ← keys ["WITH", "CHECK"] then let _ ← parens r.any

/-! ## Links to other systems -/

/-- A secret, from behind `SECRET`. -/
def secretDefinition : Reader Unit := do
  may ["IF", "NOT", "EXISTS"]
  unless ← atMark "(" do
    if ← key "IN" then passName
    else
      passName
      if ← key "IN" then passName
  expectMark "("
  expectKey "TYPE"
  let _ ← identifier
  if ← mark "," then
    let _ ← commaList do
      let _ ← identifier
      let _ ← identifier
  expectMark ")"

/-- A connector, from behind `CONNECTOR`. -/
def connectorDefinition : Reader Unit := do
  may ["IF", "NOT", "EXISTS"]
  let _ ← identifier
  if ← key "TYPE" then let _ ← literalString
  if ← key "URL" then let _ ← literalString
  if ← key "COMMENT" then
    let _ ← mark "="
    let _ ← commentText
  let _ ← settings r ["WITH", "DCPROPERTIES"]

/-- A server, from behind `SERVER`. -/
def serverDefinition : Reader Unit := do
  may ["IF", "NOT", "EXISTS"]
  let _ ← objectName
  if ← key "TYPE" then let _ ← identifier
  if ← key "VERSION" then let _ ← identifier
  expectKeys ["FOREIGN", "DATA", "WRAPPER"]
  let _ ← objectName
  if ← key "OPTIONS" then
    let _ ← parens (commaList do
      let _ ← identifier
      let _ ← identifier)

/-! ## Operators -/

/-- One item of an operator class. -/
def operatorClassItem : Reader Unit := do
  let types : Reader Unit := do
    if ← mark "(" then
      let _ ← commaList0 (typeName r) ")"
      expectMark ")"
  match ← oneOf ["OPERATOR", "FUNCTION", "STORAGE"] with
  | some "OPERATOR" =>
    let _ ← literalUint
    operatorPath
    types
    if ← key "FOR" then
      unless ← key "SEARCH" do
        if ← keys ["ORDER", "BY"] then let _ ← objectName
        else expectedHere "SEARCH or ORDER BY after FOR"
  | some "FUNCTION" =>
    let _ ← literalUint
    types
    let _ ← objectName
    types
  | some _ => let _ ← typeName r
  | none => expectedHere "OPERATOR, FUNCTION, or STORAGE after AS"

/-- The settings of an operator; `seen` lists those already given. The first argument bounds their
number. -/
def operatorSettings (seen : List String) : Nat → Reader (List String)
  | 0 => return seen
  | n + 1 => do
    let k ← expectOneOf ["FUNCTION", "PROCEDURE", "LEFTARG", "RIGHTARG", "COMMUTATOR", "NEGATOR",
      "RESTRICT", "JOIN", "HASHES", "MERGES"]
    let kind := if k == "PROCEDURE" then "FUNCTION" else k
    if seen.contains kind then
      refuse ("Duplicate or unexpected keyword " ++ k ++ " in CREATE OPERATOR")
    match kind with
    | "HASHES" | "MERGES" => pure ()
    | "LEFTARG" | "RIGHTARG" =>
      expectMark "="
      let _ ← typeName r
    | "COMMUTATOR" | "NEGATOR" =>
      expectMark "="
      if ← key "OPERATOR" then parens operatorPath else operatorPath
    | _ =>
      expectMark "="
      let _ ← objectName
    if ← mark "," then operatorSettings (kind :: seen) n else return kind :: seen

/-- An operator, from behind `OPERATOR`. -/
def operatorDefinition : Reader Unit := do
  if ← key "FAMILY" then
    let _ ← objectName
    expectKey "USING"
    let _ ← identifier
  else if ← key "CLASS" then
    let _ ← objectName
    may ["DEFAULT"]
    expectKeys ["FOR", "TYPE"]
    let _ ← typeName r
    expectKey "USING"
    let _ ← identifier
    if ← key "FAMILY" then let _ ← objectName
    expectKey "AS"
    let _ ← commaList (operatorClassItem r)
  else
    operatorPath
    expectMark "("
    let seen ← operatorSettings r [] ((← get).length + 1)
    expectMark ")"
    unless seen.contains "FUNCTION" do refuse "CREATE OPERATOR requires FUNCTION parameter"

end

end SchemaChart.Grammar
