-- Statements of the strict grammar that steer a session: transactions, settings, what is shown and
-- explained, cursors, prepared statements and upkeep.
import SchemaChart.Grammar.Alter

namespace SchemaChart.Grammar

open Reader

/-! ## Transactions -/

/-- How a transaction is kept apart from others. -/
def isolationLevel : Reader Unit := do
  unless ← eitherKeys [["READ", "UNCOMMITTED"], ["READ", "COMMITTED"], ["REPEATABLE", "READ"],
    ["SERIALIZABLE"], ["SNAPSHOT"]] do expectedHere "isolation level"

/-- The modes of a transaction; behind a comma there must be another one. The first argument
bounds their number. -/
def modesFrom (required : Bool) : Nat → Reader Unit
  | 0 => return
  | n + 1 => do
    if ← keys ["ISOLATION", "LEVEL"] then
      isolationLevel
      modesFrom (← mark ",") n
    else if ← eitherKeys [["READ", "ONLY"], ["READ", "WRITE"]] then modesFrom (← mark ",") n
    else if required then expectedHere "transaction mode"

/-- The modes of a transaction. -/
def transactionModes : Reader Unit := do modesFrom false ((← get).length + 1)

/-- The word for a transaction, which may be left out. -/
def transactionWord : Reader Unit := do let _ ← oneOf ["TRANSACTION", "WORK", "TRAN"]

/-- Whether another transaction follows at once. -/
def transactionChain : Reader Unit := do
  transactionWord
  if ← key "AND" then
    may ["NO"]
    expectKey "CHAIN"

/-- From behind `BEGIN`. -/
def beginning : Reader Unit := do
  let f ← flavor
  if f == .sqlite || f == .sqlServer then
    let _ ← oneOf ["DEFERRED", "IMMEDIATE", "EXCLUSIVE", "TRY", "CATCH"]
  transactionWord
  transactionModes

/-- From behind `END`. -/
def ending : Reader Unit := do
  if (← flavor) == .sqlServer then let _ ← oneOf ["TRY", "CATCH"]
  transactionChain

/-- From behind `ROLLBACK`. -/
def rollback : Reader Unit := do
  transactionChain
  if ← key "TO" then
    may ["SAVEPOINT"]
    let _ ← identifier

section

variable (r : Nested)

/-! ## Settings -/

/-- The values of a setting. -/
def settingValues : Reader Unit := do
  let _ ← commaList do
    if (← attempt r.any).isNone then expectedHere "variable value"

/-- A switch that is on or off. -/
def onOrOff : Reader Unit := do
  unless (← oneOf ["ON", "OFF"]).isSome do expectedHere "ON or OFF"

/-- Words with commas between them. -/
def wordList (what : String) : Reader Unit := do
  let _ ← commaList do
    let t ← next
    match t.token with
    | .word .. => pure ()
    | _ => expected what t

/-- Settings of SQL Server that have no sign between name and value. -/
def sessionSetting : Reader Unit := do
  if ← key "STATISTICS" then
    unless (← oneOf ["IO", "PROFILE", "TIME", "XML"]).isSome do
      expectedHere "IO, PROFILE, TIME or XML"
    onOrOff
  else if ← key "IDENTITY_INSERT" then
    let _ ← objectName
    onOrOff
  else if ← key "OFFSETS" then
    wordList "SQL keyword"
    onOrOff
  else
    wordList "Session param name"
    let _ ← r.any

/-- One of several settings of MySQL. -/
def settingPair : Reader Unit := do
  let _ ← oneOf ["SESSION", "LOCAL", "GLOBAL"]
  let _ ← objectName
  unless ← equalsOrTo do expectedHere "assignment operator"
  let _ ← r.any

/-- A setting with a name of its own, from behind its scope. -/
def namedSetting : Reader Unit := do
  let before ← get
  let _ ← objectName
  if ← equalsOrTo then settingValues r
  else if (← flavor) == .sqlServer then
    let taken := before.length - (← get).length
    set (before.drop (taken - 1))
    sessionSetting r
  else expectedHere "equals sign or TO"

/-- From behind `SET`. -/
def settingStatement : Reader Unit := do
  let f ← flavor
  let start ← get
  let variable_ ← key "HIVEVAR"
  if variable_ then expectMark ":"
  else let _ ← oneOf ["SESSION", "LOCAL", "GLOBAL"]
  let role ← attempt do
    expectKey "ROLE"
    unless ← key "NONE" do let _ ← identifier
  if role.isSome then return
  if ← eitherKeys [["TIME", "ZONE"], ["TIMEZONE"]] then
    if ← equalsOrTo then settingValues r else let _ ← r.any
  else if ← keysIf (f == .mysql || f == .postgres) ["NAMES"] then
    unless ← key "DEFAULT" do
      let _ ← identifier
      if ← key "COLLATE" then let _ ← literalString
  else if ← key "CHARACTERISTICS" then
    expectKeys ["AS", "TRANSACTION"]
    transactionModes
  else if ← key "TRANSACTION" then
    if ← key "SNAPSHOT" then let _ ← constant else transactionModes
  else if ← key "AUTHORIZATION" then unless ← key "DEFAULT" do let _ ← identifier
  else if f == .mysql then
    unless variable_ do set start
    if (← attempt (commaList (settingPair r))).isNone then namedSetting r
  else namedSetting r

/-! ## What is shown and explained -/

/-- Which of the things are shown. -/
def shownFilter : Reader Unit := do
  if (← oneOf ["LIKE", "ILIKE"]).isSome then let _ ← literalString
  else if ← key "WHERE" then let _ ← r.any
  else let _ ← attempt literalString

/-- Where the things that are shown belong. -/
def shownParent : Reader Unit := do
  if (← oneOf ["FROM", "IN"]).isNone then return
  let follows := do return startWith ["STARTS", "WITH"] (← get) || (← atKey "LIMIT")
  match ← oneOf ["ACCOUNT", "DATABASE", "SCHEMA", "TABLE", "VIEW"] with
  | some k =>
    if (k == "DATABASE" || k == "SCHEMA") && (← follows) then return
    let _ ← attempt objectName
  | none =>
    let _ ← objectName
    if ← key "FROM" then let _ ← identifier

/-- The clauses behind a list that is shown. -/
def shownRest : Reader Unit := do
  shownParent
  shownFilter r
  if ← keys ["STARTS", "WITH"] then let _ ← constant
  if ← key "LIMIT" then unless ← key "ALL" do let _ ← r.any
  if ← key "FROM" then let _ ← constant

/-- Passes over tokens up to an equals sign, a semicolon or the end. -/
def passWords : Reader Unit := do
  let _ ← repeated do
    match (← peek).token with
    | .ending | .mark "=" | .mark ";" => return none
    | _ =>
      let _ ← next
      return some ()

/-- From behind `SHOW`. -/
def showing : Reader Unit := do
  may ["TERSE"]
  let extended ← key "EXTENDED"
  let full ← key "FULL"
  may ["SESSION"]
  may ["GLOBAL"]
  may ["EXTERNAL"]
  if ← eitherKeys [["COLUMNS"], ["FIELDS"], ["TABLES"], ["MATERIALIZED", "VIEWS"], ["VIEWS"]] then
    shownRest r
  else if ← key "FUNCTIONS" then shownFilter r
  else if extended || full then
    refuse "EXTENDED/FULL are not supported with this type of SHOW query"
  else if ← key "CREATE" then
    let _ ← expectOneOf ["TABLE", "TRIGGER", "FUNCTION", "PROCEDURE", "EVENT", "VIEW"]
    let _ ← objectName
  else if ← key "COLLATION" then shownFilter r
  else
    let mysql := (← flavor) == .mysql
    let ofServer ← key "VARIABLES"
    if ofServer && mysql then shownFilter r
    else
      let status ← key "STATUS"
      if status && mysql then shownFilter r
      else if ← key "CHARSET" then shownFilter r
      else if (← oneOf ["DATABASES", "SCHEMAS"]).isSome then
        may ["HISTORY"]
        shownRest r
      else passWords

/-- The form of an explanation. -/
def explanationFormat : Reader Unit := do
  let _ ← mark "="
  let t ← next
  unless ["TEXT", "GRAPHVIZ", "JSON", "TREE", "TRADITIONAL"].any t.token.isKey do
    expected "fileformat" t

/-- From behind `EXPLAIN` or, if `short`, one of the words for describing. -/
def explaining (short : Bool) : Reader Unit := do
  let grouped := !short && (← flavor) == .postgres && (← atMark "(")
  if grouped then
    let _ ← parens (commaList do
      let _ ← identifier
      unless (← atMark ",") || (← atMark ")") do let _ ← r.any)
  else if ← eitherKeys [["QUERY", "PLAN"], ["ESTIMATE"]] then pure ()
  else
    may ["ANALYZE"]
    may ["VERBOSE"]
    if ← key "FORMAT" then explanationFormat
  let again ← atOneOf ["EXPLAIN", "DESCRIBE", "DESC"]
  if (← attempt r.statement).isSome then
    if again then refuse "Explain must be root of the plan"
  else
    let _ ← oneOf ["EXTENDED", "FORMATTED"]
    let _ ← objectName

/-! ## Cursors and prepared statements -/

/-- A variable or a cursor of SQL Server. -/
def serverDeclaration : Reader Unit := do
  let n ← identifier
  let named := n.value.startsWith "@"
  unless named || (← atKey "CURSOR") do refuse "Invalid MsSql variable declaration."
  unless ← key "CURSOR" do
    may ["AS"]
    let _ ← typeName r
  if ← key "FOR" then let _ ← r.query
  else if ← mark "=" then let _ ← r.any

/-- From behind `DECLARE`. -/
def declaration : Reader Unit := do
  if (← flavor) == .sqlServer then
    let _ ← commaList (serverDeclaration r)
  else
    let _ ← identifier
    may ["BINARY"]
    let _ ← oneOf ["INSENSITIVE", "ASENSITIVE"]
    let _ ← eitherKeys [["SCROLL"], ["NO", "SCROLL"]]
    expectKey "CURSOR"
    if (← oneOf ["WITH", "WITHOUT"]).isSome then expectKey "HOLD"
    expectKey "FOR"
    let _ ← r.query

/-- From behind `FETCH`. -/
def fetching : Reader Unit := do
  match ← oneOf ["NEXT", "PRIOR", "FIRST", "LAST", "ABSOLUTE", "RELATIVE", "FORWARD", "BACKWARD",
    "ALL"] with
  | some "ABSOLUTE" | some "RELATIVE" | none => let _ ← signlessNumber
  | some "FORWARD" | some "BACKWARD" => unless ← key "ALL" do let _ ← signlessNumber
  | some _ => pure ()
  unless (← oneOf ["FROM", "IN"]).isSome do refuseHere "Expected FROM or IN"
  let _ ← identifier
  if ← key "INTO" then let _ ← objectName

/-- From behind `EXECUTE`. -/
def execution : Reader Unit := do
  let _ ← objectName
  let grouped ← mark "("
  let bare ← do
    if grouped then atMark ")"
    else if (← peek).token == .ending then pure true
    else if ← atOneOf ["USING", "OUTPUT", "DEFAULT"] then pure true
    else atMark ";"
  unless bare do let _ ← commaList r.any
  if grouped then expectMark ")"
  if ← key "INTO" then let _ ← commaList identifier
  if ← key "USING" then
    let _ ← commaList do
      let _ ← r.any
      if ← key "AS" then let _ ← identifier
  may ["OUTPUT"]
  may ["DEFAULT"]

/-- From behind `PREPARE`. -/
def preparation : Reader Unit := do
  let _ ← identifier
  if ← mark "(" then
    let _ ← commaList (typeName r)
    expectMark ")"
  expectKey "AS"
  r.statement

/-! ## Files and other databases -/

/-- A text between double quotes, in which quotes, backslashes and line breaks are escaped. -/
def displayText (s : String) : String :=
  let inner := s.toList.flatMap fun c =>
    match c with
    | '"' => ['\\', '"']
    | '\'' => ['\'']
    | c => escapeControls [c]
  "\"" ++ String.ofList inner ++ "\""

/-- A single character. -/
def literalChar : Reader Unit := do
  let t ← peek
  let s ← literalString
  if s.utf8ByteSize != 1 then refuseAt ("Expect a char, found " ++ displayText s) t

/-- One option of a copy. -/
def copyOption : Reader Unit := do
  match ← oneOf ["FORMAT", "FREEZE", "DELIMITER", "NULL", "HEADER", "QUOTE", "ESCAPE",
    "FORCE_QUOTE", "FORCE_NOT_NULL", "FORCE_NULL", "ENCODING"] with
  | some "FORMAT" => let _ ← identifier
  | some "FREEZE" | some "HEADER" => let _ ← oneOf ["TRUE", "FALSE"]
  | some "DELIMITER" | some "QUOTE" | some "ESCAPE" => literalChar
  | some "NULL" | some "ENCODING" => let _ ← literalString
  | some _ => let _ ← columnList
  | none => expectedHere "option"

/-- One option of a copy of comma-separated values. -/
def csvOption : Reader (Option Unit) := attempt do
  match ← oneOf ["HEADER", "QUOTE", "ESCAPE", "FORCE"] with
  | some "HEADER" => return
  | some "FORCE" =>
    unless ← eitherKeys [["NOT", "NULL"], ["QUOTE"]] do expectedHere "csv option"
    let _ ← commaList identifier
  | some _ =>
    may ["AS"]
    literalChar
  | none => expectedHere "csv option"

/-- One option of a copy in the older form. -/
def plainCopyOption : Reader (Option Unit) := attempt do
  if ← key "FORMAT" then may ["AS"]
  match ← oneOf ["BINARY", "DELIMITER", "NULL", "CSV", "HEADER", "GZIP", "BZIP2", "ZSTD", "PARQUET",
    "ESCAPE", "ADDQUOTES", "ALLOWOVERWRITE", "CLEANPATH", "IAM_ROLE", "IGNOREHEADER"] with
  | some "DELIMITER" =>
    may ["AS"]
    literalChar
  | some "NULL" =>
    may ["AS"]
    let _ ← literalString
  | some "CSV" => let _ ← repeated csvOption
  | some "IAM_ROLE" => unless ← key "DEFAULT" do let _ ← literalString
  | some "IGNOREHEADER" =>
    may ["AS"]
    let _ ← literalUint
  | some _ => return
  | none => expectedHere "option"

/-- Passes over rows of data up to a backslash and a dot, or to the end. -/
def passRows : Reader Unit := do
  let _ ← repeated do
    let t ← next
    match t.token with
    | .ending => return none
    | .mark "\\" => if ← mark "." then return none else return some ()
    | _ => return some ()

/-- From behind `COPY`. -/
def copying : Reader Unit := do
  let fromQuery ← mark "("
  if fromQuery then
    let _ ← r.query
    expectMark ")"
  else
    let _ ← objectName
    let _ ← optionalColumnList
  match ← oneOf ["FROM", "TO"] with
  | none => expectedHere "FROM or TO"
  | some word =>
    if word == "FROM" && fromQuery then refuse "COPY ... FROM does not support query as a source"
    let input ← key "STDIN"
    unless input do
      unless ← key "STDOUT" do
        may ["PROGRAM"]
        let _ ← literalString
    may ["WITH"]
    if ← mark "(" then
      let _ ← commaList copyOption
      expectMark ")"
    let _ ← repeated plainCopyOption
    if input then
      expectMark ";"
      passRows

/-- From behind `ATTACH`. -/
def attaching : Reader Unit := do
  may ["DATABASE"]
  let _ ← r.any
  expectKey "AS"
  let _ ← identifier

/-- From behind `UNLOAD`. -/
def unloading : Reader Unit := do
  let _ ← parens do
    match (← peek).token with
    | .text .single _ => literalString
    | _ => r.query
  expectKey "TO"
  let _ ← identifier
  let _ ← settings r ["WITH"]
  let _ ← repeated plainCopyOption

/-- From behind `EXPORT`. -/
def exporting : Reader Unit := do
  expectKey "DATA"
  if ← keys ["WITH", "CONNECTION"] then let _ ← objectName
  expectKey "OPTIONS"
  let _ ← parens (commaList (setting r))
  expectKey "AS"
  let _ ← r.query

/-! ## Upkeep -/

/-- One clause behind `ANALYZE`. -/
def analysisClause : Reader (Option Unit) := do
  match ← oneOf ["PARTITION", "FOR", "CACHE", "NOSCAN", "COMPUTE"] with
  | some "PARTITION" => partValues r
  | some "FOR" =>
    expectKey "COLUMNS"
    let _ ← attempt (commaList identifier)
  | some "CACHE" => expectKey "METADATA"
  | some "COMPUTE" => expectKey "STATISTICS"
  | some _ => pure ()
  | none => return none
  return some ()

/-- From behind `ANALYZE`. -/
def analysis : Reader Unit := do
  may ["TABLE"]
  let _ ← attempt objectName
  let _ ← repeated (analysisClause r)

/-- From behind `TRUNCATE`. -/
def truncation : Reader Unit := do
  may ["TABLE"]
  may ["IF", "EXISTS"]
  let _ ← commaList do
    may ["ONLY"]
    let _ ← objectName
    let _ ← mark "*"
  if ← key "PARTITION" then partValues r
  if (← flavor) == .postgres then
    let _ ← eitherKeys [["RESTART", "IDENTITY"], ["CONTINUE", "IDENTITY"]]
    dropBehavior
  if ← keys ["ON", "CLUSTER"] then let _ ← identifier

/-- From behind `VACUUM`. -/
def vacuuming : Reader Unit := do
  may ["FULL"]
  may ["SORT", "ONLY"]
  may ["DELETE", "ONLY"]
  may ["REINDEX"]
  may ["RECLUSTER"]
  if (← attempt objectName).isSome then
    if ← key "TO" then
      let _ ← constant
      expectKey "PERCENT"
    may ["BOOST"]

/-- What MySQL flushes. -/
def flushed : List (List String) :=
  [["BINARY", "LOGS"], ["ENGINE", "LOGS"], ["ERROR", "LOGS"], ["GENERAL", "LOGS"], ["HOSTS"],
    ["PRIVILEGES"], ["OPTIMIZER_COSTS"], ["SLOW", "LOGS"], ["STATUS"], ["USER_RESOURCES"], ["LOGS"]]

/-- From behind `FLUSH`. -/
def flushing : Reader Unit := do
  if (← flavor) != .mysql then refuseHere "Unsupported statement FLUSH"
  let _ ← oneOf ["NO_WRITE_TO_BINLOG", "LOCAL"]
  if ← eitherKeys flushed then return
  else if ← keys ["RELAY", "LOGS"] then
    if ← keys ["FOR", "CHANNEL"] then let _ ← objectName
  else if (← oneOf ["TABLES", "TABLE"]).isSome then
    let _ ← repeated do
      let t ← next
      match t.token with
      | .word _ _ k =>
        match k with
        | "WITH" => expectKeys ["READ", "LOCK"]
        | "FOR" => expectKey "EXPORT"
        | _ =>
          modify (t :: ·)
          let _ ← commaList objectName
        return some ()
      | _ =>
        modify (t :: ·)
        return none
  else
    expectedHere ("BINARY LOGS, ENGINE LOGS, ERROR LOGS, GENERAL LOGS, HOSTS, LOGS, PRIVILEGES, "
      ++ "OPTIMIZER_COSTS, RELAY LOGS [FOR CHANNEL channel], SLOW LOGS, STATUS, USER_RESOURCES")

/-- From behind `KILL`. -/
def killing : Reader Unit := do
  let kind ← oneOf ["CONNECTION", "QUERY", "MUTATION"]
  let _ ← literalUint
  if kind == some "MUTATION" then
    expectedHere "Unsupported type for KILL, allowed: CONNECTION | QUERY"

/-- From behind `MSCK`. -/
def tableRepair : Reader Unit := do
  may ["REPAIR"]
  expectKey "TABLE"
  let _ ← objectName
  let _ ← attempt do
    let _ ← oneOf ["ADD", "DROP", "SYNC"]
    expectKey "PARTITIONS"

/-- From behind `CACHE`. -/
def caching : Reader Unit := do
  let before ← get
  unless ← key "TABLE" do
    let _ ← objectName
    unless ← key "TABLE" do
      if (← peek).token == .ending then
        expected "a \x60TABLE\x60 keyword"
          ((before.drop (before.length - (← get).length - 1)).headD Located.ending)
      else expectedHere "a \x60TABLE\x60 keyword"
  let _ ← objectName
  let _ ← settings r ["OPTIONS"]
  if (← peek).token == .ending then return
  unless ← atWord do expectedHere "a QUERY statement"
  may ["AS"]
  let _ ← r.query

/-- From behind `UNCACHE`. -/
def uncaching : Reader Unit := do
  unless ← key "TABLE" do expectedHere "a \x60TABLE\x60 keyword"
  may ["IF", "EXISTS"]
  let _ ← objectName

/-- From behind `DISCARD`. -/
def discarding : Reader Unit := do
  unless (← oneOf ["ALL", "PLANS", "SEQUENCES", "TEMP", "TEMPORARY"]).isSome do
    expectedHere "ALL, PLANS, SEQUENCES, TEMP or TEMPORARY after DISCARD"

/-- From behind `RENAME`. -/
def tablesRenamed : Reader Unit := do
  unless ← key "TABLE" do expectedHere "KEYWORD \x60TABLE\x60 after RENAME"
  let _ ← commaList do
    let _ ← objectName
    expectKey "TO"
    let _ ← objectName

/-- The tables that MySQL locks, from behind `LOCK TABLES`. -/
def tableLocks : Reader Unit := do
  let _ ← commaList do
    let _ ← identifier
    let _ ← alias? ["READ", "WRITE", "LOW_PRIORITY"]
    unless ← eitherKeys [["READ", "LOCAL"], ["READ"], ["WRITE"], ["LOW_PRIORITY", "WRITE"]] do
      expectedHere "an lock type in LOCK TABLES"

/-! ## Messages and remarks -/

/-- From behind `COMMENT`. -/
def remark : Reader Unit := do
  may ["IF", "EXISTS"]
  expectKey "ON"
  let t ← next
  if t.token.isKey "MATERIALIZED" then expectKey "VIEW"
  else unless ["COLUMN", "DATABASE", "DOMAIN", "EXTENSION", "FUNCTION", "INDEX", "PROCEDURE",
    "ROLE", "SCHEMA", "SEQUENCE", "TABLE", "TYPE", "USER", "VIEW"].any t.token.isKey do
    expected "comment object_type" t
  let _ ← objectName
  expectKey "IS"
  unless ← key "NULL" do let _ ← literalString

/-- From behind `RAISERROR`. -/
def raisedError : Reader Unit := do
  expectMark "("
  let _ ← r.any
  expectMark ","
  let _ ← r.any
  expectMark ","
  let _ ← r.any
  if ← mark "," then let _ ← commaList r.any
  expectMark ")"
  if ← key "WITH" then
    let _ ← commaList do
      unless (← oneOf ["LOG", "NOWAIT", "SETERROR"]).isSome do
        expectedHere "LOG, NOWAIT OR SETERROR raiserror option"

/-- From behind `PRAGMA`. -/
def pragma : Reader Unit := do
  let value : Reader Unit := do
    let t ← peek
    let c ← constant
    unless c.numeric do
      match t.token with
      | .text .single _ | .text .double _ => pure ()
      | _ => expected "number or string or ? placeholder" t
  let _ ← objectName
  if ← mark "(" then
    value
    expectMark ")"
  else if ← mark "=" then value

/-- From behind `NOTIFY`. -/
def notifying : Reader Unit := do
  let _ ← identifier
  if ← mark "," then let _ ← literalString

/-- From behind `UNLISTEN`. -/
def unlistening : Reader Unit := do
  if ← mark "*" then return
  if (← identifier?).isNone then expectedHere "wildcard or identifier"

/-- From behind `CALL`. -/
def calling : Reader Unit := do
  let n ← objectName
  if ← atMark "(" then let _ ← call r n

/-- From behind `ASSERT`. -/
def asserting : Reader Unit := do
  let _ ← r.any
  if ← key "AS" then let _ ← r.any

end

end SchemaChart.Grammar
