-- Comments as statements of their own. Each of them sets the one comment that it names and leaves
-- all else as it was, whatever characters the names and the comment hold.
import Mathlib.Data.List.NodupEquivFin
import SchemaChart.Proofs.Enumerations
import SchemaChart.Proofs.Facts
import SchemaChart.Proofs.TableRoundTrip
import SchemaChart.Reading.Comment

namespace SchemaChart.Export

open Text

/-! ## Statements in writing -/

/-- The statement that comments on a table, up to its semicolon. -/
def tableComment (t : Diagram.Table) (c : String) : String :=
  "COMMENT ON TABLE " ++ Quoting.table ⟨.postgresql, true⟩ t ++ " IS " ++ quoteLiteral c

/-- The statement that comments on a column of a table, up to its semicolon. -/
def columnComment (t : Diagram.Table) (column c : String) : String :=
  "COMMENT ON COLUMN " ++ Quoting.table ⟨.postgresql, true⟩ t ++ "."
    ++ Quoting.ident ⟨.postgresql, true⟩ column ++ " IS " ++ quoteLiteral c

/-- A statement that comments on something. -/
def commentText (kind target c : List Char) : List Char :=
  "COMMENT ON ".toList ++ kind ++ [' '] ++ target ++ " IS ".toList ++ literal c

/-- The name of a column behind that of its table. -/
def columnName (schema : Option String) (table column : String) : List Char :=
  typeName schema table ++ '.' :: quotedName column.toList

theorem tableComment_toList {t : Diagram.Table} (hschema : t.schema ≠ some "") (c : String) :
    (tableComment t c).toList = commentText "TABLE".toList (typeName t.schema t.name) c.toList := by
  have htable : (Quoting.table ⟨.postgresql, true⟩ t).toList = typeName t.schema t.name :=
    qualified_toList hschema
  have hwords : "COMMENT ON TABLE ".toList = "COMMENT ON ".toList ++ "TABLE".toList ++ [' '] := by
    decide
  unfold tableComment commentText
  simp only [String.toList_append, htable, quoteLiteral_toList, hwords]

theorem columnComment_toList {t : Diagram.Table} (hschema : t.schema ≠ some "")
    (column c : String) :
    (columnComment t column c).toList
      = commentText "COLUMN".toList (columnName t.schema t.name column) c.toList := by
  have htable : (Quoting.table ⟨.postgresql, true⟩ t).toList = typeName t.schema t.name :=
    qualified_toList hschema
  have hcolumn : (Quoting.ident ⟨.postgresql, true⟩ column).toList = quotedName column.toList :=
    quoteIdentifier_postgresql column
  have hwords : "COMMENT ON COLUMN ".toList = "COMMENT ON ".toList ++ "COLUMN".toList ++ [' '] := by
    decide
  have hdot : ".".toList = ['.'] := rfl
  unfold columnComment commentText columnName
  simp only [String.toList_append, htable, hcolumn, quoteLiteral_toList, hwords, hdot,
    List.append_assoc, List.cons_append, List.nil_append]

theorem commentStatements_eq (t : Diagram.Table) :
    commentStatements ⟨.postgresql, true⟩ t
      = commentLines t (tableComment t · ++ ";") (fun f c => columnComment t f.name c ++ ";") := by
  unfold commentStatements tableComment columnComment
  rfl

/-! ## Statements as they are read -/

section

open Pattern

variable {schema : Option String} {table column : String}

theorem columnName_takes (htable : table ≠ "") (hschema : schema ≠ some "") (hcolumn : column ≠ "")
    {next : Char} (hblank : isBlank next = false) (hnext : next ≠ '.') (rest : List Char) :
    Takes qualifiedName (columnName schema table column) (' ' :: next :: rest) [] := by
  have hident : Takes identifier (quotedName column.toList) (' ' :: next :: rest) [] :=
    takes_doubled (by simpa using hcolumn) (by simp)
  have hstart : ∀ name text, ∀ c ∈ (quotedName name ++ text).head?, isBlank c = false :=
    fun name text c hc => Option.some.inj hc ▸ rfl
  cases schema with
  | none =>
    refine Takes.dottedName (takes_doubled (by simpa using htable) (by simp)) hident (hstart _ _) ?_
    exact Fails.space_seq (Fails.char "." '.' rfl (by simp))
      (Fails.char "." '.' rfl (by simpa using hnext)) (by simpa using hblank)
  | some s =>
    have hs : s.toList ≠ [] := by simpa using hschema
    have ht : table.toList ≠ [] := by simpa using htable
    have hthree := Takes.dottedNames (takes_doubled hs (by simp)) (takes_doubled ht (by simp))
      (hstart _ _) hident (hstart _ _)
    simpa [columnName, typeName, quotedName] using hthree

theorem splitQualified_columnName (htable : table ≠ "") (hschema : schema ≠ some "")
    (hcolumn : column ≠ "") :
    splitQualified (columnName schema table column)
      = (schema.map String.toList).toList ++ [table.toList, column.toList] := by
  have hnames : ∀ n ∈ (schema.map String.toList).toList ++ [table.toList, column.toList],
      n ≠ [] := by
    cases schema with
    | none => simpa using ⟨htable, hcolumn⟩
    | some s => simpa using ⟨by simpa using hschema, htable, hcolumn⟩
  have htext : columnName schema table column
      = quotedNames ((schema.map String.toList).toList ++ [table.toList, column.toList]) := by
    cases schema <;>
      simp [columnName, typeName, quotedNames_cons, quotedNames_singleton]
  rw [htext, splitQualified_quotedNames (by simp) hnames]

theorem commentStatement_find? {kind target c : List Char}
    (hkind : ∀ rest, Takes (oneOf ["TABLE", "COLUMN"]) kind (' ' :: rest) [])
    (hletter : ∀ rest, ∀ d ∈ (kind ++ rest).head?, isBlank d = false)
    (htarget : ∀ rest, Takes qualifiedName target (' ' :: 'I' :: rest) [])
    (hquote : ∀ rest, (target ++ rest).head? = some '"') :
    ∃ f, Reading.commentStatement.find? (commentText kind target c) = some f ∧
      f.group "kind" = kind ∧ f.group "target" = target ∧ f.group "value" = literal c := by
  have hstart : ∀ text, TakesFirst (textStart ++ gap) [] ("COMMENT ON ".toList ++ text) [] :=
    fun text => TakesFirst.start fun d hd => Option.some.inj hd ▸ rfl
  have hcomment : ∀ text, Takes (phrase "COMMENT ON ") "COMMENT ON ".toList (kind ++ text) [] :=
    fun text => Takes.phrase rfl (by decide) fun _ => hletter text
  have hspace : ∀ text, Takes blanks [' '] (target ++ text) [] := fun text =>
    Takes.space fun d hd => Option.some.inj ((hquote text).symm.trans hd) ▸ rfl
  have his : Takes (phrase " IS ") " IS ".toList (literal c ++ []) [] :=
    Takes.phrase rfl (by decide) fun _ d hd => Option.some.inj hd ▸ rfl
  have hvalue : Takes (group "value" (quotedText <|> phrase "NULL")) (literal c) []
      [("value", literal c)] := (takes_quotedText c (by simp)).left.group "value"
  have hname : Takes qualifiedName target (" IS ".toList ++ (literal c ++ [])) [] := by
    rw [show " IS ".toList = [' ', 'I', 'S', ' '] by decide]
    exact htarget _
  have hhead := ((((hstart _).seq (hcomment _)).seq ((hkind _).group "kind")).seq (hspace _)).seq
    (hname.group "target")
  have hfound := ((hhead.seq his).seq hvalue).seq_two ((Takes.noGap (by simp)).seq Takes.textEnd)
  have hfind := hfound.find?
  simp only [List.append_nil, List.nil_append] at hfind
  exact ⟨_, hfind, rfl, rfl, rfl⟩

theorem comment_table (htable : table ≠ "") (hschema : schema ≠ some "") (c : String) :
    Reading.commentDeclaration (commentText "TABLE".toList (typeName schema table) c.toList)
      = .ok (.tableComment ⟨table, schema⟩ (some c)) := by
  obtain ⟨f, hfind, hkind, htarget, hvalue⟩ := commentStatement_find? (c := c.toList)
    (fun rest => Takes.left (Takes.phrase rfl (by decide) fun h => absurd h (by decide)))
    (fun rest d hd => Option.some.inj hd ▸ rfl)
    (typeName_takes htable hschema rfl (by decide)) (typeName_head schema table)
  rw [Reading.commentDeclaration, hfind]
  simp only [hkind, htarget, hvalue, unquoteLiteral?_literal, parse_typeName htable hschema,
    Option.map_some, String.ofList_toList]
  exact if_pos (by decide)

theorem comment_column (htable : table ≠ "") (hschema : schema ≠ some "") (hcolumn : column ≠ "")
    (c : String) :
    Reading.commentDeclaration
        (commentText "COLUMN".toList (columnName schema table column) c.toList)
      = .ok (.columnComment ⟨table, schema⟩ column (some c)) := by
  have hhead : ∀ rest, (columnName schema table column ++ rest).head? = some '"' := by
    intro rest
    rw [columnName, List.append_assoc]
    exact typeName_head schema table _
  obtain ⟨f, hfind, hkind, htarget, hvalue⟩ := commentStatement_find? (c := c.toList)
    (fun rest => Takes.right (Fails.phrase rfl)
      (Takes.phrase rfl (by decide) fun h => absurd h (by decide)))
    (fun rest d hd => Option.some.inj hd ▸ rfl)
    (columnName_takes htable hschema hcolumn rfl (by decide)) hhead
  rw [Reading.commentDeclaration, hfind]
  simp only [hkind, htarget, hvalue, unquoteLiteral?_literal,
    splitQualified_columnName htable hschema hcolumn, Option.map_some, String.ofList_toList]
  rw [if_neg (by decide)]
  cases schema <;> simp

end

end SchemaChart.Export

namespace SchemaChart.Schema

/-! ## What a comment changes -/

/-- What occurs once stands at one position. -/
theorem eq_of_count_eq_one {α : Type*} [DecidableEq α] {l : List α} {x : α} (h : l.count x = 1)
    {i j : Nat} (hi : l[i]? = some x) (hj : l[j]? = some x) : i = j := by
  wlog hlt : i < j generalizing i j
  · rcases Nat.lt_trichotomy i j with hij | hij | hij
    · exact absurd hij hlt
    · exact hij
    · exact (this hj hi hij).symm
  obtain ⟨hil, hix⟩ := List.getElem?_eq_some_iff.mp hi
  obtain ⟨hjl, hjx⟩ := List.getElem?_eq_some_iff.mp hj
  have htwice : 2 ≤ l.count x := List.duplicate_iff_two_le_count.mp
    (List.duplicate_iff_exists_distinct_get.mpr ⟨⟨i, hil⟩, ⟨j, hjl⟩, hlt, hix.symm, hjx.symm⟩)
  omega

/-- A column whose name no other has is found at its position, also beside names that differ from
it by case alone. -/
theorem Table.position?_of_count {t : Table} {j : Nat} {column : Column}
    (hj : t.columns[j]? = some column) (hone : (t.columns.map (·.name)).count column.name = 1) :
    t.position? column.name = some j := by
  have hmem : ∃ c ∈ t.columns, Column.name c = column.name := ⟨column, List.mem_of_getElem? hj, rfl⟩
  obtain ⟨k, found, hk, hfound, hname⟩ := positionByName?_exact hmem
  have hkj : k = j := eq_of_count_eq_one hone (by simp [hfound, hname]) (by simp [hj])
  rw [position?, hk, hkj]

namespace Builder

variable {b : Builder} {i : Nat} {t : Table}

theorem Reached.resolve_ref (h : Reached b) (ht : b.tables[i]? = some t) :
    b.resolve t.ref = (some i, b) := by
  rw [Builder.resolve, lookupExact?_ref h.tables_apart ht]

theorem Reached.declare_tableComment (h : Reached b) (ht : b.tables[i]? = some t)
    (comment : Option String) :
    b.declare (.tableComment t.ref comment)
      = b.modifyTable i fun t => { t with comment := comment } := by
  rw [declare, h.resolve_ref ht]
  rfl

theorem Reached.declare_columnComment (h : Reached b) (ht : b.tables[i]? = some t) {j : Nat}
    {column : Column} (hj : t.columns[j]? = some column)
    (hone : (t.columns.map (·.name)).count column.name = 1) (comment : Option String) :
    b.declare (.columnComment t.ref column.name comment) = b.modifyTable i fun t =>
      { t with columns := t.columns.modify j fun c => { c with comment := comment } } := by
  have hposition := Table.position?_of_count hj hone
  have hcolumn : t.column? column.name = some column := by
    rw [Table.column?, hposition, Option.bind_some, hj]
  have htables : b.tables.modify i
        (·.modifyColumn column.name fun c => { c with comment := comment })
      = b.tables.modify i fun t =>
        { t with columns := t.columns.modify j fun c => { c with comment := comment } } := by
    apply modify_eq_of_getElem? ht
    rw [Table.modifyColumn, hposition]
  rw [declare, h.resolve_ref ht]
  simp only [Builder.setColumnComment, Builder.onColumn, ht, hcolumn, modifyTable, htables]

end Builder

end SchemaChart.Schema

namespace SchemaChart.Export

open Schema (Builder)

/-- Comments of PostgreSQL come back, and nothing else changes. In every state of a schema, the
statement that is written for a table is read as a comment that this table gets and no other, and
the statement for a column as a comment that this column gets and no other, if the column has a name
and shares it with none. -/
theorem comments_come_back_and_change_nothing_else {b : Builder} (hb : b.Reached) {i : Nat}
    {t : Schema.Table} (ht : b.tables[i]? = some t) (hname : t.name ≠ "")
    (hschema : t.schema ≠ some "") {u : Diagram.Table} (huname : u.name = t.name)
    (huschema : u.schema = t.schema) :
    commentStatements ⟨.postgresql, true⟩ u
        = ((comment? u.comments).map (tableComment u · ++ ";")).toList
          ++ u.fields.filterMap
            (fun f => (comment? f.comments).map (columnComment u f.name · ++ ";")) ∧
      (∀ c, Reading.comment (tableComment u c).toList b
        = .ok () (b.modifyTable i fun t => { t with comment := some c })) ∧
      ∀ j column, t.columns[j]? = some column → column.name ≠ "" →
        (t.columns.map (·.name)).count column.name = 1 →
        ∀ c, Reading.comment (columnComment u column.name c).toList b
          = .ok () (b.modifyTable i fun t =>
            { t with columns := t.columns.modify j fun k => { k with comment := some c } }) := by
  have hu : u.schema ≠ some "" := huschema ▸ hschema
  refine ⟨commentStatements_eq u, fun c => ?_, fun j column hj hcolumn hone c => ?_⟩
  · rw [tableComment_toList hu, huname, huschema, Reading.comment_eq,
      Schema.Writing.declaring_ok (comment_table hname hschema c)]
    exact congrArg (EStateM.Result.ok ()) (hb.declare_tableComment ht (some c))
  · rw [columnComment_toList hu, huname, huschema, Reading.comment_eq,
      Schema.Writing.declaring_ok (comment_column hname hschema hcolumn c)]
    exact congrArg (EStateM.Result.ok ()) (hb.declare_columnComment ht hj hone (some c))

/-- A table whose names hold what separates and quotes, and whose columns differ by case alone. -/
def oddTable : Schema.Table :=
  { name := "a\"b.c", schema := some "s\"."
    columns := [{ name := "X.y\"", type := "int" }, { name := "x.y\"", type := "int" }] }

/-- The table as it is drawn. -/
def drawnOddTable : Diagram.Table :=
  { id := "t", name := "a\"b.c", schema := some "s\".", color := "", fields := [] }

/-- A schema with that table behind another of the same name. -/
def oddSchema : Builder :=
  (Builder.addTable (Builder.addTable { dialect := .postgresql }
    { oddTable with schema := none }).2 oddTable).2

theorem an_odd_column_gets_its_comment :
    oddSchema.Reached ∧ drawnOddTable.name = oddTable.name ∧
      drawnOddTable.schema = oddTable.schema ∧
      Reading.comment ("COMMENT ON COLUMN \"s\"\".\".\"a\"\"b.c\".\"x.y\"\"\" " ++
          "IS 'it''s; \"x\"'").toList oddSchema
        = .ok () (oddSchema.modifyTable 1 fun t =>
          { t with
            columns := t.columns.modify 1 fun k => { k with comment := some "it's; \"x\"" } }) := by
  have hreached : oddSchema.Reached := .addTable _ (.addTable _ (.start _))
  have ht : oddSchema.tables[1]? = some { oddTable with id := "t1", order := 1 } := by decide
  have htext : columnComment drawnOddTable "x.y\"" "it's; \"x\""
      = "COMMENT ON COLUMN \"s\"\".\".\"a\"\"b.c\".\"x.y\"\"\" " ++ "IS 'it''s; \"x\"'" := by
    decide
  obtain ⟨-, -, hcolumns⟩ := comments_come_back_and_change_nothing_else hreached ht (by decide)
    (by decide) (u := drawnOddTable) rfl rfl
  refine ⟨hreached, rfl, rfl, ?_⟩
  rw [← htext]
  exact hcolumns 1 { name := "x.y\"", type := "int" } rfl (by decide) (by decide) "it's; \"x\""

/-- A table whose one column has no name. -/
def namelessTable : Schema.Table :=
  { id := "t0", name := "t", schema := none, columns := [{ name := "", type := "int" }] }

/-- The table as it is drawn, with a comment on its column. -/
def drawnNamelessTable : Diagram.Table :=
  { id := "t", name := "t", color := "",
    fields := [{ id := "f", name := "", type := .named "int", comments := some "x" }] }

/-- A schema with that table. -/
def namelessSchema : Builder := (Builder.addTable { dialect := .postgresql } namelessTable).2

/-- The statement for a column without a name is written, but cannot be read. -/
theorem a_column_without_a_name_gets_no_comment :
    namelessSchema.Reached ∧ namelessSchema.tables = [namelessTable] ∧
      (namelessTable.columns.map (·.name)).count "" = 1 ∧
      commentStatements ⟨.postgresql, true⟩ drawnNamelessTable
        = ["COMMENT ON COLUMN \"t\".\"\" IS 'x';"] ∧
      Reading.comment "COMMENT ON COLUMN \"t\".\"\" IS 'x'".toList namelessSchema
        = .error (.refused "unsupported COMMENT ON form") namelessSchema := by
  refine ⟨.addTable _ (.start _), by decide, by decide, by decide, ?_⟩
  have hread : Reading.commentDeclaration "COMMENT ON COLUMN \"t\".\"\" IS 'x'".toList
      = .error "unsupported COMMENT ON form" := by decide +kernel
  rw [Reading.comment_eq, hread]
  rfl

end SchemaChart.Export
