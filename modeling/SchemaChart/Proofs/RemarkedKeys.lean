-- Foreign keys as remarks, for SQLite. The dashes of a remark stand once before each key, and a
-- name is written with the line feeds that it holds: what follows one is a line of its own.
import SchemaChart.Proofs.KeyBlock
import SchemaChart.Proofs.TableOrder
import SchemaChart.Proofs.WrittenKeys

namespace SchemaChart.Text

/-- Do the dashes of a remark stand behind every line feed of a text. -/
def opensRemarks : List Char → Bool
  | [] => true
  | c :: cs => (c != '\n' || startsWith cs "--") && opensRemarks cs

/-! ## Lines that are remarks -/

section

variable (a b : Char) (cs : List Char)

@[simp] theorem startsWith_dashes_nil : startsWith [] "--" = false := rfl

@[simp] theorem startsWith_dashes_single : startsWith [a] "--" = false := by
  simp [startsWith, dropHead?]

@[simp] theorem startsWith_dashes_cons :
    startsWith (a :: b :: cs) "--" = (a == '-' && b == '-') := by
  by_cases ha : a = '-' <;> by_cases hb : b = '-' <;>
    simp [startsWith, dropHead?, ha, hb, eq_comm (a := '-')]

/-- Dashes at the start of a text stand in its first line. -/
theorem startsWith_firstLine :
    startsWith (cs.takeWhile (· != '\n')) "--" = startsWith cs "--" := by
  match cs with
  | [] => rfl
  | [a] => by_cases ha : a = '\n' <;> simp [ha]
  | a :: b :: cs => by_cases ha : a = '\n' <;> by_cases hb : b = '\n' <;> simp [ha, hb]

theorem startsWith_dropReturn : startsWith (dropReturn cs) "--" = startsWith cs "--" := by
  rw [dropReturn]
  cases htail : dropTail? ['\r'] cs with
  | none => rfl
  | some before =>
    rw [dropTail?_eq_some_iff.mp htail, Option.getD_some]
    match before with
    | [] => rfl
    | [_] => simp
    | _ :: _ :: _ => simp

end

/-- The lines behind the first one are those that line feeds open. -/
theorem pieces_opensRemarks (cs : List Char) :
    ∃ later, pieces (· == '\n') cs = cs.takeWhile (· != '\n') :: later ∧
      later.all (startsWith · "--") = opensRemarks cs := by
  induction cs with
  | nil => exact ⟨[], rfl, rfl⟩
  | cons c cs ih =>
    obtain ⟨later, hpieces, hlater⟩ := ih
    rw [pieces, hpieces]
    by_cases hc : c = '\n'
    · subst hc
      refine ⟨cs.takeWhile (· != '\n') :: later, rfl, ?_⟩
      rw [List.all_cons, startsWith_firstLine, hlater]
      rfl
    · exact ⟨later, by simp [hc, consHead], by simp [opensRemarks, hc, hlater]⟩

theorem lines_all_remarks (cs : List Char) :
    (lines (cs ++ ['\n'])).all (startsWith · "--") = (startsWith cs "--" && opensRemarks cs) := by
  obtain ⟨later, hpieces, hlater⟩ := pieces_opensRemarks cs
  rw [lines_ended, List.all_map]
  simp only [Function.comp_def, startsWith_dropReturn]
  rw [hpieces, List.all_cons, startsWith_firstLine, hlater]

/-! ## Texts in a row -/

/-- A text without line feeds opens no line. -/
theorem opensRemarks_words {as : List Char} (h : '\n' ∉ as) (bs : List Char) :
    opensRemarks (as ++ bs) = opensRemarks bs := by
  induction as with
  | nil => rfl
  | cons a as ih =>
    obtain ⟨ha, has⟩ := not_or.mp (mt List.mem_cons.mpr h)
    have hne : (a != '\n') = true := bne_iff_ne.mpr (Ne.symm ha)
    rw [List.cons_append, opensRemarks, ih has, hne, Bool.true_or, Bool.true_and]

theorem startsWith_append {bs : List Char} (h : bs.head? ≠ some '-') (as : List Char) :
    startsWith (as ++ bs) "--" = startsWith as "--" := by
  match as, bs with
  | [], [] => rfl
  | [], [_] => simp
  | [], _ :: _ :: _ => simp_all
  | [_], [] => rfl
  | [_], _ :: _ => simp_all
  | _ :: _ :: _, _ => simp

/-- Dashes behind a line feed all stand in the text that holds it, if none stand behind that. -/
theorem opensRemarks_append {bs : List Char} (h : bs.head? ≠ some '-') (as : List Char) :
    opensRemarks (as ++ bs) = (opensRemarks as && opensRemarks bs) := by
  induction as with
  | nil => rfl
  | cons a as ih =>
    rw [List.cons_append, opensRemarks, opensRemarks, startsWith_append h, ih, Bool.and_assoc]

theorem startsWith_double {q : Char} (hq : q ≠ '-') (cs : List Char) :
    startsWith (double q cs) "--" = startsWith cs "--" := by
  match cs with
  | [] => rfl
  | [a] => by_cases ha : a = q <;> simp [double, ha, hq]
  | a :: b :: cs => by_cases ha : a = q <;> by_cases hb : b = q <;> simp [double, ha, hb, hq]

theorem opensRemarks_double {q : Char} (hq : q ≠ '-') (hline : q ≠ '\n') (cs : List Char) :
    opensRemarks (double q cs) = opensRemarks cs := by
  induction cs with
  | nil => rfl
  | cons c cs ih =>
    by_cases hc : c = q
    · subst hc
      have hne : (c != '\n') = true := bne_iff_ne.mpr hline
      rw [double_cons_self]
      simp only [opensRemarks, hne, Bool.true_or, Bool.true_and, ih]
    · rw [double_cons_of_ne hc, opensRemarks, opensRemarks, startsWith_double hq, ih]

theorem startsWith_lines {l : List Char} (ls : List (List Char)) :
    startsWith (['\n'].intercalate (l :: ls)) "--" = startsWith l "--" := by
  cases ls with
  | nil => rw [List.intercalate_singleton]
  | cons m ls =>
    rw [List.intercalate_cons_cons, List.append_assoc]
    exact startsWith_append (by simp) l

/-- Remarks in their lines. -/
theorem opensRemarks_lines {ls : List (List Char)} (h : ∀ l ∈ ls, startsWith l "--" = true) :
    opensRemarks (['\n'].intercalate ls) = ls.all opensRemarks := by
  match ls with
  | [] => rfl
  | [l] => simp
  | l :: m :: ls =>
    have hlater := (List.forall_mem_cons.mp h).2
    have hstart : startsWith (['\n'].intercalate (m :: ls)) "--" = true := by
      rw [startsWith_lines]
      exact hlater m List.mem_cons_self
    rw [List.intercalate_cons_cons, List.append_assoc, opensRemarks_append (by simp), List.all_cons,
      ← opensRemarks_lines hlater, List.singleton_append, opensRemarks, hstart]
    simp

end SchemaChart.Text

namespace SchemaChart.Export

open Text

/-! ## Names in remarks -/

/-- The names that the statement of a key is written with. -/
def ForeignKey.writtenNames (k : ForeignKey) : List String :=
  [k.holder.schema.getD "", k.holder.name, k.name, k.holding.name, k.referenced.schema.getD "",
    k.referenced.name, k.target.name]

/-- Does no name of a key open a line that is not a remark. -/
def ForeignKey.staysRemark (k : ForeignKey) : Bool := k.writtenNames.all (opensRemarks ·.toList)

variable (q : Quoting) {rest : List Char}

theorem opensRemarks_quoteIdentifier (name : String) :
    opensRemarks ((quoteIdentifier q.dialect name).toList ++ rest) =
      (opensRemarks name.toList && opensRemarks rest) := by
  have hquotes : ∃ l r, identifierQuotes q.dialect = (l, r) ∧ l ≠ '\n' ∧ r ≠ '\n' ∧ r ≠ '-' := by
    cases q.dialect with
    | sqlServer => exact ⟨'[', ']', by decide⟩
    | mysql | mariadb => exact ⟨'`', '`', by decide⟩
    | _ => exact ⟨'"', '"', by decide⟩
  obtain ⟨l, r, hq, hl, hr, hdash⟩ := hquotes
  have htext : (quoteIdentifier q.dialect name).toList ++ rest =
      [l] ++ (double r name.toList ++ ([r] ++ rest)) := by
    simp [quoteIdentifier, hq]
  rw [htext, opensRemarks_words (by simpa using hl.symm),
    opensRemarks_append (by simpa using hdash), opensRemarks_double hdash hr,
    opensRemarks_words (by simpa using hr.symm)]

theorem opensRemarks_column (name : String) :
    opensRemarks ((q.columns [name]).toList ++ rest) =
      (opensRemarks name.toList && opensRemarks rest) := by
  have hone : q.columns [name] = quoteIdentifier q.dialect name := by
    simp [Quoting.columns, String.intercalate_singleton]
  rw [hone]
  exact opensRemarks_quoteIdentifier q name

theorem opensRemarks_ident (h : rest.head? ≠ some '-') (name : String) :
    opensRemarks ((q.ident name).toList ++ rest) =
      (opensRemarks name.toList && opensRemarks rest) := by
  unfold Quoting.ident
  split
  · exact opensRemarks_quoteIdentifier q name
  · exact opensRemarks_append h name.toList

theorem opensRemarks_table (h : rest.head? ≠ some '-') (t : Diagram.Table) :
    opensRemarks ((q.table t).toList ++ rest) =
      (opensRemarks (t.schema.getD "").toList && (opensRemarks t.name.toList &&
        opensRemarks rest)) := by
  have hname := opensRemarks_ident q h t.name
  have hnone : opensRemarks "".toList = true := rfl
  unfold Quoting.table Quoting.qualified
  split
  · rename_i s hs
    split
    · rename_i hempty
      rw [hname, hs, Option.getD_some, String.isEmpty_iff.mp hempty, hnone, Bool.true_and]
    · have htext : (q.ident s ++ "." ++ q.ident t.name).toList ++ rest =
          (q.ident s).toList ++ (".".toList ++ ((q.ident t.name).toList ++ rest)) := by simp
      rw [htext, opensRemarks_ident q (by simp), opensRemarks_words (by decide), hname, hs,
        Option.getD_some]
  · rename_i hs
    rw [hname, hs, Option.getD_none, hnone, Bool.true_and]

/-- The line of a key, as it stands in the script. -/
theorem opensRemarks_statement (k : ForeignKey) :
    opensRemarks ("-- " ++ k.statement q).toList = k.staysRemark := by
  rw [statement_eq_body, String.toList_append, String.toList_append, body_toList]
  simp only [List.append_assoc]
  rw [opensRemarks_words (by decide), opensRemarks_words (by decide),
    opensRemarks_table q (by simp), opensRemarks_words (by decide), opensRemarks_words (by decide),
    opensRemarks_ident q (by simp), opensRemarks_words (by decide),
    opensRemarks_column q, opensRemarks_words (by decide),
    opensRemarks_table q (by simp), opensRemarks_words (by decide),
    opensRemarks_column q, opensRemarks_words (by decide)]
  simp [ForeignKey.staysRemark, ForeignKey.writtenNames, opensRemarks]

/-! ## Scripts of remarks -/

/-- The line above the keys. -/
def keysHeading : String := "-- SQLite cannot add foreign keys to existing tables"

theorem remarkedKeys_eq {d : Diagram} (hkeys : foreignKeys d ≠ []) :
    (remarkedKeys q d).toList =
      ['\n'].intercalate ((keysHeading :: (foreignKeys d).map (fun k => "-- " ++ k.statement q)).map
        String.toList) ++ ['\n'] := by
  have hblank : ∀ text ∈ [joinLines (keysHeading :: (foreignKeys d).map
      (fun k => "-- " ++ k.statement q))], trim text.toList ≠ [] := by
    refine List.forall_mem_singleton.mpr (trim_ne_nil (c := '-') rfl ?_)
    rw [joinLines, String.toList_intercalate]
    exact mem_intercalate (x := keysHeading.toList) (List.mem_map_of_mem List.mem_cons_self)
      (by decide)
  unfold remarkedKeys
  split
  · contradiction
  · change (joinSections [joinLines (keysHeading :: _)]).toList = _
    rw [joinSections_eq hblank]
    simp [scriptOf, joinLines, String.intercalate_singleton, String.toList_intercalate]

/-- All lines are remarks just if each key stays one. -/
theorem remarkedKeys_all_remarks (d : Diagram) :
    (lines (remarkedKeys q d).toList).all (startsWith · "--") =
      (foreignKeys d).all ForeignKey.staysRemark := by
  by_cases hkeys : foreignKeys d = []
  · simp [remarkedKeys, hkeys, lines, pieces]
  · have hstarts : ∀ l ∈ (keysHeading :: (foreignKeys d).map (fun k => "-- " ++ k.statement q)).map
        String.toList, startsWith l "--" = true := by
      rw [List.map_cons, List.forall_mem_cons, List.map_map, List.forall_mem_map]
      refine ⟨by decide, fun k _ => ?_⟩
      simp [String.toList_append]
    rw [remarkedKeys_eq q hkeys, lines_all_remarks, opensRemarks_lines hstarts, List.map_cons,
      startsWith_lines]
    have hheading : startsWith keysHeading.toList "--" = true ∧
      opensRemarks keysHeading.toList = true := by decide
    simp only [hheading, List.all_cons, List.all_map, Function.comp_def, opensRemarks_statement,
      Bool.true_and]

theorem foreignKeys_of_no_tables {d : Diagram} (h : d.tables = []) : foreignKeys d = [] := by
  refine List.eq_nil_iff_forall_not_mem.mpr fun k hk => ?_
  rw [foreignKeys, List.mem_mergeSort, List.mem_filter, List.mem_filterMap] at hk
  obtain ⟨⟨r, -, hr⟩, -⟩ := hk
  obtain ⟨a, -, -, hholder, -⟩ := foreignKey?_ends hr
  have hmem := (tableById?_eq_some hholder).1
  rw [h] at hmem
  cases hmem

theorem native?_keysOnly (d : Diagram) :
    native? .sqlite d .keysOnly = some (remarkedKeys ⟨.sqlite, true⟩ d) := by
  unfold native?
  dsimp only
  split
  · rename_i hempty
    rw [remarkedKeys, foreignKeys_of_no_tables (List.isEmpty_iff.mp hempty)]
  · rfl

theorem portable_keysOnly (always : Bool) (d : Diagram) :
    portable ⟨.sqlite, always⟩ d .keysOnly = remarkedKeys ⟨.sqlite, always⟩ d := by
  unfold portable
  dsimp only
  split
  · rename_i hempty
    rw [remarkedKeys, foreignKeys_of_no_tables (List.isEmpty_iff.mp hempty)]
  · rfl

/-- The scripts for SQLite that hold the foreign keys alone are remarks, line for line, just if no
name in the statement of a key has a line feed without dashes behind it. It is the same names that
break both scripts, however they are quoted. -/
theorem keys_are_remarks_unless_names_break_lines (d : Diagram) :
    (∃ script, native? .sqlite d .keysOnly = some script ∧
      ((∀ l ∈ lines script.toList, startsWith l "--" = true) ↔
        ∀ k ∈ foreignKeys d, ∀ name ∈ k.writtenNames, opensRemarks name.toList = true)) ∧
    ∀ always : Bool,
      (∀ l ∈ lines (portable ⟨.sqlite, always⟩ d .keysOnly).toList, startsWith l "--" = true) ↔
        ∀ k ∈ foreignKeys d, ∀ name ∈ k.writtenNames, opensRemarks name.toList = true := by
  have hscript : ∀ q : Quoting,
      (∀ l ∈ lines (remarkedKeys q d).toList, startsWith l "--" = true) ↔
        ∀ k ∈ foreignKeys d, ∀ name ∈ k.writtenNames, opensRemarks name.toList = true := by
    intro q
    rw [← List.all_eq_true, remarkedKeys_all_remarks, List.all_eq_true]
    simp only [ForeignKey.staysRemark, List.all_eq_true]
  refine ⟨⟨_, native?_keysOnly d, hscript _⟩, fun always => ?_⟩
  rw [portable_keysOnly]
  exact hscript _

/-- A key whose name goes on in a line of its own. -/
def escapingKey : ForeignKey :=
  { name := "fk\nDROP TABLE a;"
    holder :=
      { id := "t1", name := "b", color := "", fields :=
          [{ id := "f1", name := "a_id", type := .named "integer" }] }
    holding := { id := "f1", name := "a_id", type := .named "integer" }
    referenced :=
      { id := "t0", name := "a", color := "", fields :=
          [{ id := "f0", name := "id", type := .named "integer" }] }
    target := { id := "f0", name := "id", type := .named "integer" } }

def escaping : Diagram :=
  { id := "d"
    name := "escaping"
    dialect := .sqlite
    tables := [escapingKey.referenced, escapingKey.holder]
    relationships :=
      [{ id := "r0", name := escapingKey.name, sourceTableId := "t0", sourceFieldId := "f0",
         targetTableId := "t1", targetFieldId := "f1" }] }

/-- The second line of the key is a statement that is run. -/
theorem a_name_leaves_its_remark :
    portable ⟨.sqlite, false⟩ escaping .keysOnly =
      "-- SQLite cannot add foreign keys to existing tables\n" ++
      "-- ALTER TABLE b ADD CONSTRAINT \"fk\n" ++
      "DROP TABLE a;\" FOREIGN KEY (\"a_id\") REFERENCES a (\"id\");\n" ∧
    ¬ ∀ l ∈ lines (portable ⟨.sqlite, false⟩ escaping .keysOnly).toList,
      startsWith l "--" = true := by
  have hkeys : foreignKeys escaping = [escapingKey] := by
    have hfound : (escaping.relationships.filterMap (foreignKey? escaping)).filter
        (fun k => !k.holder.isView && !k.referenced.isView) = [escapingKey] := by decide +kernel
    rw [foreignKeys, hfound, List.mergeSort_singleton]
  refine ⟨?_, ?_⟩
  · rw [portable_keysOnly, remarkedKeys, hkeys]
    decide +kernel
  · rw [(keys_are_remarks_unless_names_break_lines escaping).2 false, hkeys]
    decide

end SchemaChart.Export
