-- The block that adds the foreign keys of a diagram: whatever the names in it hold, each key is
-- read back as the one statement that it was written as.
import SchemaChart.Export.ForeignKey
import SchemaChart.Proofs.StatementLines
import SchemaChart.Proofs.WrittenColumns

namespace SchemaChart.Export

open Script (NoQuote OneStatement Sealed isCalm splitStatements)
open Text

/-! ## Names in statements -/

/-- But for SQL Server the quotes of names are straight. -/
theorem identifierQuotes_straight {d : Dialect} (h : d ≠ .sqlServer) :
    ∃ c, identifierQuotes d = (c, c) ∧ plainQuote c = some c := by
  cases d with
  | sqlServer => exact absurd rfl h
  | mysql => exact ⟨'`', rfl, rfl⟩
  | mariadb => exact ⟨'`', rfl, rfl⟩
  | _ => exact ⟨'"', rfl, rfl⟩

theorem isNameChar_calm {c : Char} (h : isNameChar c = true) : isCalm c = true :=
  forall_ascii (P := fun c => isNameChar c = true → isCalm c = true) (by decide)
    (isNameChar_ascii h) h

/-- What may stand behind a name in a statement: a sealed text that does not go on with a quote. -/
structure Follows (rest : List Char) : Prop where
  next : NoQuote rest
  whole : Sealed rest

/-- Words of the language may follow a name. -/
theorem follows_words {w : String} (hw : w.toList.all isCalm = true) (hne : w.toList ≠ [])
    {rest : List Char} (hrest : Sealed rest) : Follows (w.toList ++ rest) := by
  have hcalm := List.all_eq_true.mp hw
  refine ⟨?_, Sealed.calm hcalm hrest⟩
  obtain ⟨c, cs, hcs⟩ := List.exists_cons_of_ne_nil hne
  rw [hcs] at hcalm ⊢
  intro x hx
  cases hx
  have hnone := (Script.isCalm_iff.mp (hcalm c List.mem_cons_self)).2.2.2.1
  unfold anyQuote at hnone
  split at hnone
  · cases hnone
  · exact hnone

section

variable {q : Quoting} (hq : q.dialect ≠ .sqlServer) {rest : List Char} (h : Follows rest)

include hq h

/-- A name in quotes is sealed, whatever stands in it. -/
theorem sealed_quoteIdentifier (name : String) :
    Sealed ((quoteIdentifier q.dialect name).toList ++ rest) := by
  obtain ⟨c, hquotes, hc⟩ := identifierQuotes_straight hq
  have htext : (quoteIdentifier q.dialect name).toList ++ rest
      = c :: double c name.toList ++ c :: rest := by
    simp [quoteIdentifier, hquotes]
  rw [htext]
  exact .quoted hc h.next h.whole

theorem sealed_ident (name : String) : Sealed ((q.ident name).toList ++ rest) := by
  unfold Quoting.ident
  split
  · exact sealed_quoteIdentifier hq h name
  · rename_i hbare
    have hbare := bare_of_needsQuotes (Bool.or_eq_false_iff.mp (Bool.not_eq_true _ ▸ hbare)).2
    exact Sealed.calm (fun c hc => isNameChar_calm (hbare.2 c hc)) h.whole

theorem sealed_column (name : String) : Sealed ((q.columns [name]).toList ++ rest) := by
  have hone : q.columns [name] = quoteIdentifier q.dialect name := by
    simp [Quoting.columns, String.intercalate_singleton]
  rw [hone]
  exact sealed_quoteIdentifier hq h name

theorem sealed_table (t : Diagram.Table) : Sealed ((q.table t).toList ++ rest) := by
  have hname := sealed_ident hq h t.name
  unfold Quoting.table Quoting.qualified
  split
  · split
    · exact hname
    · rename_i s _ _
      have hdot := follows_words (w := ".") (by decide) (by decide) hname
      rw [String.toList_append, String.toList_append, List.append_assoc, List.append_assoc]
      exact sealed_ident hq hdot s
  · exact hname

end

/-! ## Keys as statements -/

/-- The statement that adds a foreign key, without its semicolon. -/
def ForeignKey.body (q : Quoting) (k : ForeignKey) : String :=
  "ALTER TABLE " ++ q.table k.holder ++ " ADD " ++ k.clause q true

theorem statement_eq_body (q : Quoting) (k : ForeignKey) : k.statement q = k.body q ++ ";" := by
  unfold ForeignKey.statement ForeignKey.body
  rfl

theorem body_toList (q : Quoting) (k : ForeignKey) :
    (k.body q).toList =
      "ALTER TABLE ".toList ++ ((q.table k.holder).toList ++ (" ADD ".toList ++
        ("CONSTRAINT ".toList ++ ((q.ident k.name).toList ++ (" FOREIGN KEY (".toList ++
          ((q.columns [k.holding.name]).toList ++ (") REFERENCES ".toList ++
            ((q.table k.referenced).toList ++ (" (".toList ++
              ((q.columns [k.target.name]).toList ++ ")".toList)))))))))) := by
  unfold ForeignKey.body ForeignKey.clause
  simp only [if_true, String.toList_append]
  simp only [List.append_assoc]

/-- The statement of a key closes what its names open. -/
theorem body_sealed {q : Quoting} (hq : q.dialect ≠ .sqlServer) (k : ForeignKey) :
    Sealed (k.body q).toList := by
  rw [body_toList]
  have hend : Follows ")".toList := follows_words (w := ")") (by decide) (by decide) .nil
  have htarget := follows_words (w := " (") (by decide) (by decide)
    (sealed_column hq hend k.target.name)
  have hreferenced := follows_words (w := ") REFERENCES ") (by decide) (by decide)
    (sealed_table hq htarget k.referenced)
  have hholding := follows_words (w := " FOREIGN KEY (") (by decide) (by decide)
    (sealed_column hq hreferenced k.holding.name)
  have hname := follows_words (w := "CONSTRAINT ") (by decide) (by decide)
    (sealed_ident hq hholding k.name)
  have hadd := follows_words (w := " ADD ") (by decide) (by decide) hname.whole
  exact (follows_words (w := "ALTER TABLE ") (by decide) (by decide)
    (sealed_table hq hadd k.holder)).whole

theorem body_oneStatement {q : Quoting} (hq : q.dialect ≠ .sqlServer) (k : ForeignKey) :
    OneStatement (k.body q).toList := by
  refine ⟨body_sealed hq k, ⟨⟨'A', ?_, rfl⟩, ')', ?_, rfl⟩, ?_⟩
  · rw [body_toList]
    rfl
  · unfold ForeignKey.body ForeignKey.clause
    simp only [String.toList_append, ← List.append_assoc]
    exact List.getLast?_concat
  · rw [body_toList]
    intro c hc
    cases hc
    decide

theorem keyBlock_toList (q : Quoting) (d : Diagram) :
    (keyBlock q d).toList =
      ['\n'].intercalate (((foreignKeys d).map fun k => (k.body q).toList).map (· ++ [';'])) := by
  unfold keyBlock
  rw [String.toList_intercalate, List.map_map, List.map_map]
  congr 1
  refine List.map_congr_left fun k _ => ?_
  simp only [Function.comp_apply, statement_eq_body, String.toList_append]
  rfl

/-- The block of the foreign keys of a diagram is cut into one statement for each key, in their
order, with the text that the key was written as. No name in it, whatever it holds, ends its
statement or reaches into another one. -/
theorem names_stay_in_their_statements (d : Diagram) (q : Quoting) (hq : q.dialect ≠ .sqlServer) :
    (splitStatements (keyBlock q d).toList).map (·.text ++ ";") =
      (foreignKeys d).map (ForeignKey.statement q) := by
  have hlines : ∀ text ∈ (foreignKeys d).map fun k => (k.body q).toList, OneStatement text := by
    intro text htext
    obtain ⟨k, _, rfl⟩ := List.mem_map.mp htext
    exact body_oneStatement hq k
  have htexts := Script.placed_texts 1 ((foreignKeys d).map fun k => (k.body q).toList)
  have hparts : ∀ sts : List Script.Statement,
      sts.map (·.text ++ ";") = (sts.map (·.text)).map (· ++ ";") := by
    intro sts
    rw [List.map_map]
    rfl
  rw [keyBlock_toList, Script.splitStatements_lines hlines, hparts, htexts, List.map_map,
    List.map_map]
  refine List.map_congr_left fun k _ => ?_
  simp [statement_eq_body]

/-- A key whose table and whose own name try to end its statement: with quotes, a semicolon, a
comment and a line that ends a batch. -/
def hostileKey : ForeignKey :=
  { name := "k\"; GO\nGO\n/*"
    holder :=
      { id := "t1", name := "a\"; DROP TABLE users; --", color := "", fields :=
          [{ id := "f1", name := "user\n", type := .named "integer" }] }
    holding := { id := "f1", name := "user\n", type := .named "integer" }
    referenced :=
      { id := "t0", name := "users", color := "", fields :=
          [{ id := "f0", name := "id", type := .named "integer" }] }
    target := { id := "f0", name := "id", type := .named "integer" } }

def hostile : Diagram :=
  { id := "d"
    name := "hostile"
    dialect := .postgresql
    tables := [hostileKey.referenced, hostileKey.holder]
    relationships :=
      [{ id := "r0", name := hostileKey.name, sourceTableId := "t0", sourceFieldId := "f0",
         targetTableId := "t1", targetFieldId := "f1" }] }

theorem hostile_names_stay_in_one_statement :
    (⟨.postgresql, false⟩ : Quoting).dialect ≠ .sqlServer ∧
    (splitStatements (keyBlock ⟨.postgresql, false⟩ hostile).toList).map (·.text ++ ";") =
      ["ALTER TABLE \"a\"\"; DROP TABLE users; --\" ADD CONSTRAINT \"k\"\"; GO\nGO\n/*\" " ++
        "FOREIGN KEY (\"user\n\") REFERENCES users (\"id\");"] := by
  have hquotes : (⟨.postgresql, false⟩ : Quoting).dialect ≠ .sqlServer := by decide
  have hkeys : foreignKeys hostile = [hostileKey] := by
    have hfound : (hostile.relationships.filterMap (foreignKey? hostile)).filter
        (fun k => !k.holder.isView && !k.referenced.isView) = [hostileKey] := by decide +kernel
    rw [foreignKeys, hfound, List.mergeSort_singleton]
  refine ⟨hquotes, ?_⟩
  rw [names_stay_in_their_statements hostile _ hquotes, hkeys]
  decide +kernel

end SchemaChart.Export
