-- The relationships of a diagram may stand in any order: its foreign keys are sorted before they
-- are written, and nothing else in a script comes from a relationship. This needs that no two keys
-- are sorted to the same place.
import Mathlib.Data.List.Pairwise
import SchemaChart.Export.Script

namespace SchemaChart.Export

open Diagram (Relationship)

/-! ## Sorted keys -/

namespace ForeignKey

variable {a b c : ForeignKey}

theorem le_iff : a.le b = true ↔ ¬ b.place < a.place := by
  rw [le, Bool.not_eq_true', decide_eq_false_iff_not]

theorem le_trans (hab : a.le b = true) (hbc : b.le c = true) : a.le c = true :=
  le_iff.mpr (List.le_trans (le_iff.mp hab) (le_iff.mp hbc))

theorem le_total (a b : ForeignKey) : (a.le b || b.le a) = true := by
  rw [Bool.or_eq_true, le_iff, le_iff]
  exact List.le_total a.place b.place

/-- Do two keys have the same name, on tables of the same schema and name. A table without a schema
is one whose schema is empty. -/
def SamePlace (a b : ForeignKey) : Prop :=
  a.holder.schema.getD "" = b.holder.schema.getD "" ∧ a.holder.name = b.holder.name ∧
    a.name = b.name

instance (a b : ForeignKey) : Decidable (SamePlace a b) := inferInstanceAs (Decidable (_ ∧ _))

theorem SamePlace.symm (h : SamePlace a b) : SamePlace b a := ⟨h.1.symm, h.2.1.symm, h.2.2.symm⟩

theorem samePlace_of_le (hab : a.le b = true) (hba : b.le a = true) : SamePlace a b := by
  have hplace : a.place = b.place := List.le_antisymm (le_iff.mp hab) (le_iff.mp hba)
  simpa [place, SamePlace] using hplace

end ForeignKey

/-- The foreign keys between tables, as the relationships come. -/
def foundKeys (d : Diagram) : List ForeignKey :=
  (d.relationships.filterMap (foreignKey? d)).filter
    (fun k => !k.holder.isView && !k.referenced.isView)

theorem foreignKeys_perm_found (d : Diagram) : (foreignKeys d).Perm (foundKeys d) :=
  List.mergeSort_perm _ _

theorem foreignKeys_sorted (d : Diagram) :
    (foreignKeys d).Pairwise fun a b => a.le b = true := by
  apply List.pairwise_mergeSort
  · intro a b c
    exact ForeignKey.le_trans
  · exact ForeignKey.le_total

/-- Are the keys of a diagram sorted to different places. -/
def DistinctPlaces (d : Diagram) : Prop :=
  (foreignKeys d).Pairwise fun a b => ¬ ForeignKey.SamePlace a b

theorem distinctPlaces_iff (d : Diagram) :
    DistinctPlaces d ↔ (foundKeys d).Pairwise fun a b => ¬ ForeignKey.SamePlace a b :=
  (foreignKeys_perm_found d).pairwise_iff fun hab hba => hab hba.symm

theorem DistinctPlaces.eq {d : Diagram} (h : DistinctPlaces d) {a b : ForeignKey}
    (ha : a ∈ foreignKeys d) (hb : b ∈ foreignKeys d) (hplace : ForeignKey.SamePlace a b) :
    a = b := by
  have hsymm : Std.Symm fun a b => ¬ ForeignKey.SamePlace a b := ⟨fun _ _ hab hba => hab hba.symm⟩
  by_contra hne
  exact h.forall ha hb hne hplace

/-- Two orders of the relationships give the same keys, and there is one way to sort them. -/
theorem foreignKeys_of_perm {d : Diagram} {rs : List Relationship}
    (hrs : rs.Perm d.relationships) (h : DistinctPlaces d) :
    foreignKeys { d with relationships := rs } = foreignKeys d := by
  have hfound : (foundKeys { d with relationships := rs }).Perm (foundKeys d) :=
    (hrs.filterMap (foreignKey? d)).filter _
  have hperm : (foreignKeys { d with relationships := rs }).Perm (foreignKeys d) :=
    ((foreignKeys_perm_found _).trans hfound).trans (foreignKeys_perm_found d).symm
  refine List.Perm.eq_of_pairwise ?_ (foreignKeys_sorted _) (foreignKeys_sorted d) hperm
  intro a b ha hb hab hba
  exact h.eq (hperm.mem_iff.mp ha) hb (ForeignKey.samePlace_of_le hab hba)

/-! ## Scripts -/

section Sections

variable {d e : Diagram} (htables : e.tables = d.tables) (htypes : e.types = d.types)
  (hkeys : foreignKeys e = foreignKeys d)
include htables

theorem writtenTables_congr : writtenTables e = writtenTables d := by
  rw [writtenTables, htables, writtenTables]

theorem tableSchemas_congr : tableSchemas e = tableSchemas d := by
  rw [tableSchemas, writtenTables_congr htables, tableSchemas]

include hkeys

theorem mysqlSections_congr (s : Style) : mysqlSections s e = mysqlSections s d := by
  rw [mysqlSections, tableSchemas_congr htables, writtenTables_congr htables, keyBlock, hkeys,
    mysqlSections, keyBlock]

theorem sqlServerSections_congr (s : Style) : sqlServerSections s e = sqlServerSections s d := by
  rw [sqlServerSections, tableSchemas_congr htables, writtenTables_congr htables, keyBlock, hkeys,
    sqlServerSections, keyBlock]

include htypes

theorem postgresqlSections_congr (s : Style) :
    postgresqlSections s e = postgresqlSections s d := by
  have hsequences : sequences e = sequences d := by
    rw [sequences, writtenTables_congr htables, sequences]
  have hschemas : typeSchemas e = typeSchemas d := by rw [typeSchemas, htypes, typeSchemas]
  have hsection : ∀ q, typeSection q e = typeSection q d := by
    intro q
    rw [typeSection, htypes, typeSection]
  simp only [postgresqlSections, tableSchemas_congr htables, writtenTables_congr htables,
    hsequences, hschemas, hsection, keyBlock, hkeys]

/-- Where foreign keys are added behind the tables, a script holds the tables, the types and the
keys of a diagram, and nothing else. -/
theorem native?_congr {target : Dialect} (htarget : target ≠ .sqlite) (scope : Scope) :
    native? target e scope = native? target d scope := by
  have hstyle : Style.ofDialect target e = Style.ofDialect target d := by
    rw [Style.ofDialect, htypes, Style.ofDialect]
  have hblock : ∀ q, keyBlock q e = keyBlock q d := by
    intro q
    rw [keyBlock, hkeys, keyBlock]
  unfold native?
  rw [hstyle, htables]
  cases target with
  | sqlite => exact absurd rfl htarget
  | postgresql => simp only [postgresqlSections_congr htables htypes hkeys, hblock]
  | mysql | mariadb => simp only [mysqlSections_congr htables hkeys, hblock]
  | sqlServer => simp only [sqlServerSections_congr htables hkeys, hblock]
  | generic | clickhouse | cockroachdb | oracle => rfl

end Sections

/-- The dialects whose scripts add foreign keys behind the tables. -/
def addingDialects : List Dialect := [.postgresql, .mysql, .mariadb, .sqlServer]

/-- If no two foreign keys of a diagram have the same name on tables of the same schema and name,
its relationships may stand in any order: the keys are the same list, and so is every script that
adds them behind the tables, whether it holds everything or the keys alone. -/
theorem relationships_are_written_alike_in_any_order (d : Diagram) (rs : List Relationship)
    (hrs : rs.Perm d.relationships) (h : DistinctPlaces d) :
    foreignKeys { d with relationships := rs } = foreignKeys d ∧
      ∀ target ∈ addingDialects, ∀ scope, ∃ script,
        native? target d scope = some script ∧
        native? target { d with relationships := rs } scope = some script := by
  have hkeys := foreignKeys_of_perm hrs h
  refine ⟨hkeys, fun target htarget scope => ?_⟩
  have hsqlite : target ≠ .sqlite := by
    rintro rfl
    exact absurd htarget (by decide)
  have hsome : ∃ script, native? target d scope = some script := by
    simp only [addingDialects, List.mem_cons, List.not_mem_nil, or_false] at htarget
    rcases htarget with rfl | rfl | rfl | rfl <;> exact ⟨_, rfl⟩
  obtain ⟨script, hscript⟩ := hsome
  have hsame : native? target { d with relationships := rs } scope = native? target d scope := by
    refine native?_congr ?_ ?_ hkeys hsqlite scope
    · rfl
    · rfl
  exact ⟨script, hscript, hsame.trans hscript⟩

/-- Two keys of orders, one to the customers and one to the orders themselves, and a key to a table
that is a view. -/
def shop : Diagram :=
  { id := "d"
    name := "shop"
    dialect := .mariadb
    tables :=
      [{ id := "o", name := "orders", schema := some "shop", color := "", fields :=
          [{ id := "o1", name := "id", type := .named "integer" },
            { id := "o2", name := "customer_id", type := .named "integer" },
            { id := "o3", name := "parent_id", type := .named "integer" }] },
        { id := "c", name := "customers", color := "", fields :=
          [{ id := "c1", name := "id", type := .named "integer" }] },
        { id := "v", name := "order_totals", color := "", isView := true, fields :=
          [{ id := "v1", name := "order_id", type := .named "integer" }] }]
    relationships :=
      [{ id := "r1", name := "parent", sourceTableId := "o", sourceFieldId := "o3",
         targetTableId := "o", targetFieldId := "o1", sourceCardinality := .many,
         targetCardinality := .one },
        { id := "r2", name := "", sourceTableId := "c", sourceFieldId := "c1",
          targetTableId := "o", targetFieldId := "o2" },
        { id := "r3", name := "totals", sourceTableId := "o", sourceFieldId := "o1",
          targetTableId := "v", targetFieldId := "v1" }] }

theorem the_keys_of_the_shop_may_be_turned_around :
    shop.relationships.reverse ≠ shop.relationships ∧ (foundKeys shop).length = 2 ∧
      DistinctPlaces shop ∧
      ∃ script, native? .mariadb shop .everything = some script ∧
        native? .mariadb { shop with relationships := shop.relationships.reverse } .everything =
          some script := by
  have hplaces : DistinctPlaces shop := (distinctPlaces_iff shop).mpr (by decide +kernel)
  have hreverse := List.reverse_perm shop.relationships
  have hscripts := (relationships_are_written_alike_in_any_order shop _ hreverse hplaces).2
  refine ⟨by decide +kernel, by decide +kernel, hplaces, hscripts .mariadb (by decide) .everything⟩

end SchemaChart.Export
