-- The columns that indexes name. Every statement keeps the invariant `Known`: an index names
-- columns of its table, but for a primary key, which may name a column that was warned about.
import SchemaChart.Proofs.Visited
import SchemaChart.Proofs.Worklist

namespace SchemaChart.Schema

open Text

/-! ## Columns that stay -/

namespace Table

theorem hasColumn_iff_names (t : Table) (name : String) :
    t.HasColumn name ↔ ∃ n ∈ t.columns.map Column.name, sameName n name = true := by
  constructor
  · rintro ⟨c, hc, hs⟩
    exact ⟨c.name, List.mem_map_of_mem hc, hs⟩
  · rintro ⟨n, hn, hs⟩
    obtain ⟨c, hc, rfl⟩ := List.mem_map.mp hn
    exact ⟨c, hc, hs⟩

/-- A change of columns that leaves their names alone leaves all names of the table alone. -/
theorem modifyColumn_names (t : Table) (name : String) (f : Column → Column)
    (hf : ∀ c, (f c).name = c.name) :
    (t.modifyColumn name f).columns.map Column.name = t.columns.map Column.name := by
  unfold modifyColumn
  rcases t.position? name with _ | i
  · rfl
  · exact map_modify_of_eq hf

/-- A column may take another spelling of its name, and the table still has all its columns. -/
theorem hasColumn_modifyColumn {t : Table} {name : String} {f : Column → Column}
    (hf : ∀ c, sameName c.name name = true → sameName (f c).name c.name = true)
    {column : String} (h : t.HasColumn column) : (t.modifyColumn name f).HasColumn column := by
  obtain ⟨c, hc, hs⟩ := h
  unfold modifyColumn
  rcases hp : t.position? name with _ | i
  · exact ⟨c, hc, hs⟩
  · obtain ⟨k, hk⟩ := List.mem_iff_getElem?.mp hc
    obtain ⟨old, hold, hname⟩ := positionByName?_eq_some hp
    by_cases hik : i = k
    · subst hik
      rw [hold] at hk
      cases hk
      refine ⟨f c, List.mem_iff_getElem?.mpr ⟨i, ?_⟩, sameName_trans (hf c hname) hs⟩
      simp [hold]
    · refine ⟨c, List.mem_iff_getElem?.mpr ⟨k, ?_⟩, hs⟩
      simp [hik, hk]

theorem hasColumn_append {t : Table} (column : Column) {name : String} (h : t.HasColumn name) :
    Table.HasColumn { t with columns := t.columns ++ [column] } name := by
  obtain ⟨c, hc, hs⟩ := h
  exact ⟨c, List.mem_append_left _ hc, hs⟩

end Table

/-- The names of the columns stay while a primary key is marked. -/
theorem markKey_names (columns : List String) (t : Table) :
    (columns.foldl (fun t c => t.modifyColumn c Builder.keyColumn) t).columns.map Column.name =
      t.columns.map Column.name := by
  induction columns generalizing t with
  | nil => rfl
  | cons c cs ih =>
    rw [List.foldl_cons, ih, Table.modifyColumn_names t c Builder.keyColumn (fun _ => rfl)]

theorem hasColumn_withPrimaryKey (name : Option String) (columns : List String) (t : Table)
    (c : String) : (Builder.withPrimaryKey name columns t).HasColumn c ↔ t.HasColumn c := by
  rw [Table.hasColumn_iff_names, Table.hasColumn_iff_names]
  exact iff_of_eq (congrArg (fun ns => ∃ n ∈ ns, sameName n c = true) (markKey_names columns t))

/-- A primary key makes an index if it has a name or more than one column. -/
theorem mem_primaryKeyIndex? (name : Option String) (columns : List String) (i : Index) :
    i ∈ (Builder.primaryKeyIndex? name columns).toList ↔
      (name.getD "" ≠ "" ∨ 1 < columns.length) ∧
      i = { name := name.getD "", columns := columns, unique := true, isPrimaryKey := true } := by
  unfold Builder.primaryKeyIndex?
  dsimp only
  split
  · rename_i h
    simp only [Bool.or_eq_true, Bool.not_eq_true', String.isEmpty_eq_false_iff,
      decide_eq_true_eq] at h
    simp [h]
  · rename_i h
    simp only [Bool.or_eq_true, Bool.not_eq_true', String.isEmpty_eq_false_iff,
      decide_eq_true_eq] at h
    simp [h]

/-! ## The invariant -/

/-- What is said about a column of a primary key that its table lacks. -/
def missingKeyColumn (column table : String) : String :=
  "Primary key column " ++ column ++ " not found in table " ++ table

/-- Every index of a table names columns that the table has; a primary key may name others, each
of which is among the warnings. -/
def IndexesKnown (warnings : List String) (t : Table) : Prop :=
  ∀ i ∈ t.indexes, ∀ c ∈ i.columns,
    t.HasColumn c ∨ i.isPrimaryKey = true ∧ missingKeyColumn c t.name ∈ warnings

/-- The indexes of all tables of a schema under construction name columns that are there, but for
primary keys that were warned about. -/
def Builder.Known (b : Builder) : Prop := ∀ t ∈ b.tables, IndexesKnown b.warnings t

theorem indexesKnown_mono {ws ws' : List String} {t : Table} (hw : ws ⊆ ws')
    (h : IndexesKnown ws t) : IndexesKnown ws' t := by
  intro i hi c hc
  rcases h i hi c hc with hk | ⟨hp, hm⟩
  · exact Or.inl hk
  · exact Or.inr ⟨hp, hw hm⟩

/-- A change that loses no column keeps the indexes of a table known. -/
theorem indexesKnown_of_columns {ws : List String} {t t' : Table} (hn : t'.name = t.name)
    (hi : t'.indexes = t.indexes) (hc : ∀ c, t.HasColumn c → t'.HasColumn c)
    (h : IndexesKnown ws t) : IndexesKnown ws t' := by
  intro i hmem c hcol
  rw [hi] at hmem
  rw [hn]
  rcases h i hmem c hcol with hk | hm
  · exact Or.inl (hc c hk)
  · exact Or.inr hm

/-! ## What a change of one table keeps -/

theorem indexesKnown_modifyColumn {ws : List String} {t : Table} {name : String}
    {f : Column → Column}
    (hf : ∀ c, sameName c.name name = true → sameName (f c).name c.name = true)
    (h : IndexesKnown ws t) : IndexesKnown ws (t.modifyColumn name f) :=
  indexesKnown_of_columns (Table.eq_of_head Table.name (fun _ => rfl) (modifyColumn_head t name f))
    (t.modifyColumn_indexes name f) (fun _ hc => Table.hasColumn_modifyColumn hf hc) h

theorem indexesKnown_append {ws : List String} {t : Table} (column : Column)
    (h : IndexesKnown ws t) : IndexesKnown ws { t with columns := t.columns ++ [column] } :=
  indexesKnown_of_columns (t := t) rfl rfl (fun _ hc => Table.hasColumn_append column hc) h

theorem indexesKnown_withColumn {ws : List String} {t : Table} (column : Column)
    (h : IndexesKnown ws t) : IndexesKnown ws (t.withColumn column) := by
  unfold Table.withColumn
  split
  · exact h
  · exact indexesKnown_append column h

/-- A column defined anew stands in the place of one with the same name up to case. -/
theorem indexesKnown_redefine {ws : List String} {t : Table} (column : Column)
    (h : IndexesKnown ws t) : IndexesKnown ws (t.redefine column) := by
  unfold Table.redefine
  split
  · exact indexesKnown_modifyColumn (fun c hc => sameName_symm hc) h
  · exact indexesKnown_append column h

theorem indexesKnown_withIndex {ws : List String} {t : Table} (index : Index)
    (h : IndexesKnown ws t) : IndexesKnown ws (t.withIndex index) := by
  unfold Table.withIndex
  split
  · exact h
  · rename_i hfind
    split
    · exact h
    · intro j hj c hc
      rcases List.mem_append.mp hj with hj | hj
      · exact h j hj c hc
      · rw [List.mem_singleton.mp hj] at hc
        have hnone := List.find?_eq_none.mp hfind c hc
        rw [Table.column?_isNone] at hnone
        exact Or.inl (Classical.not_not.mp hnone)

theorem indexesKnown_withUnique {ws : List String} {t : Table} (name : Option String)
    (columns : List String) (h : IndexesKnown ws t) :
    IndexesKnown ws (t.withUnique name columns) := by
  unfold Table.withUnique
  split
  · exact indexesKnown_modifyColumn (fun c _ => sameName_refl c.name) h
  · exact indexesKnown_withIndex _ h

/-- A new primary key names columns of its table, or columns that are warned about. -/
theorem indexesKnown_withPrimaryKey {ws : List String} {t : Table} (name : Option String)
    (columns : List String) (hw : Builder.keyWarnings t columns ⊆ ws) (h : IndexesKnown ws t) :
    IndexesKnown ws (Builder.withPrimaryKey name columns t) := by
  have hname : (Builder.withPrimaryKey name columns t).name = t.name :=
    Table.eq_of_head Table.name (fun _ => rfl) (markKey_head columns t)
  intro j hj c hc
  rw [hasColumn_withPrimaryKey, hname]
  rcases List.mem_append.mp hj with hj | hj
  · exact h j (List.mem_filter.mp hj).1 c hc
  · by_cases hk : t.HasColumn c
    · exact Or.inl hk
    · obtain ⟨_, rfl⟩ := (mem_primaryKeyIndex? name columns j).mp hj
      refine Or.inr ⟨rfl, hw (List.mem_map.mpr ⟨c, ?_, rfl⟩)⟩
      exact List.mem_filter.mpr ⟨hc, (t.column?_isNone c).mpr hk⟩

namespace Builder

/-! ## What the writers keep -/

/-- A writer that changes one table keeps the invariant if the change of that table does. -/
theorem known_of_modify {b b' : Builder} {i : Nat} {f : Table → Table} (h : b.Known)
    (hw : b.warnings <+: b'.warnings) (ht : b'.tables = b.tables.modify i f)
    (hf : ∀ t, b.tables[i]? = some t → IndexesKnown b'.warnings t →
      IndexesKnown b'.warnings (f t)) : b'.Known := by
  intro u hu
  rw [ht] at hu
  rcases mem_modify hu with hu | ⟨t, hi, rfl⟩
  · exact indexesKnown_mono hw.subset (h u hu)
  · exact hf t hi (indexesKnown_mono hw.subset (h t (List.mem_of_getElem? hi)))

theorem known_warn {b : Builder} (message : String) (h : b.Known) : (b.warn message).Known :=
  fun t ht => indexesKnown_mono (List.subset_append_left _ _) (h t ht)

theorem known_addTable {b : Builder} {t : Table} (h : b.Known) (ht : t.indexes = []) :
    (b.addTable t).2.Known := by
  unfold addTable
  split
  · exact known_warn _ h
  · intro u hu
    rcases List.mem_append.mp hu with hu | hu
    · exact h u hu
    · rw [List.mem_singleton.mp hu]
      intro i hi
      simp [ht] at hi

theorem known_addType {b : Builder} (t : CustomType) (h : b.Known) : (b.addType t).Known := by
  unfold addType
  split
  · exact known_warn _ h
  · exact h

theorem known_addIndex {b : Builder} (i : Nat) (index : Index) (h : b.Known) :
    (b.addIndex i index).Known :=
  known_of_modify h (frame_addIndex b i index).warnings (addIndex_tables b i index)
    (fun _ _ hk => indexesKnown_withIndex index hk)

theorem known_apply {b : Builder} (i : Nat) (fact : Fact) (h : b.Known) :
    (b.apply i fact).Known := by
  refine known_of_modify h (frame_apply b i fact).warnings (apply_tables b i fact) ?_
  intro t ht hk
  cases fact with
  | primaryKey name columns =>
    refine indexesKnown_withPrimaryKey name columns ?_ hk
    simp only [apply, ht, setPrimaryKey_eq name columns ht]
    exact List.subset_append_right _ _
  | unique name columns => exact indexesKnown_withUnique name columns hk
  | index name columns unique method => exact indexesKnown_withIndex _ hk
  | foreignKey name columns target targetColumns onUpdate onDelete => exact hk

theorem known_onColumn {b : Builder} (i : Nat) (column purpose : String) {f : Column → Column}
    (hf : ∀ c, (f c).name = c.name) (h : b.Known) : (b.onColumn i column purpose f).Known := by
  refine known_of_modify h (frame_onColumn b i column purpose f).warnings
    (onColumn_tables b i column purpose f) ?_
  intro t _ hk
  refine indexesKnown_modifyColumn (fun c _ => ?_) hk
  rw [hf]
  exact sameName_refl c.name

end Builder

end SchemaChart.Schema

namespace SchemaChart.Import

open Schema (Builder)

/-- In every state of a script the indexes are known. -/
theorem Visited.known {s : Source} {b : Builder} (h : Visited s b) : b.Known := by
  induction h with
  | start =>
    intro t ht
    cases ht
  | warn message _ ih => exact Builder.known_warn message ih
  | addTable hr _ ih => exact Builder.known_addTable ih (read_fresh hr).1
  | addType t _ ih => exact Builder.known_addType t ih
  | addIndex i _ _ ih => exact Builder.known_addIndex i _ ih
  | apply i fact _ ih => exact Builder.known_apply i fact ih
  | @addColumn b _ column _ i _ _ ih =>
    exact Builder.known_of_modify ih (Builder.frame_addColumn b i column).warnings
      (Builder.addColumn_tables b i column)
      (fun _ _ hk => Schema.indexesKnown_withColumn column hk)
  | modifyColumn i _ _ ih =>
    exact Builder.known_of_modify ih (List.prefix_refl _) rfl
      (fun _ _ hk => Schema.indexesKnown_redefine _ hk)
  | setDefault i column value _ ih =>
    exact Builder.known_onColumn i column "default" (fun _ => rfl) ih
  | setNotNull i column _ ih =>
    exact Builder.known_of_modify ih (List.prefix_refl _) rfl
      (fun _ _ hk => Schema.indexesKnown_modifyColumn (fun c _ => Text.sameName_refl c.name) hk)
  | setTableComment i comment _ ih =>
    exact Builder.known_of_modify ih (List.prefix_refl _) rfl (fun _ _ hk => hk)
  | setColumnComment i column comment _ ih =>
    exact Builder.known_onColumn i column "comment" (fun _ => rfl) ih

end SchemaChart.Import
