-- What the writers of a schema under construction do. Each of them changes at most one table, by a
-- function of that table alone, and leaves the rest as it was but for warnings.
import SchemaChart.Proofs.Names
import SchemaChart.Schema.Builder

namespace SchemaChart.Schema

open Text

/-! ## A change at one position -/

theorem modify_eq_of_getElem? {l : List α} {i : Nat} {x : α} {f g : α → α} (hx : l[i]? = some x)
    (h : f x = g x) : l.modify i f = l.modify i g := by
  apply List.ext_getElem?
  intro k
  simp only [List.getElem?_modify]
  by_cases hik : i = k
  · subst hik
    simp [hx, h]
  · simp [hik]

theorem modify_eq_self {l : List α} {i : Nat} {x : α} {f : α → α} (hx : l[i]? = some x)
    (h : f x = x) : l.modify i f = l := by
  rw [modify_eq_of_getElem? (g := id) hx h, List.modify_id]

theorem modify_of_getElem?_none {l : List α} {i : Nat} (f : α → α) (h : l[i]? = none) :
    l.modify i f = l := List.modify_eq_self (List.getElem?_eq_none_iff.mp h)

theorem mem_modify {l : List α} {i : Nat} {f : α → α} {y : α} (h : y ∈ l.modify i f) :
    y ∈ l ∨ ∃ x, l[i]? = some x ∧ y = f x := by
  obtain ⟨k, hk⟩ := List.mem_iff_getElem?.mp h
  rw [List.getElem?_modify] at hk
  rcases hx : l[k]? with _ | x
  · simp [hx] at hk
  · by_cases hik : i = k
    · subst hik
      exact Or.inr ⟨x, hx, by simpa [hx] using hk.symm⟩
    · have hyx : x = y := by simpa [hx, hik] using hk
      exact Or.inl (hyx ▸ List.mem_of_getElem? hx)

theorem map_modify_of_eq {f : α → α} {g : α → β} (h : ∀ x, g (f x) = g x) {i : Nat}
    {l : List α} : (l.modify i f).map g = l.map g := by
  apply List.ext_getElem?
  intro k
  simp only [List.getElem?_map, List.getElem?_modify]
  rcases l[k]? with _ | x
  · rfl
  · by_cases hik : i = k
    · simp [hik, h]
    · simp [hik]

/-! ## Tables written to -/

namespace Table

/-- A change of a column that the table lacks is none. -/
theorem modifyColumn_of_not_hasColumn {t : Table} {name : String} (f : Column → Column)
    (h : t.column? name = none) : t.modifyColumn name f = t := by
  have hp : t.position? name = none := by
    have hn := (t.column?_isNone name).mp (by rw [h]; rfl)
    rw [← t.position?_isSome] at hn
    simpa using hn
  unfold modifyColumn
  rw [hp]

@[simp] theorem modifyColumn_indexes (t : Table) (name : String) (f : Column → Column) :
    (t.modifyColumn name f).indexes = t.indexes := by
  unfold modifyColumn
  split
  · rfl
  · rfl

/-- A table with one more index, if it has the columns and no index like it. -/
def withIndex (index : Index) (t : Table) : Table :=
  match index.columns.find? (fun c => (t.column? c).isNone) with
  | some _ => t
  | none =>
    if t.indexes.any (fun j => j.unique == index.unique && j.covers index.columns) then t
    else { t with indexes := t.indexes ++ [index] }

/-- A table with one more column, if it has none of that name. -/
def withColumn (column : Column) (t : Table) : Table :=
  match t.column? column.name with
  | some _ => t
  | none => { t with columns := t.columns ++ [column] }

/-- A table with a column defined anew. -/
def redefine (column : Column) (t : Table) : Table :=
  match t.column? column.name with
  | some _ => t.modifyColumn column.name (Builder.replaceColumn column)
  | none => { t with columns := t.columns ++ [column] }

/-- Marks a column as unique. -/
def uniqueColumn (c : Column) : Column := { c with unique := true }

/-- A table whose columns are unique together: one column is marked, several get an index. -/
def withUnique (name : Option String) (columns : List String) (t : Table) : Table :=
  match columns with
  | [c] => t.modifyColumn c uniqueColumn
  | _ => t.withIndex { name := name.getD "", columns := columns, unique := true }

/-- A table with a fact about it. Foreign keys wait elsewhere. -/
def withFact (t : Table) : Fact → Table
  | .primaryKey name columns => Builder.withPrimaryKey name columns t
  | .unique name columns => t.withUnique name columns
  | .index name columns unique method =>
    t.withIndex { name := name, columns := columns, unique := unique, method := method }
  | .foreignKey .. => t

end Table

/-- A table without its columns and its indexes. -/
def Table.head (t : Table) : Table := { t with columns := [], indexes := [] }

/-- What is read off the rest of a table does not change with its columns and indexes. -/
theorem Table.eq_of_head {t u : Table} (f : Table → β) (hf : ∀ t, f t.head = f t)
    (h : t.head = u.head) : f t = f u := by
  rw [← hf t, h, hf]

theorem modifyColumn_head (t : Table) (name : String) (f : Column → Column) :
    (t.modifyColumn name f).head = t.head := by
  unfold Table.modifyColumn
  split
  · rfl
  · rfl

theorem withIndex_head (t : Table) (index : Index) : (t.withIndex index).head = t.head := by
  unfold Table.withIndex
  split
  · rfl
  · split
    · rfl
    · rfl

theorem markKey_head (names : List String) (t : Table) :
    (names.foldl (fun t c => t.modifyColumn c Builder.keyColumn) t).head = t.head := by
  induction names generalizing t with
  | nil => rfl
  | cons c cs ih => rw [List.foldl_cons, ih, modifyColumn_head]

theorem withFact_head (t : Table) (fact : Fact) : (t.withFact fact).head = t.head := by
  cases fact with
  | primaryKey name columns => exact markKey_head columns t
  | unique name columns =>
    rcases columns with _ | ⟨c, _ | ⟨c', cs⟩⟩
    · exact withIndex_head t _
    · exact modifyColumn_head t c _
    · exact withIndex_head t _
  | index name columns unique method => exact withIndex_head t _
  | foreignKey name columns target targetColumns onUpdate onDelete => rfl

theorem withColumn_head (t : Table) (column : Column) : (t.withColumn column).head = t.head := by
  unfold Table.withColumn
  split
  · rfl
  · rfl

theorem redefine_head (t : Table) (column : Column) : (t.redefine column).head = t.head := by
  unfold Table.redefine
  split
  · exact modifyColumn_head t _ _
  · rfl

theorem ref_of_head {t u : Table} (h : t.head = u.head) : t.ref = u.ref :=
  Table.eq_of_head Table.ref (fun _ => rfl) h

/-- The foreign key that a fact about a table puts in line. -/
def keyOf? (t : Table) : Fact → Option PendingKey
  | .foreignKey name columns target targetColumns onUpdate onDelete =>
    some ⟨name.getD (Builder.foreignKeyName t.name columns), t.ref, columns, target,
      targetColumns, onUpdate, onDelete⟩
  | _ => none

namespace Builder

/-! ## What stays -/

/-- All but the tables stays, and warnings are only added. -/
structure Frame (b b' : Builder) : Prop where
  dialect : b'.dialect = b.dialect
  types : b'.types = b.types
  relationships : b'.relationships = b.relationships
  pending : b'.pending = b.pending
  warnings : b.warnings <+: b'.warnings

theorem Frame.refl (b : Builder) : Frame b b := ⟨rfl, rfl, rfl, rfl, List.prefix_refl _⟩

theorem frame_warn (b : Builder) (message : String) : Frame b (b.warn message) :=
  ⟨rfl, rfl, rfl, rfl, List.prefix_append _ _⟩

theorem frame_modifyTable (b : Builder) (i : Nat) (f : Table → Table) :
    Frame b (b.modifyTable i f) := ⟨rfl, rfl, rfl, rfl, List.prefix_refl _⟩

/-- Warnings, one for each item of a list. -/
theorem foldl_warn (message : α → String) (items : List α) (b : Builder) :
    items.foldl (fun b x => b.warn (message x)) b =
      { b with warnings := b.warnings ++ items.map message } := by
  induction items generalizing b with
  | nil => simp
  | cons x xs ih =>
    rw [List.foldl_cons, ih]
    simp [warn]

theorem frame_resolve (b : Builder) (r : TableRef) : Frame b (b.resolve r).2 := by
  unfold resolve
  split
  · exact .refl b
  · split
    · exact .refl b
    · exact frame_warn b _

theorem resolve_tables (b : Builder) (r : TableRef) : (b.resolve r).2.tables = b.tables := by
  unfold resolve
  split
  · rfl
  · split
    · rfl
    · rfl

theorem frame_addTable (b : Builder) (t : Table) : Frame b (b.addTable t).2 := by
  unfold addTable
  split
  · exact frame_warn b _
  · exact ⟨rfl, rfl, rfl, rfl, List.prefix_refl _⟩

/-! ## Indexes and keys -/

theorem frame_addIndex (b : Builder) (i : Nat) (index : Index) : Frame b (b.addIndex i index) := by
  unfold addIndex
  split
  · exact .refl b
  · split
    · exact frame_warn b _
    · split
      · exact .refl b
      · exact frame_modifyTable b i _

theorem addIndex_tables (b : Builder) (i : Nat) (index : Index) :
    (b.addIndex i index).tables = b.tables.modify i (Table.withIndex index) := by
  unfold addIndex
  split
  · rename_i ht
    exact (modify_of_getElem?_none _ ht).symm
  · rename_i t ht
    split
    · rename_i hc
      exact (modify_eq_self ht (by simp [Table.withIndex, hc])).symm
    · rename_i hc
      split
      · rename_i hd
        exact (modify_eq_self ht (by simp [Table.withIndex, hc, hd])).symm
      · rename_i hd
        exact modify_eq_of_getElem? ht (by simp [Table.withIndex, hc, hd])

/-- The warnings about the columns of a primary key that the table at a position lacks. -/
def keyWarnings (t : Table) (columns : List String) : List String :=
  (columns.filter (fun c => (t.column? c).isNone)).map
    (fun c => "Primary key column " ++ c ++ " not found in table " ++ t.name)

theorem setPrimaryKey_eq {b : Builder} {i : Nat} {t : Table} (name : Option String)
    (columns : List String) (ht : b.tables[i]? = some t) :
    b.setPrimaryKey i name columns =
      { b with
        tables := b.tables.modify i (withPrimaryKey name columns)
        warnings := b.warnings ++ keyWarnings t columns } := by
  unfold setPrimaryKey
  rw [ht]
  exact foldl_warn (fun c => "Primary key column " ++ c ++ " not found in table " ++ t.name)
    (columns.filter (fun c => (t.column? c).isNone)) (b.modifyTable i (withPrimaryKey name columns))

theorem frame_setPrimaryKey (b : Builder) (i : Nat) (name : Option String)
    (columns : List String) : Frame b (b.setPrimaryKey i name columns) := by
  rcases ht : b.tables[i]? with _ | t
  · unfold setPrimaryKey
    rw [ht]
    exact .refl b
  · rw [setPrimaryKey_eq name columns ht]
    exact ⟨rfl, rfl, rfl, rfl, List.prefix_append _ _⟩

theorem setPrimaryKey_tables (b : Builder) (i : Nat) (name : Option String)
    (columns : List String) :
    (b.setPrimaryKey i name columns).tables = b.tables.modify i (withPrimaryKey name columns) := by
  rcases ht : b.tables[i]? with _ | t
  · rw [modify_of_getElem?_none _ ht]
    unfold setPrimaryKey
    rw [ht]
  · rw [setPrimaryKey_eq name columns ht]

theorem frame_addUnique (b : Builder) (i : Nat) (name : Option String) (columns : List String) :
    Frame b (b.addUnique i name columns) := by
  unfold addUnique
  dsimp only
  split
  · split
    · exact frame_modifyTable b i _
    · exact frame_addIndex b i _
  · exact frame_addIndex b i _

/-- An index over one column that the table lacks is left out. -/
theorem withIndex_of_column?_none {t : Table} {c : String} (index : Index)
    (hi : index.columns = [c]) (h : t.column? c = none) : t.withIndex index = t := by
  simp [Table.withIndex, hi, h]

theorem addUnique_tables (b : Builder) (i : Nat) (name : Option String) (columns : List String) :
    (b.addUnique i name columns).tables = b.tables.modify i (Table.withUnique name columns) := by
  unfold addUnique
  dsimp only
  split
  · rename_i c
    split
    · rfl
    · rename_i hc
      rw [addIndex_tables]
      rcases ht : b.tables[i]? with _ | t
      · rw [modify_of_getElem?_none _ ht, modify_of_getElem?_none _ ht]
      · have hn : t.column? c = none := by simpa [ht] using hc
        apply modify_eq_of_getElem? ht
        rw [withIndex_of_column?_none _ rfl hn]
        exact (Table.modifyColumn_of_not_hasColumn _ hn).symm
  · rename_i hne
    rw [addIndex_tables]
    unfold Table.withUnique
    split
    · rename_i c
      exact absurd rfl (hne c)
    · rfl

/-! ## Facts -/

theorem apply_tables (b : Builder) (i : Nat) (fact : Fact) :
    (b.apply i fact).tables = b.tables.modify i (Table.withFact · fact) := by
  unfold apply
  split
  · rename_i ht
    exact (modify_of_getElem?_none _ ht).symm
  · rename_i t ht
    cases fact with
    | primaryKey name columns => exact setPrimaryKey_tables b i name columns
    | unique name columns => exact addUnique_tables b i name columns
    | index name columns unique method => exact addIndex_tables b i _
    | foreignKey name columns target targetColumns onUpdate onDelete =>
      exact (modify_eq_self ht rfl).symm

theorem apply_pending {b : Builder} {i : Nat} {t : Table} (fact : Fact)
    (ht : b.tables[i]? = some t) :
    (b.apply i fact).pending = b.pending ++ (keyOf? t fact).toList := by
  unfold apply
  rw [ht]
  cases fact with
  | primaryKey name columns => simp [keyOf?, (frame_setPrimaryKey b i name columns).pending]
  | unique name columns => simp [keyOf?, (frame_addUnique b i name columns).pending]
  | index name columns unique method => simp [keyOf?, (frame_addIndex b i _).pending]
  | foreignKey name columns target targetColumns onUpdate onDelete => rfl

/-- All that a fact leaves alone; only the line of foreign keys may grow besides the tables. -/
theorem frame_apply (b : Builder) (i : Nat) (fact : Fact) :
    Frame b { b.apply i fact with pending := b.pending } := by
  unfold apply
  split
  · exact .refl b
  · cases fact with
    | primaryKey name columns =>
      obtain ⟨h1, h2, h3, _, h5⟩ := frame_setPrimaryKey b i name columns
      exact ⟨h1, h2, h3, rfl, h5⟩
    | unique name columns =>
      obtain ⟨h1, h2, h3, _, h5⟩ := frame_addUnique b i name columns
      exact ⟨h1, h2, h3, rfl, h5⟩
    | index name columns unique method =>
      obtain ⟨h1, h2, h3, _, h5⟩ := frame_addIndex b i
        { name := name, columns := columns, unique := unique, method := method }
      exact ⟨h1, h2, h3, rfl, h5⟩
    | foreignKey name columns target targetColumns onUpdate onDelete => exact .refl b

/-! ## Columns and comments -/

theorem frame_addColumn (b : Builder) (i : Nat) (column : Column) :
    Frame b (b.addColumn i column) := by
  unfold addColumn
  split
  · exact .refl b
  · split
    · exact frame_warn b _
    · exact frame_modifyTable b i _

theorem addColumn_tables (b : Builder) (i : Nat) (column : Column) :
    (b.addColumn i column).tables = b.tables.modify i (Table.withColumn column) := by
  unfold addColumn
  split
  · rename_i ht
    exact (modify_of_getElem?_none _ ht).symm
  · rename_i t ht
    split
    · rename_i c hc
      exact (modify_eq_self ht (by simp [Table.withColumn, hc])).symm
    · rename_i hc
      exact modify_eq_of_getElem? ht (by simp [Table.withColumn, hc])

theorem frame_onColumn (b : Builder) (i : Nat) (column purpose : String) (f : Column → Column) :
    Frame b (b.onColumn i column purpose f) := by
  unfold onColumn
  split
  · exact .refl b
  · split
    · exact frame_modifyTable b i _
    · exact frame_warn b _

theorem onColumn_tables (b : Builder) (i : Nat) (column purpose : String) (f : Column → Column) :
    (b.onColumn i column purpose f).tables = b.tables.modify i (·.modifyColumn column f) := by
  unfold onColumn
  split
  · rename_i ht
    exact (modify_of_getElem?_none _ ht).symm
  · rename_i t ht
    split
    · rfl
    · rename_i hc
      exact (modify_eq_self ht (Table.modifyColumn_of_not_hasColumn f hc)).symm

/-! ## The states that writers lead to -/

/-- A schema under construction: empty at the start, and changed by writers alone. -/
inductive Reached : Builder → Prop
  | start (d : Dialect) : Reached { dialect := d }
  | warn {b : Builder} (message : String) : Reached b → Reached (b.warn message)
  | resolve {b : Builder} (r : TableRef) : Reached b → Reached (b.resolve r).2
  | addTable {b : Builder} (t : Table) : Reached b → Reached (b.addTable t).2
  | addType {b : Builder} (t : CustomType) : Reached b → Reached (b.addType t)
  | addIndex {b : Builder} (i : Nat) (index : Index) : Reached b → Reached (b.addIndex i index)
  | apply {b : Builder} (i : Nat) (fact : Fact) : Reached b → Reached (b.apply i fact)
  | queueKey {b : Builder} (k : PendingKey) : Reached b → Reached (b.queueKey k)
  | addColumn {b : Builder} (i : Nat) (column : Column) : Reached b → Reached (b.addColumn i column)
  | modifyColumn {b : Builder} (i : Nat) (column : Column) :
      Reached b → Reached (b.modifyColumn i column)
  | setDefault {b : Builder} (i : Nat) (column value : String) :
      Reached b → Reached (b.setDefault i column value)
  | setNotNull {b : Builder} (i : Nat) (column : String) :
      Reached b → Reached (b.setNotNull i column)
  | setTableComment {b : Builder} (i : Nat) (comment : Option String) :
      Reached b → Reached (b.setTableComment i comment)
  | setColumnComment {b : Builder} (i : Nat) (column : String) (comment : Option String) :
      Reached b → Reached (b.setColumnComment i column comment)

/-- No foreign key is made before the schema is finished. -/
theorem Reached.relationships_eq_nil {b : Builder} (h : Reached b) : b.relationships = [] := by
  induction h with
  | start d => rfl
  | warn message _ ih => exact ih
  | resolve r _ ih => exact (frame_resolve _ r).relationships.trans ih
  | addTable t _ ih => exact (frame_addTable _ t).relationships.trans ih
  | @addType b t _ ih =>
    unfold Builder.addType
    split
    · exact ih
    · exact ih
  | addIndex i index _ ih => exact (frame_addIndex _ i index).relationships.trans ih
  | apply i fact _ ih => exact (frame_apply _ i fact).relationships.trans ih
  | queueKey k _ ih => exact ih
  | addColumn i column _ ih => exact (frame_addColumn _ i column).relationships.trans ih
  | modifyColumn i column _ ih => exact ih
  | setDefault i column value _ ih => exact (frame_onColumn _ i column _ _).relationships.trans ih
  | setNotNull i column _ ih => exact ih
  | setTableComment i comment _ ih => exact ih
  | setColumnComment i column comment _ ih =>
    exact (frame_onColumn _ i column _ _).relationships.trans ih

end Builder

end SchemaChart.Schema
