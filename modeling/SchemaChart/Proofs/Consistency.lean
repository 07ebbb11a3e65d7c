-- The invariant of a schema under construction: tables and types that can be told apart, tables in
-- the order in which they came, key columns that are not null, one primary key for each table, and
-- indexes over known columns, none of them twice. Every call to a writer keeps it.
import SchemaChart.Proofs.Facts
import SchemaChart.Proofs.IndexColumns

namespace SchemaChart.Schema

open Text

/-! ## The invariant -/

/-- Every index of a table but the primary key names columns that the table has. -/
def Table.IndexesHaveColumns (t : Table) : Prop :=
  ∀ i ∈ t.indexes, i.isPrimaryKey = false → ∀ c ∈ i.columns, t.HasColumn c

/-- What holds of one table. -/
structure Table.Sound (t : Table) : Prop where
  keys_not_null : ∀ c ∈ t.columns, c.KeyNotNull
  one_key : (t.indexes.filter (·.isPrimaryKey)).length ≤ 1
  have_columns : t.IndexesHaveColumns
  indexes_differ : (t.indexes.filter (!·.isPrimaryKey)).Pairwise
    (fun i j => ¬ (i.unique = j.unique ∧ i.covers j.columns = true))

/-- What tells types apart, as it does tables. -/
def CustomType.key (d : Dialect) (t : CustomType) : List Char × Option (List Char) :=
  TableRef.key d ⟨t.name, t.schema⟩

/-- What holds of the tables and types of a schema. -/
structure Consistent (d : Dialect) (tables : List Table) (types : List CustomType) : Prop where
  tables_apart : (tables.map (·.ref.key d)).Nodup
  in_order : ∀ (i : Nat) (t : Table), tables[i]? = some t → t.order = i
  sound : ∀ t ∈ tables, t.Sound
  types_apart : (types.map (·.key d)).Nodup

/-! ## Changes of one table -/

theorem indexesHaveColumns_iff (t : Table) :
    t.IndexesHaveColumns ↔ ∃ ws, IndexesKnown ws t := by
  constructor
  · intro h
    refine ⟨t.indexes.flatMap (·.columns.map (missingKeyColumn · t.name)), fun i hi c hc => ?_⟩
    rcases hk : i.isPrimaryKey with _ | _
    · exact Or.inl (h i hi hk c hc)
    · exact Or.inr ⟨rfl, List.mem_flatMap.mpr ⟨i, hi, List.mem_map_of_mem hc⟩⟩
  · rintro ⟨ws, h⟩ i hi hk c hc
    rcases h i hi c hc with hc | ⟨hp, _⟩
    · exact hc
    · rw [hk] at hp
      cases hp

theorem keysNotNull_modifyColumn {t : Table} {name : String} {f : Column → Column}
    (hf : ∀ c, c.KeyNotNull → (f c).KeyNotNull) (h : ∀ c ∈ t.columns, c.KeyNotNull) :
    ∀ c ∈ (t.modifyColumn name f).columns, c.KeyNotNull := by
  unfold Table.modifyColumn
  split
  · intro c hc
    rcases mem_modify hc with hc | ⟨old, hold, rfl⟩
    · exact h c hc
    · exact hf old (h old (List.mem_of_getElem? hold))
  · exact h

namespace Table.Sound

/-- A change of a column keeps a table sound, if it keeps the name up to case. -/
theorem modifyColumn {t : Table} {name : String} {f : Column → Column}
    (hname : ∀ c, sameName c.name name = true → sameName (f c).name c.name = true)
    (hf : ∀ c, c.KeyNotNull → (f c).KeyNotNull) (h : t.Sound) : (t.modifyColumn name f).Sound := by
  obtain ⟨ws, hws⟩ := (indexesHaveColumns_iff t).mp h.have_columns
  have hindexes := t.modifyColumn_indexes name f
  refine ⟨keysNotNull_modifyColumn hf h.keys_not_null, ?_, ?_, ?_⟩
  · rw [hindexes]
    exact h.one_key
  · exact (indexesHaveColumns_iff _).mpr ⟨ws, indexesKnown_modifyColumn hname hws⟩
  · rw [hindexes]
    exact h.indexes_differ

theorem append {t : Table} {column : Column} (hc : column.KeyNotNull) (h : t.Sound) :
    Table.Sound { t with columns := t.columns ++ [column] } := by
  obtain ⟨ws, hws⟩ := (indexesHaveColumns_iff t).mp h.have_columns
  refine ⟨fun c hmem => ?_, h.one_key,
    (indexesHaveColumns_iff _).mpr ⟨ws, indexesKnown_append column hws⟩, h.indexes_differ⟩
  rcases List.mem_append.mp hmem with hmem | hmem
  · exact h.keys_not_null c hmem
  · rw [List.mem_singleton.mp hmem]
    exact hc

theorem withColumn {t : Table} {column : Column} (hc : column.KeyNotNull) (h : t.Sound) :
    (t.withColumn column).Sound := by
  unfold Table.withColumn
  split
  · exact h
  · exact h.append hc

theorem replaceColumn_keyNotNull (new old : Column) :
    (Builder.replaceColumn new old).KeyNotNull := by
  intro hkey
  have hkey : (new.primaryKey || old.primaryKey) = true := hkey
  simp [Builder.replaceColumn, hkey]

/-- A column that is defined anew may spell its name in other letters. -/
theorem redefine {t : Table} {column : Column} (hc : column.KeyNotNull) (h : t.Sound) :
    (t.redefine column).Sound := by
  unfold Table.redefine
  split
  · exact h.modifyColumn (fun _ hs => sameName_symm hs)
      (fun old _ => replaceColumn_keyNotNull column old)
  · exact h.append hc

theorem withIndex {t : Table} {index : Index} (hi : index.isPrimaryKey = false) (h : t.Sound) :
    (t.withIndex index).Sound := by
  obtain ⟨ws, hws⟩ := (indexesHaveColumns_iff t).mp h.have_columns
  have hknown := (indexesHaveColumns_iff _).mpr ⟨ws, indexesKnown_withIndex index hws⟩
  refine ⟨?_, ?_, hknown, ?_⟩
  · rw [withIndex_columns]
    exact h.keys_not_null
  · unfold Table.withIndex
    split
    · exact h.one_key
    · split
      · exact h.one_key
      · simpa [List.filter_append, hi] using h.one_key
  · unfold Table.withIndex
    split
    · exact h.indexes_differ
    · split
      · exact h.indexes_differ
      · rename_i hnew
        rw [List.filter_append, List.pairwise_append]
        refine ⟨h.indexes_differ, by simp [hi], ?_⟩
        intro j hj i hmem hsame
        have hij : i = index := by simpa [hi] using hmem
        subst hij
        refine hnew (List.any_eq_true.mpr ⟨j, (List.mem_filter.mp hj).1, ?_⟩)
        simpa using hsame

theorem withUnique {t : Table} (name : Option String) (columns : List String) (h : t.Sound) :
    (t.withUnique name columns).Sound := by
  unfold Table.withUnique
  split
  · exact h.modifyColumn (fun c _ => sameName_refl c.name) (fun _ hc => hc)
  · exact h.withIndex rfl

theorem keyColumns {t : Table} (columns : List String) (h : ∀ c ∈ t.columns, c.KeyNotNull) :
    ∀ c ∈ (columns.foldl (fun t c => t.modifyColumn c Builder.keyColumn) t).columns,
      c.KeyNotNull := by
  induction columns generalizing t with
  | nil => exact h
  | cons c cs ih => exact ih (keysNotNull_modifyColumn (fun _ _ _ => rfl) h)

/-- A primary key takes the place of the one before it. -/
theorem withPrimaryKey {t : Table} (name : Option String) (columns : List String) (h : t.Sound) :
    (Builder.withPrimaryKey name columns t).Sound := by
  obtain ⟨ws, hws⟩ := (indexesHaveColumns_iff t).mp h.have_columns
  have hold : (t.indexes.filter (!·.isPrimaryKey)).filter (·.isPrimaryKey) = [] := by
    simp [List.filter_filter]
  have hnew : ∀ i ∈ (Builder.primaryKeyIndex? name columns).toList, i.isPrimaryKey = true := by
    intro i hi
    obtain ⟨_, rfl⟩ := (mem_primaryKeyIndex? name columns i).mp hi
    rfl
  refine ⟨keyColumns columns h.keys_not_null, ?_, ?_, ?_⟩
  · change (List.filter _ (t.indexes.filter (!·.isPrimaryKey) ++ _)).length ≤ 1
    rw [List.filter_append, hold, List.nil_append]
    calc _ ≤ (Builder.primaryKeyIndex? name columns).toList.length := List.length_filter_le _ _
      _ ≤ 1 := Option.length_toList_le
  · refine (indexesHaveColumns_iff _).mpr ⟨ws ++ Builder.keyWarnings t columns, ?_⟩
    exact indexesKnown_withPrimaryKey name columns (List.subset_append_right _ _)
      (indexesKnown_mono (List.subset_append_left _ _) hws)
  · change (List.filter _ (t.indexes.filter (!·.isPrimaryKey) ++ _)).Pairwise _
    have hnone : (Builder.primaryKeyIndex? name columns).toList.filter (!·.isPrimaryKey) = [] := by
      rw [List.filter_eq_nil_iff]
      intro i hi
      simp [hnew i hi]
    rw [List.filter_append, hnone, List.append_nil, List.filter_filter]
    simpa using h.indexes_differ

theorem withFact {t : Table} (fact : Fact) (h : t.Sound) : (t.withFact fact).Sound := by
  cases fact with
  | primaryKey name columns => exact h.withPrimaryKey name columns
  | unique name columns => exact h.withUnique name columns
  | index name columns unique method => exact h.withIndex rfl
  | foreignKey name columns target targetColumns onUpdate onDelete => exact h

end Table.Sound

/-! ## What the writers keep -/

namespace Builder

/-- The invariant of a schema under construction. -/
abbrev IsConsistent (b : Builder) : Prop := Consistent b.dialect b.tables b.types

/-- A reference has one table at most that it can mean. -/
theorem IsConsistent.candidates {b : Builder} (h : b.IsConsistent) (r : TableRef) :
    (b.tables.filter (fun t => sameName t.name r.name && b.sameSchema t.schema r.schema)).length
      ≤ 1 := by
  let candidates :=
    b.tables.filter (fun t => sameName t.name r.name && b.sameSchema t.schema r.schema)
  have hkeys : candidates.map (·.ref.key b.dialect) =
      List.replicate candidates.length (r.key b.dialect) := by
    rw [List.eq_replicate_iff]
    refine ⟨List.length_map _, fun k hk => ?_⟩
    obtain ⟨t, ht, rfl⟩ := List.mem_map.mp hk
    have hsame := (List.mem_filter.mp ht).2
    rw [Bool.and_eq_true] at hsame
    exact (b.key_eq_iff t.ref r).mpr hsame
  have hnodup : (candidates.map (·.ref.key b.dialect)).Nodup :=
    h.tables_apart.sublist (List.filter_sublist.map _)
  rw [hkeys, List.nodup_replicate] at hnodup
  exact hnodup

/-- A writer that changes one table, and neither what it is called nor where it stands, keeps the
invariant if the table stays sound. -/
theorem IsConsistent.of_modify {b c : Builder} {i : Nat} {f : Table → Table}
    (h : b.IsConsistent) (hd : c.dialect = b.dialect) (hty : c.types = b.types)
    (ht : c.tables = b.tables.modify i f) (href : ∀ t, (f t).ref = t.ref)
    (horder : ∀ t, (f t).order = t.order) (hsound : ∀ t, t.Sound → (f t).Sound) :
    c.IsConsistent := by
  unfold IsConsistent
  rw [hd, hty, ht]
  refine ⟨?_, fun k t hk => ?_, fun t hmem => ?_, h.types_apart⟩
  · rw [map_modify_of_eq (fun t => by rw [href])]
    exact h.tables_apart
  · rw [List.getElem?_modify] at hk
    obtain ⟨old, hold, rfl⟩ := Option.map_eq_some_iff.mp hk
    split
    · rw [horder]
      exact h.in_order k old hold
    · exact h.in_order k old hold
  · rcases mem_modify hmem with hmem | ⟨old, hold, rfl⟩
    · exact h.sound t hmem
    · exact hsound old (h.sound old (List.mem_of_getElem? hold))

/-- A change of columns and indexes alone. -/
theorem IsConsistent.of_head {b c : Builder} {i : Nat} {f : Table → Table}
    (h : b.IsConsistent) (hd : c.dialect = b.dialect) (hty : c.types = b.types)
    (ht : c.tables = b.tables.modify i f) (hhead : ∀ t, (f t).head = t.head)
    (hsound : ∀ t, t.Sound → (f t).Sound) : c.IsConsistent :=
  h.of_modify hd hty ht (fun t => ref_of_head (hhead t))
    (fun t => Table.eq_of_head Table.order (fun _ => rfl) (hhead t)) hsound

/-- A table is added only if no other has its name and schema. -/
theorem IsConsistent.addTable {b : Builder} {t : Table} (h : b.IsConsistent)
    (ht : t.indexes = []) (hc : ∀ c ∈ t.columns, c.KeyNotNull) : (b.addTable t).2.IsConsistent := by
  unfold Builder.addTable
  split
  · exact h
  · rename_i hnone
    refine ⟨keys_concat h.tables_apart hnone, fun k u hk => ?_, fun u hu => ?_, h.types_apart⟩
    · rw [List.getElem?_append] at hk
      split at hk
      · exact h.in_order k u hk
      · obtain ⟨hlt, hu⟩ := List.getElem?_eq_some_iff.mp hk
        have hkl : k = b.tables.length := by
          simp only [List.length_singleton] at hlt
          omega
        subst hkl
        simp only [Nat.sub_self, List.getElem_cons_zero] at hu
        rw [← hu]
    · rcases List.mem_append.mp hu with hu | hu
      · exact h.sound u hu
      · rw [List.mem_singleton.mp hu]
        refine ⟨hc, ?_, ?_, ?_⟩
        · simp [ht]
        · simp [Table.IndexesHaveColumns, ht]
        · simp [ht]

theorem IsConsistent.addType {b : Builder} (t : CustomType) (h : b.IsConsistent) :
    (b.addType t).IsConsistent := by
  unfold Builder.addType
  split
  · exact h
  · rename_i hnone
    refine ⟨h.tables_apart, h.in_order, h.sound, ?_⟩
    rw [List.map_append, List.nodup_append]
    refine ⟨h.types_apart, List.nodup_singleton _, ?_⟩
    intro x hx y hy hxy
    obtain ⟨u, hu, rfl⟩ := List.mem_map.mp hx
    rw [List.mem_singleton.mp hy] at hxy
    refine hnone (List.any_eq_true.mpr ⟨u, hu, ?_⟩)
    simpa using (b.key_eq_iff ⟨u.name, u.schema⟩ ⟨t.name, t.schema⟩).mp hxy

theorem IsConsistent.addIndex {b : Builder} {index : Index} (i : Nat)
    (hi : index.isPrimaryKey = false) (h : b.IsConsistent) : (b.addIndex i index).IsConsistent :=
  h.of_head (frame_addIndex b i index).dialect (frame_addIndex b i index).types
    (addIndex_tables b i index) (fun t => withIndex_head t index) (fun _ ht => ht.withIndex hi)

theorem IsConsistent.apply {b : Builder} (i : Nat) (fact : Fact) (h : b.IsConsistent) :
    (b.apply i fact).IsConsistent :=
  h.of_head (frame_apply b i fact).dialect (frame_apply b i fact).types (apply_tables b i fact)
    (fun t => withFact_head t fact) (fun _ ht => ht.withFact fact)

theorem IsConsistent.addColumn {b : Builder} {column : Column} (i : Nat)
    (hc : column.KeyNotNull) (h : b.IsConsistent) : (b.addColumn i column).IsConsistent :=
  h.of_head (frame_addColumn b i column).dialect (frame_addColumn b i column).types
    (addColumn_tables b i column) (fun t => withColumn_head t column) (fun _ ht => ht.withColumn hc)

theorem IsConsistent.modifyColumn {b : Builder} {column : Column} (i : Nat)
    (hc : column.KeyNotNull) (h : b.IsConsistent) : (b.modifyColumn i column).IsConsistent :=
  h.of_head (c := b.modifyColumn i column) rfl rfl rfl (fun t => redefine_head t column)
    (fun _ ht => ht.redefine hc)

/-- Neither defaults nor comments touch a name or a key. -/
theorem IsConsistent.onColumn {b : Builder} (i : Nat) (column purpose : String)
    {f : Column → Column} (hname : ∀ c, (f c).name = c.name)
    (hf : ∀ c, c.KeyNotNull → (f c).KeyNotNull) (h : b.IsConsistent) :
    (b.onColumn i column purpose f).IsConsistent := by
  refine h.of_head (frame_onColumn b i column purpose f).dialect
    (frame_onColumn b i column purpose f).types (onColumn_tables b i column purpose f)
    (fun t => modifyColumn_head t column f) (fun _ ht => ht.modifyColumn (fun c _ => ?_) hf)
  rw [hname]
  exact sameName_refl c.name

theorem IsConsistent.setNotNull {b : Builder} (i : Nat) (column : String) (h : b.IsConsistent) :
    (b.setNotNull i column).IsConsistent :=
  h.of_head (c := b.setNotNull i column) rfl rfl rfl (fun t => modifyColumn_head t column _)
    (fun _ ht => ht.modifyColumn (fun c _ => sameName_refl c.name) (fun _ _ _ => rfl))

theorem IsConsistent.setTableComment {b : Builder} (i : Nat) (comment : Option String)
    (h : b.IsConsistent) : (b.setTableComment i comment).IsConsistent :=
  h.of_modify (c := b.setTableComment i comment) rfl rfl rfl (fun _ => rfl) (fun _ => rfl)
    (fun _ ht => ⟨ht.keys_not_null, ht.one_key, ht.have_columns, ht.indexes_differ⟩)

end Builder

end SchemaChart.Schema

namespace SchemaChart.Import

open Data (Arithmetic)
open Schema (Builder Consistent TableRef)
open Script (Statement)

namespace Visited

variable {s : Source} {b : Builder}

/-- Every state is consistent, call by call. -/
theorem consistent (h : Visited s b) : b.IsConsistent := by
  induction h with
  | start => exact ⟨List.nodup_nil, by simp, by simp, List.nodup_nil⟩
  | warn message _ ih => exact ih
  | addTable hr _ ih => exact ih.addTable (read_fresh hr).1 (read_fresh hr).2
  | addType t _ ih => exact ih.addType t
  | addIndex i hr _ ih => exact ih.addIndex i (read_fresh hr)
  | apply i fact _ ih => exact ih.apply i fact
  | addColumn i ha _ ih => exact ih.addColumn i ha.fresh.1
  | modifyColumn i ha _ ih => exact ih.modifyColumn i ha.fresh
  | setDefault i column value _ ih =>
    exact ih.onColumn i column "default" (fun _ => rfl) (fun _ hc => hc)
  | setNotNull i column _ ih => exact ih.setNotNull i column
  | setTableComment i comment _ ih => exact ih.setTableComment i comment
  | setColumnComment i column comment _ ih =>
    exact ih.onColumn i column "comment" (fun _ => rfl) (fun _ hc => hc)

/-- To finish a schema touches neither tables nor types. -/
theorem finish {p : Progress} {r : Schema} (h : Visited s p.builder) (hr : p.finish s = .ok r) :
    Consistent s.dialect r.tables r.types := by
  have hb := h.consistent
  unfold Builder.IsConsistent at hb
  rw [h.dialect] at hb
  unfold Progress.finish at hr
  split at hr
  · cases hr
  · cases hr
    rw [Builder.finish_eq]
    exact hb

end Visited

/-- A schema is consistent in every state that a script or a dump leads it through, from one call of
a writer to the next, and so is the schema that comes out. The states are those of an empty schema,
of one more statement, of an alteration that a dump keeps for later, and of one that it makes. -/
theorem schemas_stay_consistent (s : Source) :
    (∀ b, Visited s b → b.IsConsistent ∧ ∀ r : TableRef,
      (b.tables.filter (fun t =>
        Text.sameName t.name r.name && b.sameSchema t.schema r.schema)).length ≤ 1) ∧
    Visited s (Progress.start s).builder ∧
    (∀ (a : Arithmetic) (p q : Progress) (st : Statement), Visited s p.builder →
      p.step a s st = .ok q → Visited s q.builder) ∧
    (∀ (p : Progress) (changes : Changes) (st : Statement), Visited s p.builder →
      (∀ c ∈ changes, Asked s c.1 c.2) →
      Visited s (gatherStep s (p, changes) st).1.builder ∧
        ∀ c ∈ (gatherStep s (p, changes) st).2, Asked s c.1 c.2) ∧
    (∀ b r change, Asked s r change → Visited s b → Visited s (b.alter r change)) ∧
    (∀ (a : Arithmetic) (sts : List Statement) (p : Progress),
      (Progress.start s).run a s sts = .ok p ∨ runDump a s sts = .ok p → Visited s p.builder) ∧
    ∀ a cs r, parseScript a s cs = .ok r ∨ parseDump a s cs = .ok r →
      Consistent s.dialect r.tables r.types := by
  have hrun : ∀ (a : Arithmetic) (sts : List Statement) (p : Progress),
      (Progress.start s).run a s sts = .ok p ∨ runDump a s sts = .ok p → Visited s p.builder := by
    rintro a sts p (h | h)
    · exact Visited.start.run h
    · exact Visited.runDump h
  refine ⟨fun b hb => ⟨hb.consistent, hb.consistent.candidates⟩, .start,
    fun a p q st hp hq => hp.step hq, fun p changes st hp hc => hp.gatherStep st hc,
    fun b r change ha hb => hb.alter ha, hrun, fun a cs r hr => ?_⟩
  rcases hr with hr | hr
  · obtain ⟨p, hp, hfinish⟩ := outcome_eq_ok hr
    exact (hrun a _ p (.inl hp)).finish hfinish
  · obtain ⟨p, hp, hfinish⟩ := outcome_eq_ok hr
    exact (hrun a _ p (.inr hp)).finish hfinish

/-- A column that is spelled in other letters when it is defined anew keeps its index. -/
theorem a_column_spelled_anew_keeps_its_index :
    ∃ r, parseScript .checked .mysql
        "CREATE TABLE t (A int, KEY k (A)); ALTER TABLE t MODIFY a bigint;".toList = .ok r ∧
      r.tables.map (fun t => (t.columns.map (·.name), t.indexes.map (·.columns))) =
        [(["a"], [["A"]])] ∧
      Consistent .mysql r.tables r.types := by
  have hnames : (parseScript .checked .mysql
      "CREATE TABLE t (A int, KEY k (A)); ALTER TABLE t MODIFY a bigint;".toList).toOption.map
        (fun r => r.tables.map (fun t => (t.columns.map (·.name), t.indexes.map (·.columns)))) =
      some [(["a"], [["A"]])] := by decide +kernel
  rcases hr : parseScript .checked .mysql
      "CREATE TABLE t (A int, KEY k (A)); ALTER TABLE t MODIFY a bigint;".toList with e | r
  · rw [hr] at hnames
    cases hnames
  · rw [hr] at hnames
    obtain ⟨_, _, _, _, _, _, hconsistent⟩ := schemas_stay_consistent .mysql
    exact ⟨r, rfl, Option.some.inj hnames, hconsistent _ _ r (Or.inl hr)⟩

end SchemaChart.Import
