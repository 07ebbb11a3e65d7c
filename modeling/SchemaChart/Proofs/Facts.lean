-- How tables are told apart, and what facts do to a table: they mark columns, in an order that is
-- of no matter, and a primary key takes the place of the one before it.
import Mathlib.Data.List.Nodup
import SchemaChart.Proofs.Worklist

namespace SchemaChart.Schema

open Text

/-! ## The keys of tables -/

/-- What tells tables apart: the name, and the schema that is written or stands for a missing one,
up to case. -/
def TableRef.key (d : Dialect) (r : TableRef) : List Char × Option (List Char) :=
  (foldName r.name, (r.schema <|> d.defaultSchema?).map foldName)

namespace Builder

theorem sameSchema_iff (b : Builder) (s t : Option String) :
    b.sameSchema s t = true ↔
      (s <|> b.dialect.defaultSchema?).map foldName =
        (t <|> b.dialect.defaultSchema?).map foldName := by
  unfold sameSchema effectiveSchema
  rcases (s <|> b.dialect.defaultSchema?) with _ | s
  · rcases (t <|> b.dialect.defaultSchema?) with _ | t
    · simp
    · simp
  · rcases (t <|> b.dialect.defaultSchema?) with _ | t
    · simp
    · simp [sameName_iff]

theorem key_eq_iff (b : Builder) (r q : TableRef) :
    r.key b.dialect = q.key b.dialect ↔
      sameName r.name q.name = true ∧ b.sameSchema r.schema q.schema = true := by
  rw [sameName_iff, sameSchema_iff]
  exact Prod.mk.injEq _ _ _ _ ▸ Iff.rfl

theorem lookupExact?_eq_none_iff (b : Builder) (r : TableRef) :
    b.lookupExact? r = none ↔ ∀ t ∈ b.tables, t.ref.key b.dialect ≠ r.key b.dialect := by
  unfold lookupExact?
  rw [Option.orElse_apply, Option.orElse_eq_or, Option.or_eq_none_iff]
  simp only [List.findIdx?_eq_none_iff, Bool.eq_false_iff, ne_eq, Bool.and_eq_true, beq_iff_eq]
  refine ⟨fun h t ht => ?_, fun h => ⟨fun t ht he => ?_, fun t ht he => ?_⟩⟩
  · exact mt (b.key_eq_iff t.ref r).mp (h.2 t ht)
  · refine h t ht ((b.key_eq_iff t.ref r).mpr ⟨?_, he.2⟩)
    change sameName t.name r.name = true
    rw [he.1]
    exact sameName_refl r.name
  · exact h t ht ((b.key_eq_iff t.ref r).mpr he)

theorem key_of_resolves {b : Builder} {r : TableRef} {t : Table} (h : b.Resolves r t) :
    t ∈ b.tables ∧ t.ref.key b.dialect = r.key b.dialect := by
  obtain ⟨i, hi, ht⟩ := h
  refine ⟨List.mem_of_getElem? ht, (b.key_eq_iff t.ref r).mpr ?_⟩
  unfold lookupExact? at hi
  rw [Option.orElse_apply, Option.orElse_eq_or, Option.or_eq_some_iff] at hi
  rcases hi with hi | ⟨_, hi⟩
  · obtain ⟨hlt, hp, _⟩ := List.findIdx?_eq_some_iff_getElem.mp hi
    rw [List.getElem?_eq_getElem hlt] at ht
    rw [Option.some.inj ht, Bool.and_eq_true, beq_iff_eq] at hp
    exact ⟨by rw [← hp.1]; exact sameName_refl t.name, hp.2⟩
  · obtain ⟨hlt, hp, _⟩ := List.findIdx?_eq_some_iff_getElem.mp hi
    rw [List.getElem?_eq_getElem hlt] at ht
    rw [Option.some.inj ht, Bool.and_eq_true] at hp
    exact hp

/-- With keys of their own, a reference names the one table of its key. -/
theorem resolves_iff {b : Builder} (h : (b.tables.map (·.ref.key b.dialect)).Nodup)
    (r : TableRef) (t : Table) :
    b.Resolves r t ↔ t ∈ b.tables ∧ t.ref.key b.dialect = r.key b.dialect := by
  refine ⟨key_of_resolves, fun ⟨ht, hk⟩ => ?_⟩
  rcases b.resolves_or_none r with ⟨u, hu⟩ | hn
  · obtain ⟨hmem, hku⟩ := key_of_resolves hu
    rw [List.inj_on_of_nodup_map h ht hmem (hk.trans hku.symm)]
    exact hu
  · exact absurd hk ((b.lookupExact?_eq_none_iff r).mp hn t ht)

/-- Where tables have keys of their own, each is found at its position by its own reference. -/
theorem lookupExact?_ref {b : Builder} (h : (b.tables.map (·.ref.key b.dialect)).Nodup) {i : Nat}
    {t : Table} (ht : b.tables[i]? = some t) : b.lookupExact? t.ref = some i := by
  obtain ⟨k, hk, htk⟩ := (resolves_iff h t.ref t).mpr ⟨List.mem_of_getElem? ht, rfl⟩
  have hlt : k < b.tables.length := (List.getElem?_eq_some_iff.mp htk).1
  rw [hk, (List.getElem?_inj hlt (h.of_map _)).mp (htk.trans ht.symm)]

/-- A table that is not found has a key of its own. -/
theorem keys_concat {b : Builder} (h : (b.tables.map (·.ref.key b.dialect)).Nodup) {t : Table}
    (hnone : b.lookupExact? t.ref = none) :
    ((b.tables ++ [t]).map (·.ref.key b.dialect)).Nodup := by
  rw [List.map_append, List.nodup_append]
  refine ⟨h, List.nodup_singleton _, ?_⟩
  intro x hx y hy
  obtain ⟨u, hu, rfl⟩ := List.mem_map.mp hx
  rw [List.mem_singleton.mp hy]
  exact (b.lookupExact?_eq_none_iff t.ref).mp hnone u hu

/-- A change of one table that keeps its name and schema keeps all keys. -/
theorem keys_modify {b c : Builder} {i : Nat} {f : Table → Table}
    (h : (b.tables.map (·.ref.key b.dialect)).Nodup) (hd : c.dialect = b.dialect)
    (ht : c.tables = b.tables.modify i f) (href : ∀ t, (f t).ref = t.ref) :
    (c.tables.map (·.ref.key c.dialect)).Nodup := by
  rw [hd, ht, map_modify_of_eq (fun t => by rw [href])]
  exact h

/-- In every state, tables have keys of their own. -/
theorem Reached.tables_apart {b : Builder} (h : Reached b) :
    (b.tables.map (·.ref.key b.dialect)).Nodup := by
  induction h with
  | start d => exact List.nodup_nil
  | warn message _ ih => exact ih
  | @resolve b r _ ih =>
    rw [resolve_tables, (frame_resolve b r).dialect]
    exact ih
  | @addTable b t _ ih =>
    unfold Builder.addTable
    split
    · exact ih
    · next hnone => exact keys_concat ih hnone
  | @addType b t _ ih =>
    unfold Builder.addType
    split
    · exact ih
    · exact ih
  | @addIndex b i index _ ih =>
    exact keys_modify ih (frame_addIndex b i index).dialect (addIndex_tables b i index)
      fun t => ref_of_head (withIndex_head t index)
  | @apply b i fact _ ih =>
    exact keys_modify ih (frame_apply b i fact).dialect (apply_tables b i fact)
      fun t => ref_of_head (withFact_head t fact)
  | queueKey k _ ih => exact ih
  | @addColumn b i column _ ih =>
    exact keys_modify ih (frame_addColumn b i column).dialect (addColumn_tables b i column)
      fun t => ref_of_head (withColumn_head t column)
  | modifyColumn i column _ ih =>
    exact keys_modify ih rfl rfl fun t => ref_of_head (redefine_head t column)
  | @setDefault b i column value _ ih =>
    exact keys_modify ih (frame_onColumn b i column _ _).dialect (onColumn_tables b i column _ _)
      fun t => ref_of_head (modifyColumn_head t column _)
  | setNotNull i column _ ih =>
    exact keys_modify ih rfl rfl fun t => ref_of_head (modifyColumn_head t column _)
  | setTableComment i comment _ ih => exact keys_modify ih rfl rfl fun _ => rfl
  | @setColumnComment b i column comment _ ih =>
    exact keys_modify ih (frame_onColumn b i column _ _).dialect (onColumn_tables b i column _ _)
      fun t => ref_of_head (modifyColumn_head t column _)

end Builder

/-! ## Marks on columns -/

/-- A mark that a fact puts on a column. -/
inductive Mark where
  | key (column : String)
  | unique (column : String)

def Mark.column : Mark → String
  | key c => c
  | unique c => c

def Mark.change : Mark → Column → Column
  | key _ => Builder.keyColumn
  | unique _ => Table.uniqueColumn

/-- Columns with one more mark, if they have the column. -/
def mark (columns : List Column) (m : Mark) : List Column :=
  match positionByName? Column.name m.column columns with
  | some i => columns.modify i m.change
  | none => columns

/-- The marks that a fact puts on columns. -/
def Fact.marks : Fact → List Mark
  | .primaryKey _ columns => columns.map .key
  | .unique _ [c] => [.unique c]
  | _ => []

theorem mark_of_none {columns : List Column} {m : Mark}
    (h : positionByName? Column.name m.column columns = none) : mark columns m = columns := by
  unfold mark
  rw [h]

theorem mark_of_some {columns : List Column} {m : Mark} {i : Nat}
    (h : positionByName? Column.name m.column columns = some i) :
    mark columns m = columns.modify i m.change := by
  unfold mark
  rw [h]

theorem Mark.change_name (m : Mark) (c : Column) : (m.change c).name = c.name := by
  cases m with
  | key _ => rfl
  | unique _ => rfl

theorem Mark.change_comm (m n : Mark) (c : Column) :
    m.change (n.change c) = n.change (m.change c) := by
  cases m with
  | key _ =>
    cases n with
    | key _ => rfl
    | unique _ => rfl
  | unique _ =>
    cases n with
    | key _ => rfl
    | unique _ => rfl

/-- A mark leaves all names where they are. -/
theorem position_mark (columns : List Column) (m : Mark) (name : String) :
    positionByName? Column.name name (mark columns m) =
      positionByName? Column.name name columns := by
  rw [positionByName?_map, positionByName?_map Column.name name columns]
  unfold mark
  rcases positionByName? Column.name m.column columns with _ | i
  · rfl
  · dsimp only
    rw [map_modify_of_eq (fun c => m.change_name c)]

/-- Marks commute. -/
theorem mark_comm (columns : List Column) (m n : Mark) :
    mark (mark columns m) n = mark (mark columns n) m := by
  have hm := position_mark columns n m.column
  have hn := position_mark columns m n.column
  rcases hpm : positionByName? Column.name m.column columns with _ | i
  · rw [mark_of_none hpm, mark_of_none (hm.trans hpm)]
  · rcases hpn : positionByName? Column.name n.column columns with _ | j
    · rw [mark_of_none hpn, mark_of_none (hn.trans hpn)]
    · rw [mark_of_some (hn.trans hpn), mark_of_some hpm, mark_of_some (hm.trans hpm),
        mark_of_some hpn]
      by_cases hij : i = j
      · rw [hij, List.modify_modify_eq, List.modify_modify_eq]
        congr 1
        exact funext fun c => m.change_comm n c |>.symm
      · exact List.modify_modify_ne _ _ _ hij

theorem modifyColumn_columns (t : Table) (m : Mark) :
    (t.modifyColumn m.column m.change).columns = mark t.columns m := by
  unfold Table.modifyColumn mark Table.position?
  rcases positionByName? Column.name m.column t.columns with _ | i
  · rfl
  · rfl

theorem withIndex_columns (t : Table) (index : Index) :
    (t.withIndex index).columns = t.columns := by
  unfold Table.withIndex
  split
  · rfl
  · split
    · rfl
    · rfl

theorem foldl_modifyColumn_key (names : List String) (t : Table) :
    (names.foldl (fun t c => t.modifyColumn c Builder.keyColumn) t).columns =
      (names.map Mark.key).foldl mark t.columns := by
  induction names generalizing t with
  | nil => rfl
  | cons c cs ih =>
    rw [List.foldl_cons, ih, List.map_cons, List.foldl_cons, ← modifyColumn_columns t (.key c)]
    rfl

/-- On the columns a fact does no more than to put its marks. -/
theorem withFact_columns (t : Table) (fact : Fact) :
    (t.withFact fact).columns = fact.marks.foldl mark t.columns := by
  cases fact with
  | primaryKey name columns => exact foldl_modifyColumn_key columns t
  | unique name columns =>
    rcases columns with _ | ⟨c, _ | ⟨c', cs⟩⟩
    · exact withIndex_columns t _
    · exact modifyColumn_columns t (.unique c)
    · exact withIndex_columns t _
  | index name columns unique method => exact withIndex_columns t _
  | foreignKey name columns target targetColumns onUpdate onDelete => rfl

theorem foldl_withFact_columns (facts : List Fact) (t : Table) :
    (facts.foldl Table.withFact t).columns = (facts.flatMap Fact.marks).foldl mark t.columns := by
  induction facts generalizing t with
  | nil => rfl
  | cons fact facts ih =>
    rw [List.foldl_cons, ih, withFact_columns, List.flatMap_cons, List.foldl_append]

theorem foldl_withFact_columns_perm {facts facts' : List Fact} (h : facts.Perm facts')
    (t u : Table) (hc : t.columns = u.columns) :
    (facts.foldl Table.withFact t).columns = (facts'.foldl Table.withFact u).columns := by
  rw [foldl_withFact_columns, foldl_withFact_columns, hc]
  exact (h.flatMap_right Fact.marks).foldl_eq' (fun m _ n _ columns => mark_comm columns m n) _

theorem foldl_withFact_head (facts : List Fact) (t : Table) :
    (facts.foldl Table.withFact t).head = t.head := by
  induction facts generalizing t with
  | nil => rfl
  | cons fact facts ih => rw [List.foldl_cons, ih, withFact_head]

/-! ## The index of the primary key -/

/-- The index of the primary key after a fact: only another primary key takes its place. -/
def keyIndexAfter (old : Option Index) : Fact → Option Index
  | .primaryKey name columns => Builder.primaryKeyIndex? name columns
  | _ => old

def Fact.isPrimaryKey : Fact → Bool
  | .primaryKey .. => true
  | _ => false

theorem keyIndexAfter_of_not {fact : Fact} (h : fact.isPrimaryKey = false) (old : Option Index) :
    keyIndexAfter old fact = old := by
  cases fact with
  | primaryKey name columns => cases h
  | unique name columns => rfl
  | index name columns unique method => rfl
  | foreignKey name columns target targetColumns onUpdate onDelete => rfl

/-- An index that is no primary key does not change which one is. -/
theorem withIndex_keyIndex (t : Table) {index : Index} (h : index.isPrimaryKey = false) :
    (t.withIndex index).indexes.find? (·.isPrimaryKey) =
      t.indexes.find? (·.isPrimaryKey) := by
  unfold Table.withIndex
  split
  · rfl
  · split
    · rfl
    · simp [List.find?_append, h]

theorem withFact_keyIndex (t : Table) (fact : Fact) :
    (t.withFact fact).indexes.find? (·.isPrimaryKey) =
      keyIndexAfter (t.indexes.find? (·.isPrimaryKey)) fact := by
  cases fact with
  | primaryKey name columns =>
    have hold : (t.indexes.filter (!·.isPrimaryKey)).find? (·.isPrimaryKey) = none := by
      simp [List.find?_eq_none]
    change (t.indexes.filter (!·.isPrimaryKey) ++
      (Builder.primaryKeyIndex? name columns).toList).find? (·.isPrimaryKey) = _
    rw [List.find?_append, hold, Option.none_or]
    unfold keyIndexAfter Builder.primaryKeyIndex?
    dsimp only
    split
    · rfl
    · rfl
  | unique name columns =>
    rcases columns with _ | ⟨c, _ | ⟨c', cs⟩⟩
    · exact withIndex_keyIndex t rfl
    · exact congrArg _ (Table.modifyColumn_indexes t c Table.uniqueColumn)
    · exact withIndex_keyIndex t rfl
  | index name columns unique method => exact withIndex_keyIndex t rfl
  | foreignKey name columns target targetColumns onUpdate onDelete => rfl

theorem foldl_withFact_keyIndex (facts : List Fact) (t : Table) :
    (facts.foldl Table.withFact t).indexes.find? (·.isPrimaryKey) =
      facts.foldl keyIndexAfter (t.indexes.find? (·.isPrimaryKey)) := by
  induction facts generalizing t with
  | nil => rfl
  | cons fact facts ih => rw [List.foldl_cons, ih, withFact_keyIndex, List.foldl_cons]

/-- With one primary key at most, it does not matter when it comes. -/
theorem foldl_keyIndexAfter_perm {facts facts' : List Fact} (h : facts.Perm facts')
    (hone : ∀ f ∈ facts, ∀ g ∈ facts, f.isPrimaryKey = true → g.isPrimaryKey = true → f = g)
    (old : Option Index) : facts.foldl keyIndexAfter old = facts'.foldl keyIndexAfter old := by
  refine h.foldl_eq' (fun f hf g hg old => ?_) old
  rcases hkf : f.isPrimaryKey with _ | _
  · rw [keyIndexAfter_of_not hkf, keyIndexAfter_of_not hkf]
  · rcases hkg : g.isPrimaryKey with _ | _
    · rw [keyIndexAfter_of_not hkg, keyIndexAfter_of_not hkg]
    · rw [hone f hf g hg hkf hkg]

end SchemaChart.Schema
