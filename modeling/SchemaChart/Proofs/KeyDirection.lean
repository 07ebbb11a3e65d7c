-- Where the foreign keys of a schema stand after it was laid out and its keys are written again.
-- A key comes back to the column that held it, but for a unique column that refers to one which
-- is not unique: there the two sides change places.
import Mathlib.Data.List.Forall2
import Mathlib.Tactic.Choose
import SchemaChart.Export.ForeignKey
import SchemaChart.Proofs.Conversion

namespace SchemaChart.Import

open Diagram (Cardinality End Field Relationship)
open Export (ForeignKey foreignKey?)

/-! ## The ends of a foreign key -/

/-- One end of a foreign key: a table at its position among those shown, and a column at its
position in the table. -/
structure KeyEnd where
  table : Schema.Table
  position : Nat
  column : Schema.Column
  columnAt : Nat
deriving DecidableEq

/-- Is the column of an end marked as one where no value occurs twice. -/
def KeyEnd.isKey (e : KeyEnd) : Bool := e.column.primaryKey || e.column.unique

/-- The table that an end of a foreign key means, with its position: the last one of the
identifier, else the first of the name in the schema, else the first of the name. -/
def endTable? (shown : List Schema.Table) (source : Dialect) (id name : String)
    (schema : Option String) : Option (Schema.Table × Nat) :=
  (shown.zipIdx.reverse.find? (·.1.id == id)).or <|
  (shown.zipIdx.find? (fun u => u.1.name == name &&
    (u.1.schema <|> source.defaultSchema?) == (schema <|> source.defaultSchema?))).or <|
  shown.zipIdx.find? (·.1.name == name)

/-- The end at a column of a table. -/
def endAt? (u : Schema.Table × Nat) (column : String) : Option KeyEnd := do
  let k ← u.1.position? column
  let c ← u.1.columns[k]?
  return ⟨u.1, u.2, c, k⟩

/-- The end that holds a foreign key. -/
def holdingEnd? (shown : List Schema.Table) (source : Dialect) (k : Schema.ForeignKey) :
    Option KeyEnd :=
  (endTable? shown source k.sourceTableId k.sourceTable k.sourceSchema).bind
    (endAt? · k.sourceColumn)

/-- The end that a foreign key refers to. -/
def targetEnd? (shown : List Schema.Table) (source : Dialect) (k : Schema.ForeignKey) :
    Option KeyEnd :=
  (endTable? shown source k.targetTableId k.targetTable k.targetSchema).bind
    (endAt? · k.targetColumn)

/-- Does a foreign key become a relationship: both its ends are there. -/
def convertible (shown : List Schema.Table) (source : Dialect) (k : Schema.ForeignKey) : Bool :=
  (holdingEnd? shown source k).isSome && (targetEnd? shown source k).isSome

/-- Is a field of a table in a diagram the one that an end means. -/
structure KeyEnd.At (d : Diagram) (source : Dialect) (e : KeyEnd) (t : Diagram.Table)
    (f : Field) : Prop where
  table : d.tables[e.position]? = some t
  field : t.fields[e.columnAt]? = some f
  tableName : t.name = e.table.name
  schema : t.schema = (e.table.schema <|> source.defaultSchema?)
  columnName : f.name = e.column.name

theorem KeyEnd.At.field_unique {d : Diagram} {source : Dialect} {e : KeyEnd}
    {t u : Diagram.Table} {f g : Field} (h : e.At d source t f) (h' : e.At d source u g) :
    f = g := by
  obtain rfl : t = u := Option.some.inj (h.table.symm.trans h'.table)
  exact Option.some.inj (h.field.symm.trans h'.field)

/-- Is a foreign key held by one end and does it refer to another. -/
structure Stands (d : Diagram) (source : Dialect) (k : ForeignKey) (a b : KeyEnd) : Prop where
  holding : a.At d source k.holder k.holding
  target : b.At d source k.referenced k.target

/-! ## The tables of a diagram -/

/-- A table of the schema as it stands in the diagram, the indexes at each position given. -/
def shownTable (s : Schema) (source : Dialect) (o : Options) (indexes : Nat → List Diagram.Index)
    (u : Schema.Table × Nat) : Diagram.Table :=
  placedTable s source o u.2 u.1 (indexes u.2)

theorem tablesFrom_eq_map {s : Schema} {source : Dialect} {o : Options} {ts : List Schema.Table}
    {us : List Diagram.Table} (h : tablesFrom s source o 0 ts = .ok us) :
    ∃ indexes, us = ts.zipIdx.map (shownTable s source o indexes) := by
  choose indexes hget using tablesFrom_getElem? h
  refine ⟨indexes, List.ext_getElem? fun k => ?_⟩
  rw [hget, List.getElem?_map, List.getElem?_zipIdx, Option.map_map]
  simp only [Nat.zero_add]
  rfl

theorem placedTables_map (s : Schema) (source : Dialect) (o : Options)
    (indexes : Nat → List Diagram.Index) :
    placedTables s o ((included s o).zipIdx.map (shownTable s source o indexes)) =
      (included s o).zipIdx.map (fun u => (u.1.id, shownTable s source o indexes u)) := by
  have hids : (included s o).map (·.id) = (included s o).zipIdx.map (·.1.id) := by
    conv_lhs => rw [← List.zipIdx_map_fst 0 (included s o)]
    rw [List.map_map]
    rfl
  unfold placedTables
  rw [hids, List.zip_map']

theorem lookup_map_pair (l : List α) (f : α → String) (g : α → β) (id : String) :
    (l.map (fun a => (f a, g a))).lookup id = (l.find? (f · == id)).map g := by
  induction l with
  | nil => rfl
  | cons a l ih =>
    rw [List.map_cons, List.lookup_cons, List.find?_cons, ih, BEq.comm]
    rcases f a == id with _ | _
    · rfl
    · rfl

/-- What is found for an end, without what is said about it. -/
theorem findTable_fst (placed : Placed) (source : Dialect) (id name : String)
    (schema : Option String) :
    (findTable placed source id name schema).1 =
      (placed.reverse.lookup id).or
        (((placed.map (·.2)).find? (fun t => t.name == name &&
          t.schema == (schema <|> source.defaultSchema?))).or
        ((placed.map (·.2)).find? (·.name == name))) := by
  unfold findTable
  rcases placed.reverse.lookup id with _ | t
  · dsimp only
    split
    · rename_i h
      rw [h]
      rfl
    · rename_i h
      rw [h]
      split
      · rename_i h'
        rw [h']
        rfl
      · rename_i h'
        rw [h']
        rfl
  · rfl

/-- The table found for an end is the one that the end means. -/
theorem findTable_shown (s : Schema) (source : Dialect) (o : Options)
    (indexes : Nat → List Diagram.Index) (shown : List Schema.Table) (id name : String)
    (schema : Option String) :
    (findTable (shown.zipIdx.map (fun u => (u.1.id, shownTable s source o indexes u))) source
      id name schema).1 =
      (endTable? shown source id name schema).map (shownTable s source o indexes) := by
  have htables : (shown.zipIdx.map (fun u => (u.1.id, shownTable s source o indexes u))).map
      (·.2) = shown.zipIdx.map (shownTable s source o indexes) := by
    rw [List.map_map]
    rfl
  rw [findTable_fst, htables, ← List.map_reverse, lookup_map_pair, List.find?_map, List.find?_map,
    ← Option.map_or, ← Option.map_or]
  rfl

/-! ## The fields at the ends -/

section

variable (s : Schema) (source : Dialect) (o : Options) (indexes : Nat → List Diagram.Index)

/-- The table of an end in the diagram. -/
def KeyEnd.tableIn (e : KeyEnd) : Diagram.Table :=
  shownTable s source o indexes (e.table, e.position)

/-- The field of an end in the diagram. -/
def KeyEnd.fieldIn (e : KeyEnd) : Field :=
  field e.table s.types ("t" ++ toString e.position ++ "f" ++ toString e.columnAt) e.column

theorem KeyEnd.fieldIn_isKey (e : KeyEnd) : (e.fieldIn s).isKey = e.isKey := rfl

/-- A field found by name is the one of the end at this name. -/
theorem fieldByName?_shownTable (u : Schema.Table × Nat) (column : String) :
    (shownTable s source o indexes u).fieldByName? column =
      (endAt? u column).map (KeyEnd.fieldIn s) := by
  have hfields : (shownTable s source o indexes u).fields = fieldsOf s ("t" ++ toString u.2) u.1 :=
    rfl
  unfold Diagram.Table.fieldByName? endAt?
  rw [hfields, fieldsOf_position]
  rcases u.1.position? column with _ | k
  · rfl
  · simp only [Option.bind_some, fieldsOf_getElem?, Option.bind_eq_bind]
    rcases u.1.columns[k]? with _ | c
    · rfl
    · rfl

/-- An end stands where it says. -/
structure KeyEnd.In (shown : List Schema.Table) (e : KeyEnd) : Prop where
  table : shown[e.position]? = some e.table
  column : e.table.columns[e.columnAt]? = some e.column

theorem endTable?_mem {shown : List Schema.Table} {id name : String} {schema : Option String}
    {u : Schema.Table × Nat} (h : endTable? shown source id name schema = some u) :
    shown[u.2]? = some u.1 := by
  have hmem : u ∈ shown.zipIdx := by
    unfold endTable? at h
    rcases Option.or_eq_some_iff.mp h with h | ⟨_, h⟩
    · exact List.mem_reverse.mp (List.mem_of_find?_eq_some h)
    · rcases Option.or_eq_some_iff.mp h with h | ⟨_, h⟩
      · exact List.mem_of_find?_eq_some h
      · exact List.mem_of_find?_eq_some h
  exact List.mem_zipIdx_iff_getElem?.mp hmem

theorem endAt?_eq_some {u : Schema.Table × Nat} {column : String} {e : KeyEnd}
    (h : endAt? u column = some e) :
    e.table = u.1 ∧ e.position = u.2 ∧ u.1.columns[e.columnAt]? = some e.column := by
  unfold endAt? at h
  simp only [Option.bind_eq_bind, Option.bind_eq_some_iff] at h
  obtain ⟨k, _, c, hc, he⟩ := h
  cases he
  exact ⟨rfl, rfl, hc⟩

theorem in_of_bind {shown : List Schema.Table} {id name column : String} {schema : Option String}
    {e : KeyEnd} (h : (endTable? shown source id name schema).bind (endAt? · column) = some e) :
    e.In shown := by
  obtain ⟨u, hu, he⟩ := Option.bind_eq_some_iff.mp h
  obtain ⟨ht, hn, hc⟩ := endAt?_eq_some he
  exact ⟨by rw [ht, hn]; exact endTable?_mem source hu, by rw [ht]; exact hc⟩

/-- The relationship of a foreign key runs between its two ends, if they are there. -/
theorem relationship_fst (shown : List Schema.Table) (k : Schema.ForeignKey) :
    (relationship (shown.zipIdx.map (fun u => (u.1.id, shownTable s source o indexes u))) source
      k).1 =
      (holdingEnd? shown source k).bind (fun a => (targetEnd? shown source k).map (fun b =>
        orient k.name (a.tableIn s source o indexes) (a.fieldIn s)
          (b.tableIn s source o indexes) (b.fieldIn s))) := by
  have hsource := findTable_shown s source o indexes shown k.sourceTableId k.sourceTable
    k.sourceSchema
  have htarget := findTable_shown s source o indexes shown k.targetTableId k.targetTable
    k.targetSchema
  unfold relationship holdingEnd? targetEnd?
  generalize findTable _ source k.sourceTableId k.sourceTable k.sourceSchema = x at hsource
  generalize findTable _ source k.targetTableId k.targetTable k.targetSchema = y at htarget
  obtain ⟨x, said⟩ := x
  obtain ⟨y, saidToo⟩ := y
  subst hsource htarget
  rcases endTable? shown source k.sourceTableId k.sourceTable k.sourceSchema with _ | u
  · rfl
  · rcases endTable? shown source k.targetTableId k.targetTable k.targetSchema with _ | v
    · simp only [Option.map_some, Option.map_none, Option.bind_none, Option.bind_fun_none]
    · simp only [Option.map_some, Option.bind_some, fieldByName?_shownTable]
      rcases ha : endAt? u k.sourceColumn with _ | a
      · rfl
      · rcases hb : endAt? v k.targetColumn with _ | b
        · rfl
        · obtain ⟨hat, han, _⟩ := endAt?_eq_some ha
          obtain ⟨hbt, hbn, _⟩ := endAt?_eq_some hb
          simp only [Option.map_some, Option.bind_some, KeyEnd.tableIn, hat, han, hbt, hbn]

/-! ## Identifiers -/

variable {shown : List Schema.Table} {e : KeyEnd}

theorem KeyEnd.In.mem_tables (h : e.In shown) :
    e.tableIn s source o indexes ∈ shown.zipIdx.map (shownTable s source o indexes) :=
  List.mem_map_of_mem (List.mem_zipIdx_iff_getElem?.mpr h.table)

/-- A table of a diagram has an identifier of its own. -/
theorem KeyEnd.In.table_unique (h : e.In shown) :
    ∀ t ∈ shown.zipIdx.map (shownTable s source o indexes),
      (t.id == (e.tableIn s source o indexes).id) = true → t = e.tableIn s source o indexes := by
  intro t ht hid
  obtain ⟨u, hu, rfl⟩ := List.mem_map.mp ht
  have hpos : u.2 = e.position :=
    eq_of_numbered_eq (beq_iff_eq.mp hid)
  have htable : some u.1 = some e.table := by
    rw [← List.mem_zipIdx_iff_getElem?.mp hu, hpos, h.table]
  unfold KeyEnd.tableIn
  rw [← hpos, ← Option.some.inj htable]

theorem KeyEnd.In.fields_getElem? (h : e.In shown) :
    (e.tableIn s source o indexes).fields[e.columnAt]? = some (e.fieldIn s) := by
  change (fieldsOf s ("t" ++ toString e.position) e.table)[e.columnAt]? = _
  rw [fieldsOf_getElem?, h.column]
  rfl

theorem KeyEnd.In.mem_fields (h : e.In shown) :
    e.fieldIn s ∈ (e.tableIn s source o indexes).fields :=
  List.mem_of_getElem? (h.fields_getElem? s source o indexes)

/-- A field of a table has an identifier of its own. -/
theorem KeyEnd.In.field_unique (h : e.In shown) :
    ∀ f ∈ (e.tableIn s source o indexes).fields,
      (f.id == (e.fieldIn s).id) = true → f = e.fieldIn s := by
  intro f hf hid
  obtain ⟨k, hk⟩ := List.mem_iff_getElem?.mp hf
  change (fieldsOf s ("t" ++ toString e.position) e.table)[k]? = _ at hk
  rw [fieldsOf_getElem?] at hk
  obtain ⟨c, hc, rfl⟩ := Option.map_eq_some_iff.mp hk
  have hpos : k = e.columnAt :=
    eq_of_numbered_eq (beq_iff_eq.mp hid)
  subst hpos
  have hcol : c = e.column := Option.some.inj (hc.symm.trans h.column)
  unfold KeyEnd.fieldIn
  rw [hcol]

/-- The end as a relationship names it. -/
def KeyEnd.toEnd (e : KeyEnd) : End := ⟨(e.tableIn s source o indexes).id, (e.fieldIn s).id⟩

/-! ## Both directions -/

/-- The end that holds the key of a new relationship: the holding one, but for a unique column
that refers to one which is not unique. -/
theorem key?_orient (name : String) (holder : Diagram.Table) (holding : Field)
    (referenced : Diagram.Table) (target : Field) :
    (orient name holder holding referenced target).key? =
      match target.isKey, holding.isKey with
      | true, _ => some (⟨holder.id, holding.id⟩, ⟨referenced.id, target.id⟩)
      | false, true => some (⟨referenced.id, target.id⟩, ⟨holder.id, holding.id⟩)
      | false, false => none := by
  rcases ht : target.isKey with _ | _
  · rcases hh : holding.isKey with _ | _
    · simp [orient, cardinality, hh, ht, Relationship.key?]
    · simp [orient, cardinality, hh, ht, Relationship.key?, Relationship.source,
        Relationship.target]
  · rcases hh : holding.isKey with _ | _
    · simp [orient, cardinality, hh, ht, Relationship.key?, Relationship.source,
        Relationship.target]
    · simp [orient, cardinality, hh, ht, Relationship.key?, Relationship.source,
        Relationship.target]

/-! ## The finished diagram -/

/-- A table as it stands in the finished diagram. -/
def finishedTable (t : Diagram.Table) : Diagram.Table :=
  { t.pruned with indexes := numberIndexes t.id t.pruned.indexes }

theorem tables_finished (d : Diagram) :
    (numbered d.pruned).tables = d.tables.map finishedTable := by
  unfold numbered Diagram.pruned
  rw [List.map_map]
  rfl

theorem tableById?_finished (d : Diagram) (id : String) :
    (numbered d.pruned).tableById? id = (d.tableById? id).map finishedTable := by
  unfold Diagram.tableById?
  rw [tables_finished, List.find?_map]
  rfl

variable {d : Diagram}

theorem KeyEnd.In.hasField (h : e.In shown)
    (hd : d.tables = shown.zipIdx.map (shownTable s source o indexes)) :
    d.hasField (e.tableIn s source o indexes).id (e.fieldIn s).id = true := by
  have hfind : d.tables.reverse.find? (·.id == (e.tableIn s source o indexes).id) =
      some (e.tableIn s source o indexes) := by
    rw [hd]
    refine find?_eq_of_unique (List.mem_reverse.mpr (h.mem_tables s source o indexes))
      (beq_self_eq_true _) fun t ht => ?_
    exact h.table_unique s source o indexes t (List.mem_reverse.mp ht)
  unfold Diagram.hasField
  rw [hfind]
  exact List.any_eq_true.mpr ⟨_, h.mem_fields s source o indexes, beq_self_eq_true _⟩

theorem KeyEnd.In.tableById? (h : e.In shown)
    (hd : d.tables = shown.zipIdx.map (shownTable s source o indexes)) :
    d.tableById? (e.tableIn s source o indexes).id = some (e.tableIn s source o indexes) := by
  unfold Diagram.tableById?
  rw [hd]
  exact find?_eq_of_unique (h.mem_tables s source o indexes) (beq_self_eq_true _)
    (h.table_unique s source o indexes)

theorem KeyEnd.In.fieldById? (h : e.In shown) :
    (e.tableIn s source o indexes).fieldById? (e.fieldIn s).id = some (e.fieldIn s) :=
  find?_eq_of_unique (h.mem_fields s source o indexes) (beq_self_eq_true _)
    (h.field_unique s source o indexes)

/-- In the finished diagram an end is at its table and its field. -/
theorem KeyEnd.In.at_finished (h : e.In shown)
    (hd : d.tables = shown.zipIdx.map (shownTable s source o indexes)) :
    e.At (numbered d.pruned) source (finishedTable (e.tableIn s source o indexes))
      (e.fieldIn s) := by
  refine ⟨?_, h.fields_getElem? s source o indexes, rfl, rfl, rfl⟩
  rw [tables_finished, hd, List.getElem?_map, List.getElem?_map, List.getElem?_zipIdx, h.table]
  simp [KeyEnd.tableIn]

/-- A key from one end to another is found with the tables and the fields of both. -/
theorem foreignKey?_finished {a b : KeyEnd} (ha : a.In shown) (hb : b.In shown)
    (hd : d.tables = shown.zipIdx.map (shownTable s source o indexes)) {r : Relationship}
    (hr : r.key? = some (a.toEnd s source o indexes, b.toEnd s source o indexes)) :
    ∃ k, foreignKey? (numbered d.pruned) r = some k ∧ k.holding = a.fieldIn s ∧
      Stands (numbered d.pruned) source k a b := by
  let t := finishedTable (a.tableIn s source o indexes)
  let u := finishedTable (b.tableIn s source o indexes)
  have ht : t.fieldById? (a.fieldIn s).id = some (a.fieldIn s) := ha.fieldById? s source o indexes
  have hu : u.fieldById? (b.fieldIn s).id = some (b.fieldIn s) := hb.fieldById? s source o indexes
  have hkey : foreignKey? (numbered d.pruned) r =
      some ⟨if r.name.isEmpty then "fk_" ++ t.name ++ "_" ++ (a.fieldIn s).name else r.name,
        t, a.fieldIn s, u, b.fieldIn s⟩ := by
    unfold foreignKey?
    simp only [hr, KeyEnd.toEnd, tableById?_finished, ha.tableById? s source o indexes hd,
      hb.tableById? s source o indexes hd, Option.bind_eq_bind, Option.bind_some,
      Option.map_some]
    rw [ht, Option.bind_some, hu, Option.bind_some]
    rfl
  exact ⟨_, hkey, rfl, ha.at_finished s source o indexes hd, hb.at_finished s source o indexes hd⟩

/-- What becomes of a foreign key between two ends. It is not written if neither column is unique.
It comes back to its place unless only the holding column is unique, and then the ends change
places. -/
structure ComesBack (d : Diagram) (source : Dialect) (a b : KeyEnd) (r : Relationship) : Prop where
  lost : foreignKey? d r = none ↔ a.isKey = false ∧ b.isKey = false
  kept : ∀ k, foreignKey? d r = some k →
    (Stands d source k a b ↔ ¬ (a.isKey = true ∧ b.isKey = false))
  swapped : ∀ k, foreignKey? d r = some k → a.isKey = true → b.isKey = false →
    Stands d source k b a

theorem comesBack_orient {a b : KeyEnd} (ha : a.In shown) (hb : b.In shown)
    (hd : d.tables = shown.zipIdx.map (shownTable s source o indexes)) {r : Relationship}
    (name : String) (hr : r.key? = (orient name (a.tableIn s source o indexes) (a.fieldIn s)
      (b.tableIn s source o indexes) (b.fieldIn s)).key?) :
    ComesBack (numbered d.pruned) source a b r := by
  rw [key?_orient, KeyEnd.fieldIn_isKey, KeyEnd.fieldIn_isKey] at hr
  rcases hkb : b.isKey with _ | _
  · rcases hka : a.isKey with _ | _
    · rw [hkb, hka] at hr
      have hlost : foreignKey? (numbered d.pruned) r = none := by simp [foreignKey?, hr]
      exact ⟨by simp [hlost, hka, hkb], by simp [hlost], by simp [hlost]⟩
    · rw [hkb, hka] at hr
      obtain ⟨k, hk, hfield, hstands⟩ := foreignKey?_finished s source o indexes hb ha hd hr
      have hnot : ¬ Stands (numbered d.pruned) source k a b := by
        -- one field would be unique and not unique
        intro h
        have hsame := h.holding.field_unique (ha.at_finished s source o indexes hd)
        rw [hfield] at hsame
        have hkeys : b.isKey = a.isKey := congrArg Field.isKey hsame
        simp [hka, hkb] at hkeys
      refine ⟨by simp [hk, hka], ?_, ?_⟩
      · intro k' hk'
        cases hk.symm.trans hk'
        simp [hnot, hka, hkb]
      · intro k' hk' _ _
        cases hk.symm.trans hk'
        exact hstands
  · rw [hkb] at hr
    obtain ⟨k, hk, _, hstands⟩ := foreignKey?_finished s source o indexes ha hb hd hr
    refine ⟨by simp [hk, hkb], ?_, ?_⟩
    · intro k' hk'
      cases hk.symm.trans hk'
      simp [hstands, hkb]
    · intro k' _ _ h
      simp [hkb] at h

/-- Both ends of a new relationship exist. -/
theorem joins_orient {a b : KeyEnd} (ha : a.In shown) (hb : b.In shown)
    (hd : d.tables = shown.zipIdx.map (shownTable s source o indexes)) {r : Relationship}
    {name id : String} (hr : r = { orient name (a.tableIn s source o indexes) (a.fieldIn s)
      (b.tableIn s source o indexes) (b.fieldIn s) with id := id }) :
    d.joins r = true := by
  have hfa := ha.hasField s source o indexes hd
  have hfb := hb.hasField s source o indexes hd
  subst hr
  unfold Diagram.joins orient
  split
  · simp [hfa, hfb]
  · simp [hfa, hfb]

end

/-! ## Keys and relationships in pairs -/

theorem forall₂_filterMap {R : α → β → Prop} {f : α → Option β} {p : α → Bool} (l : List α)
    (hsome : ∀ a, p a = true → ∃ b, f a = some b ∧ R a b) (hnone : ∀ a, p a = false → f a = none) :
    List.Forall₂ R (l.filter p) (l.filterMap f) := by
  induction l with
  | nil => exact .nil
  | cons a l ih =>
    rcases hp : p a with _ | _
    · rw [List.filter_cons_of_neg (by simp [hp]), List.filterMap_cons_none (hnone a hp)]
      exact ih
    · obtain ⟨b, hb, hr⟩ := hsome a hp
      rw [List.filter_cons_of_pos hp, List.filterMap_cons_some hb]
      exact .cons hr ih

theorem forall₂_mapIdx {R : α → β → Prop} {Q : α → γ → Prop} {f : Nat → β → γ} {xs : List α}
    {ys : List β} (h : List.Forall₂ R xs ys) (hf : ∀ n a b, R a b → Q a (f n b)) :
    List.Forall₂ Q xs (ys.mapIdx f) := by
  induction h generalizing f with
  | nil => exact .nil
  | cons hr _ ih =>
    rw [List.mapIdx_cons]
    exact .cons (hf 0 _ _ hr) (ih fun n => hf (n + 1))

theorem forall₂_filter_right {R : α → β → Prop} {q : β → Bool} {xs : List α} {ys : List β}
    (h : List.Forall₂ R xs ys) (hq : ∀ a b, R a b → q b = true) :
    List.Forall₂ R xs (ys.filter q) := by
  induction h with
  | nil => exact .nil
  | cons hr _ ih =>
    rw [List.filter_cons_of_pos (hq _ _ hr)]
    exact .cons hr ih

section

variable {s : Schema} {source target : Dialect} {o : Options} {indexes : Nat → List Diagram.Index}

/-- A relationship that was made from a foreign key. -/
def MadeFrom (s : Schema) (source : Dialect) (o : Options) (indexes : Nat → List Diagram.Index)
    (k : Schema.ForeignKey) (r : Relationship) : Prop :=
  ∃ a b, holdingEnd? (included s o) source k = some a ∧
    targetEnd? (included s o) source k = some b ∧
    ∃ id, r = { orient k.name (a.tableIn s source o indexes) (a.fieldIn s)
      (b.tableIn s source o indexes) (b.fieldIn s) with id := id }

/-- The relationships of a diagram are made from the foreign keys whose ends are shown. -/
theorem forall₂_laidOut (s : Schema) (source target : Dialect) (o : Options)
    (indexes : Nat → List Diagram.Index) :
    List.Forall₂ (MadeFrom s source o indexes)
      (s.relationships.filter (convertible (included s o) source))
      (laidOut s source target o
        ((included s o).zipIdx.map (shownTable s source o indexes))).relationships := by
  unfold laidOut
  dsimp only
  rw [List.filterMap_map, placedTables_map]
  refine forall₂_mapIdx (forall₂_filterMap (R := fun k r => ∃ a b,
    holdingEnd? (included s o) source k = some a ∧ targetEnd? (included s o) source k = some b ∧
    r = orient k.name (a.tableIn s source o indexes) (a.fieldIn s)
      (b.tableIn s source o indexes) (b.fieldIn s)) _ ?_ ?_) ?_
  · intro k hk
    obtain ⟨ha, hb⟩ := Bool.and_eq_true_iff.mp hk
    obtain ⟨a, ha⟩ := Option.isSome_iff_exists.mp ha
    obtain ⟨b, hb⟩ := Option.isSome_iff_exists.mp hb
    refine ⟨_, ?_, a, b, ha, hb, rfl⟩
    rw [Function.comp_apply, relationship_fst, ha, hb]
    rfl
  · intro k hk
    rw [Function.comp_apply, relationship_fst]
    rcases Bool.and_eq_false_iff.mp hk with h | h
    · rw [Option.isSome_eq_false_iff, Option.isNone_iff_eq_none] at h
      rw [h]
      rfl
    · rw [Option.isSome_eq_false_iff, Option.isNone_iff_eq_none] at h
      simp only [h, Option.map_none, Option.bind_fun_none]
  · rintro n k r ⟨a, b, ha, hb, rfl⟩
    exact ⟨a, b, ha, hb, _, rfl⟩

/-- A relationship that was made from a foreign key joins two fields. -/
theorem MadeFrom.joins {d : Diagram} {k : Schema.ForeignKey} {r : Relationship}
    (h : MadeFrom s source o indexes k r)
    (hd : d.tables = (included s o).zipIdx.map (shownTable s source o indexes)) :
    d.joins r = true := by
  obtain ⟨a, b, ha, hb, id, hr⟩ := h
  exact joins_orient s source o indexes (in_of_bind source ha) (in_of_bind source hb) hd hr

/-- The check for what points nowhere drops no relationship, as both ends of each are there. -/
theorem forall₂_relationships {d : Diagram}
    (hd : d = laidOut s source target o
      ((included s o).zipIdx.map (shownTable s source o indexes))) :
    List.Forall₂ (MadeFrom s source o indexes)
      (s.relationships.filter (convertible (included s o) source)) d.pruned.relationships := by
  refine forall₂_filter_right ?_ fun k r hr => hr.joins (by rw [hd]; rfl)
  rw [hd]
  exact forall₂_laidOut s source target o indexes

end

/-- The foreign keys whose ends are shown become the relationships of the diagram, in their order.
Of each the exporter finds the key again where it was, if the column it refers to is unique, and
the wrong way round, if only the column that holds it is. -/
theorem imported_keys_come_back_unless_only_the_holder_is_unique {s : Schema}
    {source target : Dialect} {o : Options} {d : Diagram} {said : List String}
    (h : convert s source target o = .ok (d, said)) :
    List.Forall₂
      (fun k r => r.name = k.name ∧ ∃ a b, holdingEnd? (included s o) source k = some a ∧
        targetEnd? (included s o) source k = some b ∧ ComesBack d source a b r)
      (s.relationships.filter (convertible (included s o) source)) d.relationships := by
  obtain ⟨tables, htables, hd⟩ := convert_eq_ok h
  obtain ⟨indexes, rfl⟩ := tablesFrom_eq_map htables
  dsimp only at hd
  subst hd
  refine (forall₂_relationships rfl).imp ?_
  rintro k r ⟨a, b, ha, hb, id, rfl⟩
  refine ⟨?_, a, b, ha, hb, ?_⟩
  · unfold orient
    split
    · rfl
    · rfl
  · exact comesBack_orient s source o indexes (in_of_bind source ha) (in_of_bind source hb) rfl
      k.name rfl

/-- The key of a unique column of `profiles` that refers to a column of `users` which is not marked
as unique. -/
def profileKey : Schema.ForeignKey :=
  { name := "fk_user"
    sourceTable := "profiles"
    sourceSchema := none
    sourceTableId := "t1"
    sourceColumn := "user_id"
    targetTable := "users"
    targetSchema := none
    targetTableId := "t0"
    targetColumn := "id"
    updateAction := none
    deleteAction := none }

def profiles : Schema :=
  { tables :=
      [{ id := "t0", name := "users", schema := none
         columns := [{ name := "id", type := "INT" }] },
       { id := "t1", name := "profiles", schema := none
         columns := [{ name := "user_id", type := "INT", unique := true }] }]
    relationships := [profileKey] }

/-- The key that `profiles` held is written for `users`. -/
theorem the_key_of_profiles_changes_sides :
    ∃ d said r k, convert profiles .postgresql .generic {} = .ok (d, said) ∧
      d.relationships = [r] ∧ foreignKey? d r = some k ∧
      k.holder.name = "users" ∧ k.holding.name = "id" ∧
      k.referenced.name = "profiles" ∧ k.target.name = "user_id" := by
  have hfilter : profiles.relationships.filter
      (convertible (included profiles {}) .postgresql) = [profileKey] := by decide +kernel
  have hholding : (holdingEnd? (included profiles {}) .postgresql profileKey).map
      (fun e => (e.table.name, e.column.name, e.isKey)) = some ("profiles", "user_id", true) := by
    decide +kernel
  have htarget : (targetEnd? (included profiles {}) .postgresql profileKey).map
      (fun e => (e.table.name, e.column.name, e.isKey)) = some ("users", "id", false) := by
    decide +kernel
  have hok : (convert profiles .postgresql .generic {}).toOption.isSome = true := by
    decide +kernel
  obtain ⟨⟨d, said⟩, hd⟩ := Option.isSome_iff_exists.mp hok
  have hd := eq_ok_of_toOption hd
  have hpairs := imported_keys_come_back_unless_only_the_holder_is_unique hd
  rw [hfilter] at hpairs
  obtain ⟨r, rs, ⟨_, a, b, ha, hb, hback⟩, hrs, hrel⟩ := List.forall₂_cons_left_iff.mp hpairs
  rw [List.forall₂_nil_left_iff.mp hrs] at hrel
  rw [ha, Option.map_some, Option.some.injEq, Prod.mk.injEq, Prod.mk.injEq] at hholding
  rw [hb, Option.map_some, Option.some.injEq, Prod.mk.injEq, Prod.mk.injEq] at htarget
  obtain ⟨hat, hac, hak⟩ := hholding
  obtain ⟨hbt, hbc, hbk⟩ := htarget
  rcases hk : foreignKey? d r with _ | k
  · exact absurd (hback.lost.mp hk).1 (by simp [hak])
  · have hstands := hback.swapped k hk hak hbk
    exact ⟨d, said, r, k, hd, hrel, hk, hstands.holding.tableName.trans hbt,
      hstands.holding.columnName.trans hbc, hstands.target.tableName.trans hat,
      hstands.target.columnName.trans hac⟩

end SchemaChart.Import
