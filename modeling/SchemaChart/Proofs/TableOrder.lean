-- Scripts for SQLite, where foreign keys stand inside the tables that hold them: each table is
-- created once with all of its keys, and behind the tables that it refers to as far as there is
-- such an order.
import Mathlib.Data.List.Permutation
import SchemaChart.Export.Script
import SchemaChart.Proofs.Brackets
import SchemaChart.Proofs.Dependency

namespace SchemaChart.Export

open Text
open Diagram (DependsOn DistinctIds NoCircle Table)
open Relation (TransGen)

/-! ## Tables with their keys -/

/-- A table that a script creates, and the foreign keys that stand inside it. -/
structure Creation where
  table : Table
  keys : List ForeignKey

/-- The section of a script that creates a table: what is remarked, the statement with the foreign
keys behind the columns, and the indexes. -/
def Creation.text (s : Style) (allowInline : Bool) (remarks : Table → List String) (c : Creation) :
    String :=
  let lines := s.tableLines c.table allowInline ++ c.keys.map (fun k => k.clause s.quoting false)
  joinLines (remarks c.table ++ [s.createTable c.table lines ++ ";"] ++ s.tableIndexes c.table)

/-- A script of these sections. -/
def scriptOf : List String → String
  | [] => ""
  | texts => "\n\n".intercalate texts ++ "\n"

/-- The script that creates tables in the idiom of SQLite. -/
def idiomScript (d : Diagram) (cs : List Creation) : String :=
  scriptOf (cs.map (Creation.text (Style.ofDialect .sqlite d) true commentRemarks))

/-- The script that creates tables for SQLite in the forms that most dialects share. -/
def sharedScript (always : Bool) (d : Diagram) (cs : List Creation) : String :=
  scriptOf (cs.map (Creation.text (Style.portable ⟨.sqlite, always⟩ d) false fun _ => []))

/-- Are the tables of a diagram created once each, its views not at all, and each foreign key once
inside the table that holds it. -/
structure Creates (d : Diagram) (cs : List Creation) : Prop where
  once : (cs.map (·.table)).Nodup
  tables : ∀ t, t ∈ cs.map (·.table) ↔ t ∈ d.tables ∧ t.isView = false
  keys : (cs.flatMap (·.keys)).Perm (foreignKeys d)
  holders : ∀ c ∈ cs, ∀ k ∈ c.keys, k.holder = c.table

/-- Is no table created before one that it refers to. -/
def ReferredFirst (d : Diagram) (cs : List Creation) : Prop :=
  ∀ k ∈ foreignKeys d,
    (cs.map (·.table)).idxOf k.referenced ≤ (cs.map (·.table)).idxOf k.holder

/-- Does a foreign key of one table refer to another table. -/
def KeyRefers (d : Diagram) (holder referenced : Table) : Prop :=
  holder ≠ referenced ∧ ∃ k ∈ foreignKeys d, k.holder = holder ∧ k.referenced = referenced

/-! ## Foreign keys of a diagram -/

variable {d : Diagram}

theorem tableById?_eq_some {id : String} {t : Table} (h : d.tableById? id = some t) :
    t ∈ d.tables ∧ t.id = id :=
  ⟨List.mem_of_find?_eq_some h, by simpa using List.find?_some h⟩

theorem foreignKey?_ends {r : Diagram.Relationship} {k : ForeignKey}
    (h : foreignKey? d r = some k) :
    ∃ a b, r.key? = some (a, b) ∧ d.tableById? a.tableId = some k.holder ∧
      d.tableById? b.tableId = some k.referenced := by
  unfold foreignKey? at h
  obtain ⟨⟨a, b⟩, hkey, h⟩ := Option.bind_eq_some_iff.mp h
  obtain ⟨holder, hholder, h⟩ := Option.bind_eq_some_iff.mp h
  obtain ⟨referenced, hreferenced, h⟩ := Option.bind_eq_some_iff.mp h
  obtain ⟨_, -, h⟩ := Option.bind_eq_some_iff.mp h
  obtain ⟨_, -, h⟩ := Option.bind_eq_some_iff.mp h
  obtain rfl := Option.some.inj h
  exact ⟨a, b, hkey, hholder, hreferenced⟩

/-- A foreign key stands between two tables of the diagram that are no views, and the holder depends
on the other one, unless it refers to itself. -/
theorem foreignKeys_between (h : d.DistinctIds) {k : ForeignKey} (hk : k ∈ foreignKeys d) :
    (k.holder ∈ d.tables ∧ k.holder.isView = false) ∧
      (k.referenced ∈ d.tables ∧ k.referenced.isView = false) ∧
      (k.holder = k.referenced ∨ d.DependsOn k.holder k.referenced) := by
  unfold foreignKeys at hk
  rw [List.mem_mergeSort, List.mem_filter, List.mem_filterMap] at hk
  obtain ⟨⟨r, hr, hrk⟩, hviews⟩ := hk
  obtain ⟨a, b, hkey, ha, hb⟩ := foreignKey?_ends hrk
  obtain ⟨hholder, hha⟩ := tableById?_eq_some ha
  obtain ⟨hreferenced, hrb⟩ := tableById?_eq_some hb
  simp only [Bool.and_eq_true, Bool.not_eq_true'] at hviews
  refine ⟨⟨hholder, hviews.1⟩, ⟨hreferenced, hviews.2⟩, ?_⟩
  by_cases hid : k.holder.id = k.referenced.id
  · exact .inl (h.eq hholder hreferenced hid)
  · exact .inr ⟨hholder, hreferenced, hid, r, hr, a, b, hkey, hha.symm, hrb.symm⟩

/-! ## The tables in order -/

/-- The tables that a script for SQLite creates, in its order. -/
def creations (d : Diagram) : List Creation :=
  (d.dependencyOrder.filter (!·.isView)).map fun t =>
    ⟨t, (foreignKeys d).filter (·.holder.id == t.id)⟩

theorem creations_tables (d : Diagram) :
    (creations d).map (·.table) = d.dependencyOrder.filter (!·.isView) := by
  simp [creations, Function.comp_def]

/-- Items are sorted into groups, one for each identifier, without loss. -/
theorem flatMap_filter_perm {α β : Type*} [DecidableEq β] (key : α → β) {ids : List β}
    (hids : ids.Nodup) {ks : List α} (hks : ∀ k ∈ ks, key k ∈ ids) :
    (ids.flatMap fun i => ks.filter (key · == i)).Perm ks := by
  induction ids generalizing ks with
  | nil =>
    have hnil : ks = [] := List.eq_nil_iff_forall_not_mem.mpr fun k hk => by simpa using hks k hk
    simp [hnil]
  | cons i ids ih =>
    obtain ⟨hi, hids⟩ := List.nodup_cons.mp hids
    -- the other groups hold nothing of the first one
    have hothers : (ids.flatMap fun j => ks.filter (key · == j)) =
        ids.flatMap fun j => (ks.filter fun k => !(key k == i)).filter (key · == j) := by
      refine List.flatMap_congr fun j hj => ?_
      rw [List.filter_filter]
      refine List.filter_congr fun k _ => ?_
      by_cases hkj : key k = j
      · have hne : j ≠ i := fun he => hi (he ▸ hj)
        simp [hkj, hne]
      · simp [hkj]
    have hrest : ∀ k ∈ ks.filter fun k => !(key k == i), key k ∈ ids := by
      intro k hk
      obtain ⟨hk, hne⟩ := List.mem_filter.mp hk
      exact (List.mem_cons.mp (hks k hk)).resolve_left (by simpa using hne)
    rw [List.flatMap_cons, hothers]
    exact ((ih hids hrest).append_left _).trans (List.filter_append_perm _ ks)

theorem creates_creations (h : d.DistinctIds) : Creates d (creations d) := by
  have hperm := Diagram.dependencyOrder_perm h
  have hids : ((d.dependencyOrder.filter (!·.isView)).map (·.id)).Nodup :=
    ((hperm.map Table.id).nodup_iff.mpr h).sublist (List.filter_sublist.map _)
  have hmem : ∀ t, t ∈ d.dependencyOrder.filter (!·.isView) ↔ t ∈ d.tables ∧ t.isView = false := by
    intro t
    rw [List.mem_filter, hperm.mem_iff, Bool.not_eq_true']
  refine ⟨?_, ?_, ?_, ?_⟩
  · rw [creations_tables]
    exact hids.of_map
  · rw [creations_tables]
    exact hmem
  · have hgroups : (creations d).flatMap (·.keys) =
        ((d.dependencyOrder.filter (!·.isView)).map (·.id)).flatMap fun i =>
          (foreignKeys d).filter (·.holder.id == i) := by
      simp [creations, List.flatMap_map]
    rw [hgroups]
    refine flatMap_filter_perm (fun k : ForeignKey => k.holder.id) hids fun k hk => ?_
    exact List.mem_map_of_mem ((hmem _).mpr (foreignKeys_between h hk).1)
  · intro c hc k hk
    obtain ⟨t, ht, rfl⟩ := List.mem_map.mp hc
    obtain ⟨hk, hid⟩ := List.mem_filter.mp hk
    exact h.eq (foreignKeys_between h hk).1.1 ((hmem t).mp ht).1 (by simpa using hid)

theorem referredFirst_creations (h : d.DistinctIds) (hcircle : NoCircle d.DependsOn) :
    ReferredFirst d (creations d) := by
  intro k hk
  obtain ⟨⟨-, hholder⟩, ⟨-, hreferenced⟩, hsame | hdepends⟩ := foreignKeys_between h hk
  · exact Nat.le_of_eq (by rw [hsame])
  · have hsublist := (Diagram.dependencyOrder_sublist h hcircle hdepends).filter (!·.isView)
    rw [List.filter_cons_of_pos (by simp [hreferenced]),
      List.filter_cons_of_pos (by simp [hholder]), List.filter_nil, ← creations_tables] at hsublist
    exact Nat.le_of_lt (Diagram.Graph.idxOf_lt_of_sublist (creates_creations h).once hsublist)

/-! ## The text of a script -/

theorem trim_ne_nil {cs : List Char} {c : Char} (hc : isBlank c = false) (hmem : c ∈ cs) :
    trim cs ≠ [] := by
  intro hnil
  have hcount := count_trim hc cs
  rw [hnil, List.count_nil, eq_comm, List.count_eq_zero] at hcount
  exact hcount hmem

theorem mem_intercalate {α : Type*} {between x : List α} {c : α} {xs : List (List α)} (hx : x ∈ xs)
    (hc : c ∈ x) : c ∈ between.intercalate xs := by
  induction xs with
  | nil => cases hx
  | cons y xs ih =>
    cases xs with
    | nil =>
      obtain rfl := List.mem_singleton.mp hx
      rwa [List.intercalate_singleton]
    | cons z xs =>
      rw [List.intercalate_cons_cons]
      rcases List.mem_cons.mp hx with rfl | hx
      · exact List.mem_append_left _ (List.mem_append_left _ hc)
      · exact List.mem_append_right _ (ih hx)

/-- The section of a table is not blank. -/
theorem text_not_blank (s : Style) (allowInline : Bool) (remarks : Table → List String)
    (c : Creation) : trim (c.text s allowInline remarks).toList ≠ [] := by
  have hletter : 'C' ∈ (s.createTable c.table (s.tableLines c.table allowInline ++
      c.keys.map (fun k => k.clause s.quoting false)) ++ ";").toList := by
    unfold Style.createTable
    simp only [String.toList_append, List.mem_append, -String.reduceToList]
    exact .inl (.inl (.inl (.inl (.inl (by decide)))))
  have hline : 'C' ∈ (c.text s allowInline remarks).toList := by
    unfold Creation.text joinLines
    rw [String.toList_intercalate]
    exact mem_intercalate (List.mem_map_of_mem (by simp)) hletter
  exact trim_ne_nil rfl hline

theorem joinSections_eq {texts : List String} (h : ∀ t ∈ texts, trim t.toList ≠ []) :
    joinSections texts = scriptOf texts := by
  have hall : texts.filter (fun s => !(trim s.toList).isEmpty) = texts :=
    List.filter_eq_self.mpr fun t ht => by simpa using h t ht
  unfold joinSections
  rw [hall]
  cases texts with
  | nil => rfl
  | cons t ts => rfl

theorem joinSections_tablesWithKeys (s : Style) (d : Diagram) (allowInline : Bool)
    (remarks : Table → List String) :
    joinSections (tablesWithKeys s d allowInline remarks) =
      scriptOf ((creations d).map (Creation.text s allowInline remarks)) := by
  have hsections : tablesWithKeys s d allowInline remarks =
      (creations d).map (Creation.text s allowInline remarks) := by
    simp [tablesWithKeys, creations, Creation.text, Function.comp_def]
  rw [hsections]
  refine joinSections_eq fun t ht => ?_
  obtain ⟨c, -, rfl⟩ := List.mem_map.mp ht
  exact text_not_blank s allowInline remarks c

theorem creations_of_no_tables (h : d.tables = []) : creations d = [] := by
  have hids : d.DistinctIds := by
    unfold Diagram.DistinctIds
    simp [h]
  have horder : d.dependencyOrder = [] :=
    List.perm_nil.mp (h ▸ Diagram.dependencyOrder_perm hids)
  simp [creations, horder]

theorem native?_sqlite (d : Diagram) :
    native? .sqlite d .everything = some (idiomScript d (creations d)) := by
  unfold native? idiomScript
  dsimp only
  rw [joinSections_tablesWithKeys]
  split
  · rename_i hempty
    rw [creations_of_no_tables (List.isEmpty_iff.mp hempty)]
    rfl
  · rfl

/-- SQLite has no schemas, so that its scripts start with the first table. -/
theorem portable_sqlite (always : Bool) (d : Diagram) :
    portable ⟨.sqlite, always⟩ d .everything = sharedScript always d (creations d) := by
  have hschemas : ∀ names, schemaSection ⟨.sqlite, always⟩ names = "" := by
    intro names
    have hnone : (sorted names).filterMap (createSchema? ⟨.sqlite, always⟩) = [] :=
      List.filterMap_eq_nil_iff.mpr fun _ _ => rfl
    rw [schemaSection, hnone]
    rfl
  have hhead : ∀ texts, joinSections (["", ""] ++ texts) = joinSections texts := fun _ => rfl
  unfold portable sharedScript
  simp only [declaresTypes, Bool.false_eq_true, ↓reduceIte, hschemas]
  rw [hhead, joinSections_tablesWithKeys]
  split
  · rename_i hempty
    rw [creations_of_no_tables (List.isEmpty_iff.mp hempty)]
    rfl
  · rfl

/-! ## Orders, customers, and a view of the orders -/

/-- Two items that make up a list come in the order that their positions tell. -/
theorem eq_pair_of_idxOf_le {α : Type*} [DecidableEq α] {l : List α} {a b : α} (hl : l.Nodup)
    (hmem : ∀ x, x ∈ l ↔ x = a ∨ x = b) (hne : a ≠ b) (hle : l.idxOf a ≤ l.idxOf b) :
    l = [a, b] := by
  have hpair : [a, b].Nodup := by simpa using hne
  have hperm : l.Perm [a, b] :=
    (List.perm_ext_iff_of_nodup hl hpair).mpr fun x => by simpa using hmem x
  rcases List.perm_pair.mp hperm with rfl | rfl
  · rfl
  · rw [List.idxOf_cons_self, List.idxOf_cons_ne _ hne.symm] at hle
    omega

def orderKey : ForeignKey :=
  { name := "orders_customer"
    holder :=
      { id := "o", name := "orders", color := "", fields :=
          [{ id := "o1", name := "id", type := .named "integer" },
            { id := "o2", name := "customer_id", type := .named "integer" }] }
    holding := { id := "o2", name := "customer_id", type := .named "integer" }
    referenced :=
      { id := "c", name := "customers", color := "", fields :=
          [{ id := "c1", name := "id", type := .named "integer" }] }
    target := { id := "c1", name := "id", type := .named "integer" } }

/-- Orders are declared before the customers they refer to. -/
def sales : Diagram :=
  { id := "d"
    name := "sales"
    dialect := .sqlite
    tables := [orderKey.holder, orderKey.referenced]
    relationships :=
      [{ id := "r1", name := orderKey.name, sourceTableId := "o", sourceFieldId := "o2",
         targetTableId := "c", targetFieldId := "c1", sourceCardinality := .many,
         targetCardinality := .one }] }

/-- Beside orders and customers there is a view of the orders, and each of the two refers to the
other. -/
def salesWithTotals : Diagram :=
  { sales with
    tables := sales.tables ++
      [{ id := "v", name := "order_totals", color := "", isView := true, fields :=
          [{ id := "v1", name := "order_id", type := .named "integer" }] }]
    relationships := sales.relationships ++
      [{ id := "r2", name := "totals_order", sourceTableId := "v", sourceFieldId := "v1",
         targetTableId := "o", targetFieldId := "o1", sourceCardinality := .many,
         targetCardinality := .one },
        { id := "r3", name := "orders_total", sourceTableId := "o", sourceFieldId := "o1",
          targetTableId := "v", targetFieldId := "v1", sourceCardinality := .many,
          targetCardinality := .one }] }

/-- References that all lead from one table to another one lead in no circle. -/
theorem noCircle_of_ids {refers : Table → Table → Prop} {a b : String} (hne : a ≠ b)
    (h : ∀ t u, refers t u → t.id = a ∧ u.id = b) : NoCircle refers := by
  intro t ht
  have hchain : ∀ u, TransGen refers t u → t.id = a ∧ u.id = b := by
    intro u htu
    induction htu with
    | single htu => exact h _ _ htu
    | tail _ huv ih => exact ⟨ih.1, (h _ _ huv).2⟩
  obtain ⟨ha, hb⟩ := hchain t ht
  exact hne (ha.symm.trans hb)

/-- If the key of the orders is all there is, the customers can only come first without keys, and
the orders behind them with their key. -/
theorem creations_of_orderKey {d : Diagram} (hkeys : foreignKeys d = [orderKey])
    (htables : ∀ t, t ∈ d.tables ∧ t.isView = false ↔ t = orderKey.referenced ∨ t = orderKey.holder)
    {cs : List Creation} (h : Creates d cs) (hfirst : ReferredFirst d cs) :
    cs = [⟨orderKey.referenced, []⟩, ⟨orderKey.holder, [orderKey]⟩] := by
  have hne : orderKey.referenced ≠ orderKey.holder := by decide
  have horder : cs.map (·.table) = [orderKey.referenced, orderKey.holder] :=
    eq_pair_of_idxOf_le h.once (fun t => (h.tables t).trans (htables t)) hne
      (hfirst orderKey (hkeys ▸ List.mem_singleton_self orderKey))
  obtain ⟨x, rest, rfl, hx, hrest⟩ := List.map_eq_cons_iff.mp horder
  obtain ⟨y, rfl, hy⟩ := List.map_eq_singleton_iff.mp hrest
  have hall := h.keys
  rw [hkeys, List.perm_singleton, List.flatMap_cons, List.flatMap_singleton] at hall
  have hnone : x.keys = [] := by
    refine List.eq_nil_iff_forall_not_mem.mpr fun k hk => hne ?_
    have hkey : k = orderKey := List.mem_singleton.mp (hall ▸ List.mem_append_left _ hk)
    rw [← hx, ← h.holders x List.mem_cons_self k hk, hkey]
  rw [hnone, List.nil_append] at hall
  obtain ⟨_, _⟩ := x
  obtain ⟨_, _⟩ := y
  subst hx hy hnone hall
  rfl

theorem foreignKeys_of_found {d : Diagram} {k : ForeignKey}
    (h : (d.relationships.filterMap (foreignKey? d)).filter
      (fun k => !k.holder.isView && !k.referenced.isView) = [k]) : foreignKeys d = [k] := by
  rw [foreignKeys, h, List.mergeSort_singleton]

/-! ## Scripts for SQLite -/

/-- A script for SQLite creates every table once with all of its foreign keys inside, and no view.
If the relationships lead in no circle from a table to itself, no table is created before one that
it refers to; otherwise the tables are created as they are declared. What leads in a circle counts
even where it passes through a view, or through a field that is missing, and so through keys that
the script does not hold. -/
theorem tables_are_created_behind_what_they_refer_to (d : Diagram) (h : d.DistinctIds) :
    ∃ cs, Creates d cs ∧
      native? .sqlite d .everything = some (idiomScript d cs) ∧
      (∀ always, portable ⟨.sqlite, always⟩ d .everything = sharedScript always d cs) ∧
      (NoCircle d.DependsOn → ReferredFirst d cs) ∧
      (¬ NoCircle d.DependsOn → cs.map (·.table) = writtenTables d) := by
  refine ⟨creations d, creates_creations h, native?_sqlite d,
    fun always => portable_sqlite always d, referredFirst_creations h, fun hcircle => ?_⟩
  rw [creations_tables, Diagram.dependencyOrder_of_circle h hcircle]
  rfl

theorem customers_are_created_before_their_orders :
    sales.DistinctIds ∧ NoCircle sales.DependsOn ∧
      native? .sqlite sales .everything =
        some (idiomScript sales [⟨orderKey.referenced, []⟩, ⟨orderKey.holder, [orderKey]⟩]) := by
  have hids : sales.DistinctIds := by
    unfold Diagram.DistinctIds
    decide +kernel
  have hcircle : NoCircle sales.DependsOn := by
    refine noCircle_of_ids (a := "o") (b := "c") (by decide) fun t u htu => ?_
    obtain ⟨r, hr, a, b, hkey, ha, hb⟩ := htu.key
    obtain rfl := List.mem_singleton.mp hr
    cases hkey
    exact ⟨ha.symm, hb.symm⟩
  have htables : ∀ t, t ∈ sales.tables ∧ t.isView = false ↔
      t = orderKey.referenced ∨ t = orderKey.holder := by
    intro t
    constructor
    · rintro ⟨ht, -⟩
      exact (List.mem_pair.mp ht).symm
    · rintro (rfl | rfl)
      · decide +kernel
      · decide +kernel
  have hkeys : foreignKeys sales = [orderKey] := foreignKeys_of_found (by decide +kernel)
  obtain ⟨cs, hcreates, hnative, -, hfirst, -⟩ :=
    tables_are_created_behind_what_they_refer_to sales hids
  have hcs := creations_of_orderKey hkeys htables hcreates (hfirst hcircle)
  exact ⟨hids, hcircle, hcs ▸ hnative⟩

/-- The foreign keys that stand in a script lead in no circle, and still the orders are created
before the customers they refer to, as the view of the orders closes a circle with them. -/
theorem a_view_that_closes_a_circle_undoes_the_order :
    salesWithTotals.DistinctIds ∧ NoCircle (KeyRefers salesWithTotals) ∧
      ∀ cs, Creates salesWithTotals cs → ReferredFirst salesWithTotals cs →
        native? .sqlite salesWithTotals .everything ≠ some (idiomScript salesWithTotals cs) ∧
        portable ⟨.sqlite, false⟩ salesWithTotals .everything ≠
          sharedScript false salesWithTotals cs := by
  have hkeys : foreignKeys salesWithTotals = [orderKey] := foreignKeys_of_found (by decide +kernel)
  have hids : salesWithTotals.DistinctIds := by
    unfold Diagram.DistinctIds
    decide +kernel
  have hcircle : NoCircle (KeyRefers salesWithTotals) := by
    refine noCircle_of_ids (a := "o") (b := "c") (by decide) fun t u htu => ?_
    obtain ⟨-, k, hk, rfl, rfl⟩ := htu
    rw [hkeys] at hk
    obtain rfl := List.mem_singleton.mp hk
    decide
  have htables : ∀ t, t ∈ salesWithTotals.tables ∧ t.isView = false ↔
      t = orderKey.referenced ∨ t = orderKey.holder := by
    intro t
    constructor
    · rintro ⟨ht, hview⟩
      simp only [salesWithTotals, sales, List.cons_append, List.nil_append, List.mem_cons,
        List.not_mem_nil, or_false] at ht
      rcases ht with rfl | rfl | rfl
      · exact .inr rfl
      · exact .inl rfl
      · cases hview
    · rintro (rfl | rfl)
      · decide +kernel
      · decide +kernel
  have hwritten : creations salesWithTotals =
      [⟨orderKey.holder, [orderKey]⟩, ⟨orderKey.referenced, []⟩] := by
    have horder : salesWithTotals.dependencyOrder = salesWithTotals.tables := by decide +kernel
    rw [creations, horder, hkeys]
    rfl
  refine ⟨hids, hcircle, fun cs hcreates hfirst => ?_⟩
  rw [native?_sqlite, portable_sqlite, hwritten,
    creations_of_orderKey hkeys htables hcreates hfirst]
  constructor
  · decide +kernel
  · decide +kernel

end SchemaChart.Export
