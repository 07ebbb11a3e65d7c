-- Tables and columns that are defined twice. The first definition stays, but for the keys and
-- indexes that the second one states: they are applied to the first all the same.
import SchemaChart.Proofs.Declared
import SchemaChart.Proofs.Facts

namespace SchemaChart.Schema

open Text

/-! ## Facts in a row -/

theorem mark_names (columns : List Column) (m : Mark) :
    (mark columns m).map Column.name = columns.map Column.name := by
  unfold mark
  split
  · exact map_modify_of_eq (fun c => m.change_name c)
  · rfl

/-- Facts leave the names of columns alone, and their number. -/
theorem foldl_withFact_names (facts : List Fact) (t : Table) :
    (facts.foldl Table.withFact t).columns.map Column.name = t.columns.map Column.name := by
  rw [foldl_withFact_columns]
  generalize facts.flatMap Fact.marks = marks
  generalize t.columns = columns
  induction marks generalizing columns with
  | nil => rfl
  | cons m ms ih => rw [List.foldl_cons, ih, mark_names]

theorem keyOf?_of_head {t u : Table} (h : t.head = u.head) : keyOf? t = keyOf? u := by
  have hname := Table.eq_of_head Table.name (fun _ => rfl) h
  have href := Table.eq_of_head Table.ref (fun _ => rfl) h
  funext fact
  cases fact with
  | primaryKey name columns => rfl
  | unique name columns => rfl
  | index name columns unique method => rfl
  | foreignKey name columns target targetColumns onUpdate onDelete =>
    simp [keyOf?, hname, href]

theorem keyOf?_isSome (t : Table) (fact : Fact) :
    (keyOf? t fact).isSome = true ↔ fact.IsForeignKey := by
  cases fact with
  | primaryKey name columns => simp [keyOf?, Fact.IsForeignKey]
  | unique name columns => simp [keyOf?, Fact.IsForeignKey]
  | index name columns unique method => simp [keyOf?, Fact.IsForeignKey]
  | foreignKey name columns target targetColumns onUpdate onDelete =>
    simp [keyOf?, Fact.IsForeignKey]

theorem filterMap_keyOf?_eq_nil (t : Table) (facts : List Fact) :
    facts.filterMap (keyOf? t) = [] ↔ ∀ f ∈ facts, ¬ f.IsForeignKey := by
  rw [List.filterMap_eq_nil_iff]
  refine forall₂_congr fun f _ => ?_
  rw [← keyOf?_isSome t f, Option.not_isSome_iff_eq_none]

/-- A foreign key changes no table. -/
theorem withFact_of_isForeignKey {fact : Fact} (h : fact.IsForeignKey) (t : Table) :
    t.withFact fact = t := by
  cases fact with
  | primaryKey name columns => cases h
  | unique name columns => cases h
  | index name columns unique method => cases h
  | foreignKey name columns target targetColumns onUpdate onDelete => rfl

namespace Builder

theorem applyAll_tables (b : Builder) (i : Nat) (facts : List Fact) :
    (b.applyAll i facts).tables = b.tables.modify i (facts.foldl Table.withFact ·) := by
  unfold applyAll
  induction facts generalizing b with
  | nil => exact (List.modify_id i b.tables).symm
  | cons f fs ih =>
    rw [List.foldl_cons, ih, apply_tables, List.modify_modify_eq]
    rfl

theorem applyAll_pending {b : Builder} {i : Nat} {t : Table} (facts : List Fact)
    (ht : b.tables[i]? = some t) :
    (b.applyAll i facts).pending = b.pending ++ facts.filterMap (keyOf? t) := by
  unfold applyAll
  induction facts generalizing b t with
  | nil => simp
  | cons f fs ih =>
    have hnext : (b.apply i f).tables[i]? = some (t.withFact f) := by
      rw [apply_tables, List.getElem?_modify_eq, ht]
      rfl
    rw [List.foldl_cons, ih hnext, apply_pending f ht, keyOf?_of_head (withFact_head t f),
      List.filterMap_cons]
    rcases keyOf? t f with _ | k
    · simp
    · simp

/-- All but tables and the line of foreign keys stays. -/
theorem frame_applyAll (b : Builder) (i : Nat) (facts : List Fact) :
    (b.applyAll i facts).dialect = b.dialect ∧ (b.applyAll i facts).types = b.types ∧
      b.warnings <+: (b.applyAll i facts).warnings := by
  unfold applyAll
  induction facts generalizing b with
  | nil => exact ⟨rfl, rfl, List.prefix_refl _⟩
  | cons f fs ih =>
    obtain ⟨hd, hty, hw⟩ := ih (b.apply i f)
    have hf := frame_apply b i f
    exact ⟨hd.trans hf.dialect, hty.trans hf.types, hf.warnings.trans hw⟩

/-! ## A table once more -/

/-- Tables, types and waiting foreign keys are as they were. -/
def Untouched (b b' : Builder) : Prop :=
  b'.tables = b.tables ∧ b'.types = b.types ∧ b'.pending = b.pending

/-- What is said about a table that is there already. -/
def keepsFirst (t : Table) : String :=
  "Table " ++ t.ref.display ++ " defined more than once, keeping the first definition"

theorem addTable_of_some {b : Builder} {t : Table} {i : Nat} (h : b.lookupExact? t.ref = some i) :
    b.addTable t = (i, b.warn (keepsFirst t)) := by
  unfold addTable
  rw [h]
  rfl

theorem foldl_warnUnread (r : TableRef) (unread : List String) (b : Builder) :
    ∃ said, unread.foldl (warnUnread r) b = { b with warnings := b.warnings ++ said } :=
  ⟨_, foldl_warn
    (fun element => "Could not read column definition '" ++ element ++ "' in " ++ r.display)
    unread b⟩

/-- A table that is declared again changes nothing but by the facts about it. -/
theorem declare_again {b : Builder} {t first : Table} {i : Nat} (facts : List Fact)
    (unread : List String) (hi : b.lookupExact? t.ref = some i) (ht : b.tables[i]? = some first) :
    (b.declare (.table t facts unread)).tables =
      b.tables.modify i (facts.foldl Table.withFact ·) ∧
    (b.declare (.table t facts unread)).types = b.types ∧
    (b.declare (.table t facts unread)).pending = b.pending ++ facts.filterMap (keyOf? first) ∧
    b.warnings ++ [keepsFirst t] <+: (b.declare (.table t facts unread)).warnings := by
  rw [declare_table, addTable_of_some hi]
  obtain ⟨said, hsaid⟩ := foldl_warnUnread t.ref unread (b.warn (keepsFirst t))
  rw [hsaid]
  have hframe := frame_applyAll
    { b.warn (keepsFirst t) with warnings := (b.warn (keepsFirst t)).warnings ++ said } i facts
  refine ⟨applyAll_tables _ i facts, hframe.2.1, applyAll_pending facts ht, ?_⟩
  exact (List.prefix_append _ said).trans hframe.2.2

theorem untouched_again_iff {b b' : Builder} {first : Table} {i : Nat} {facts : List Fact}
    (ht : b.tables[i]? = some first)
    (htables : b'.tables = b.tables.modify i (facts.foldl Table.withFact ·))
    (htypes : b'.types = b.types)
    (hpending : b'.pending = b.pending ++ facts.filterMap (keyOf? first)) :
    b.Untouched b' ↔
      facts.foldl Table.withFact first = first ∧ ∀ f ∈ facts, ¬ f.IsForeignKey := by
  have hsame : b'.tables = b.tables ↔ facts.foldl Table.withFact first = first := by
    rw [htables]
    constructor
    · intro he
      have hfirst := congrArg (·[i]?) he
      simpa [ht] using hfirst
    · intro he
      exact modify_eq_self ht he
  have hnone : b'.pending = b.pending ↔ ∀ f ∈ facts, ¬ f.IsForeignKey := by
    rw [hpending, List.append_right_eq_self, filterMap_keyOf?_eq_nil]
  unfold Untouched
  rw [hsame, hnone]
  simp [htypes]

/-! ## A column once more -/

/-- What is left of the addition of a column that is there already: its foreign keys. -/
def keysAdded (t : Table) : Alteration → List PendingKey
  | .addColumn _ facts => facts.filterMap (keyOf? t)
  | _ => []

/-- A change that puts foreign keys in line and may warn, and does nothing else. -/
structure OnlyQueues (keys : List PendingKey) (b b' : Builder) : Prop where
  dialect : b'.dialect = b.dialect
  tables : b'.tables = b.tables
  types : b'.types = b.types
  pending : b'.pending = b.pending ++ keys
  warnings : b.warnings <+: b'.warnings

theorem OnlyQueues.trans {ks ls : List PendingKey} {b b' b'' : Builder} (h : OnlyQueues ks b b')
    (h' : OnlyQueues ls b' b'') : OnlyQueues (ks ++ ls) b b'' :=
  ⟨h'.dialect.trans h.dialect, h'.tables.trans h.tables, h'.types.trans h.types,
    by rw [h'.pending, h.pending, List.append_assoc], h.warnings.trans h'.warnings⟩

theorem onlyQueues_of_frame {b b' : Builder} (h : Frame b b') (ht : b'.tables = b.tables) :
    OnlyQueues [] b b' :=
  ⟨h.dialect, ht, h.types, by rw [h.pending, List.append_nil], h.warnings⟩

theorem onlyQueues_applyAll {b : Builder} {i : Nat} {t : Table} {facts : List Fact}
    (ht : b.tables[i]? = some t) (hf : ∀ f ∈ facts, f.IsForeignKey) :
    OnlyQueues (facts.filterMap (keyOf? t)) b (b.applyAll i facts) := by
  have hfirst : facts.foldl Table.withFact t = t := by
    clear ht
    induction facts with
    | nil => rfl
    | cons f fs ih =>
      rw [List.foldl_cons, withFact_of_isForeignKey (hf f List.mem_cons_self)]
      exact ih (fun g hg => hf g (List.mem_cons_of_mem f hg))
  have hframe := frame_applyAll b i facts
  exact ⟨hframe.1, (applyAll_tables b i facts).trans (modify_eq_self ht hfirst), hframe.2.1,
    applyAll_pending facts ht, hframe.2.2⟩

/-- A column that the table has is not added, but its foreign keys are put in line. -/
theorem alter_again {b : Builder} {r : TableRef} {i : Nat} {t : Table} {column : Column}
    {facts : List Fact} (hr : (b.resolve r).1 = some i) (ht : b.tables[i]? = some t)
    (hc : t.HasColumn column.name) (hf : ∀ f ∈ facts, f.IsForeignKey) :
    OnlyQueues (facts.filterMap (keyOf? t)) b (b.alter r (.addColumn column facts)) := by
  have hresolve := onlyQueues_of_frame (frame_resolve b r) (resolve_tables b r)
  unfold alter
  rcases he : b.resolve r with ⟨_ | j, b'⟩
  · rw [he] at hr
    cases hr
  · rw [he] at hr hresolve
    obtain rfl : j = i := Option.some.inj hr
    have ht' : b'.tables[j]? = some t := by rw [hresolve.tables, ht]
    obtain ⟨old, hold⟩ := Option.isSome_iff_exists.mp ((t.column?_isSome column.name).mpr hc)
    have hadd : b'.addColumn j column =
        b'.warn ("Column " ++ column.name ++ " already exists on " ++ t.name) := by
      unfold addColumn
      rw [ht']
      dsimp only
      rw [hold]
    have hwarn : OnlyQueues [] b' (b'.addColumn j column) := by
      rw [hadd]
      exact onlyQueues_of_frame (frame_warn b' _) rfl
    have happly := onlyQueues_applyAll (b := b'.addColumn j column) (i := j)
      (by rw [hwarn.tables, ht']) hf
    exact (hresolve.trans hwarn).trans happly

/-- What a reference means depends on the tables alone. -/
theorem resolve_fst {b b' : Builder} (r : TableRef) (hd : b'.dialect = b.dialect)
    (ht : b'.tables = b.tables) : (b'.resolve r).1 = (b.resolve r).1 := by
  have hexact : b'.lookupExact? r = b.lookupExact? r := by
    simp only [lookupExact?, sameSchema, effectiveSchema, hd, ht]
  have hname : b'.lookupName? r.name = b.lookupName? r.name := by
    simp only [lookupName?, ht]
  unfold resolve
  rw [hexact, hname]
  split
  · rfl
  · split
    · rfl
    · rfl

/-- So it is with all columns that a statement adds. -/
theorem alters_again {b : Builder} {r : TableRef} {i : Nat} {t : Table}
    {changes : List Alteration} (hr : (b.resolve r).1 = some i) (ht : b.tables[i]? = some t)
    (hfresh : ∀ a ∈ changes, a.Fresh)
    (hc : ∀ a ∈ changes, ∃ column facts, a = .addColumn column facts ∧ t.HasColumn column.name) :
    OnlyQueues (changes.flatMap (keysAdded t)) b (changes.foldl (fun b a => b.alter r a) b) := by
  induction changes generalizing b with
  | nil => exact onlyQueues_of_frame (.refl b) rfl
  | cons a as ih =>
    obtain ⟨column, facts, rfl, hcolumn⟩ := hc a List.mem_cons_self
    have hf : ∀ f ∈ facts, f.IsForeignKey :=
      (hfresh (.addColumn column facts) List.mem_cons_self).2
    have hstep := alter_again hr ht hcolumn hf
    have hrest := ih (by rw [resolve_fst r hstep.dialect hstep.tables, hr])
      (by rw [hstep.tables, ht]) (fun a ha => hfresh a (List.mem_cons_of_mem _ ha))
      (fun a ha => hc a (List.mem_cons_of_mem _ ha))
    exact hstep.trans hrest

theorem OnlyQueues.untouched_iff {b b' : Builder} {keys : List PendingKey}
    (h : OnlyQueues keys b b') : b.Untouched b' ↔ keys = [] := by
  unfold Untouched
  rw [h.pending, List.append_right_eq_self]
  simp [h.tables, h.types]

/-- Columns that are added again bring no key just if they state nothing. -/
theorem flatMap_keysAdded_eq_nil {t : Table} {changes : List Alteration}
    (hfresh : ∀ a ∈ changes, a.Fresh)
    (hc : ∀ a ∈ changes, ∃ column facts, a = .addColumn column facts ∧ t.HasColumn column.name) :
    changes.flatMap (keysAdded t) = [] ↔
      ∀ column facts, .addColumn column facts ∈ changes → facts = [] := by
  rw [List.flatMap_eq_nil_iff]
  constructor
  · intro h column facts hmem
    have hf := (hfresh _ hmem).2
    have hkeys := (filterMap_keyOf?_eq_nil t facts).mp (h _ hmem)
    exact List.eq_nil_iff_forall_not_mem.mpr (fun f hin => hkeys f hin (hf f hin))
  · intro h a ha
    obtain ⟨column, facts, rfl, _⟩ := hc a ha
    rw [h column facts ha]
    rfl

end Builder

end SchemaChart.Schema

namespace SchemaChart.Import

open Data (Arithmetic)
open Schema
open Script (Statement)

theorem step_of_read {s : Source} {st : Statement} {d : Declaration}
    (h : read s st = .ok (some d)) (a : Arithmetic) (p : Progress) :
    p.step a s st = .ok (p.declare d) := by
  rw [Progress.step_eq, h]

/-- A definition that is repeated is not ignored. Of a table that is there already, its name, its
columns and its comment stay, but the keys and indexes of the second definition are applied to the
first, and its foreign keys are put in line; nothing changes just if none of this has an effect.
A column that is there already stays as it is, but the foreign keys of the second definition are
put in line; nothing changes just if it has none. -/
theorem repeated_definitions_still_state_their_keys (a : Arithmetic) (s : Source) (p : Progress)
    (st : Statement) :
    let b := p.builder
    (∀ t facts unread i first, read s st = .ok (some (.table t facts unread)) →
      b.lookupExact? t.ref = some i → b.tables[i]? = some first →
      ∃ b', p.step a s st = .ok { p with builder := b' } ∧
        b'.tables = b.tables.modify i (facts.foldl Table.withFact ·) ∧
        (facts.foldl Table.withFact first).head = first.head ∧
        (facts.foldl Table.withFact first).columns.map Column.name =
          first.columns.map Column.name ∧
        b'.types = b.types ∧
        b'.pending = b.pending ++ facts.filterMap (keyOf? first) ∧
        b.warnings ++ [Builder.keepsFirst t] <+: b'.warnings ∧
        (b.Untouched b' ↔
          facts.foldl Table.withFact first = first ∧ ∀ f ∈ facts, ¬ f.IsForeignKey)) ∧
    (∀ r changes i t, read s st = .ok (some (.alter r changes)) →
      (b.resolve r).1 = some i → b.tables[i]? = some t →
      (∀ change ∈ changes, ∃ column facts,
        change = .addColumn column facts ∧ t.HasColumn column.name) →
      ∃ b', p.step a s st = .ok { p with builder := b' } ∧
        b'.tables = b.tables ∧ b'.types = b.types ∧
        b'.pending = b.pending ++ changes.flatMap (Builder.keysAdded t) ∧
        b.warnings <+: b'.warnings ∧
        (b.Untouched b' ↔ ∀ column facts, .addColumn column facts ∈ changes → facts = [])) := by
  intro b
  refine ⟨fun t facts unread i first hr hi ht => ?_, fun r changes i t hr hi ht hc => ?_⟩
  · refine ⟨b.declare (.table t facts unread), step_of_read hr a p, ?_⟩
    obtain ⟨htables, htypes, hpending, hwarnings⟩ :=
      Builder.declare_again facts unread hi ht
    exact ⟨htables, foldl_withFact_head facts first, foldl_withFact_names facts first, htypes,
      hpending, hwarnings, Builder.untouched_again_iff ht htables htypes hpending⟩
  · refine ⟨b.declare (.alter r changes), step_of_read hr a p, ?_⟩
    obtain ⟨cs, hcs⟩ : ∃ cs, Reading.alterTable s cs = .ok (r, changes) := read_fresh hr
    have hfresh := Reading.alterTable_fresh hcs
    have honly := Builder.alters_again hi ht hfresh hc
    exact ⟨honly.tables, honly.types, honly.pending, honly.warnings,
      honly.untouched_iff.trans (Builder.flatMap_keysAdded_eq_nil hfresh hc)⟩

/-- A second definition of a table brings its primary key to the first, and a second definition of
a column brings its foreign key. -/
theorem second_definitions_bring_their_keys :
    let table : Statement := ⟨"CREATE TABLE t (a int, PRIMARY KEY (a))", 2⟩
    let column : Statement := ⟨"ALTER TABLE t ADD COLUMN a int REFERENCES u (id)", 2⟩
    ∃ p, (Progress.start .postgresql).run .checked .postgresql [⟨"CREATE TABLE t (a int)", 1⟩] =
        .ok p ∧
      (∃ q, p.step .checked .postgresql table = .ok q ∧ ¬ p.builder.Untouched q.builder) ∧
      ∃ q, p.step .checked .postgresql column = .ok q ∧ ¬ p.builder.Untouched q.builder := by
  intro table column
  let first : Table :=
    { id := "t0", name := "t", schema := none, columns := [{ name := "a", type := "INT" }] }
  let p : Progress := ⟨{ dialect := .postgresql, tables := [first] }, []⟩
  refine ⟨p, eq_ok_of_toOption (by decide +kernel), ?_, ?_⟩
  · let second : Table :=
      { name := "t", schema := none, columns := [{ name := "a", type := "INT" }] }
    have hr : read .postgresql table = .ok (some (.table second [.primaryKey none ["a"]] [])) :=
      eq_ok_of_toOption (by decide +kernel)
    have hi : p.builder.lookupExact? second.ref = some 0 := by decide +kernel
    obtain ⟨b', hstep, _, _, _, _, _, _, huntouched⟩ :=
      (repeated_definitions_still_state_their_keys .checked .postgresql p table).1
        second [.primaryKey none ["a"]] [] 0 first hr hi rfl
    refine ⟨_, hstep, ?_⟩
    rw [huntouched]
    rintro ⟨hsame, _⟩
    revert hsame
    decide
  · let key : Fact := .foreignKey none ["a"] ⟨"u", none⟩ ["id"] none none
    have hr : read .postgresql column =
        .ok (some (.alter ⟨"t", none⟩ [.addColumn { name := "a", type := "int" } [key]])) :=
      eq_ok_of_toOption (by decide +kernel)
    have hi : (p.builder.resolve ⟨"t", none⟩).1 = some 0 := by decide +kernel
    obtain ⟨b', hstep, _, _, _, _, huntouched⟩ :=
      (repeated_definitions_still_state_their_keys .checked .postgresql p column).2
        ⟨"t", none⟩ _ 0 first hr hi rfl (by
          intro change hchange
          rw [List.mem_singleton.mp hchange]
          exact ⟨_, _, rfl, _, List.mem_singleton.mpr rfl, by decide⟩)
    refine ⟨_, hstep, ?_⟩
    rw [huntouched]
    intro hnone
    cases hnone _ _ (List.mem_singleton.mpr rfl)

end SchemaChart.Import
