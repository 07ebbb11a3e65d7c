-- The order of tables and facts is of no matter. Tables that differ in name or schema, and facts
-- about them, lead to the same columns and to the same foreign keys whenever each fact comes
-- behind its own table.
import SchemaChart.Proofs.Facts

namespace SchemaChart.Schema

open Text

/-! ## Calls in some order -/

/-- A call to a schema under construction: to add a table, or to state a fact about one. -/
inductive Call where
  | add (table : Table)
  | state (table : Table) (fact : Fact)
deriving DecidableEq

/-- A schema under construction, and the position of each table that was added to it. -/
structure Session where
  builder : Builder
  placed : List (Table × Nat) := []

namespace Session

/-- Makes a call. A fact goes to the position that its table was given. -/
def step (s : Session) : Call → Session
  | .add t => ⟨(s.builder.addTable t).2, (t, (s.builder.addTable t).1) :: s.placed⟩
  | .state t fact =>
    match s.placed.lookup t with
    | some i => { s with builder := s.builder.apply i fact }
    | none => s

/-- Makes calls in order, from an empty schema on. -/
def run (d : Dialect) (calls : List Call) : Session :=
  calls.foldl step { builder := { dialect := d } }

theorem run_concat (d : Dialect) (calls : List Call) (c : Call) :
    run d (calls ++ [c]) = (run d calls).step c := by
  simp [run]

end Session

/-- Calls in which each fact comes behind its table. -/
inductive InOrder : List Call → Prop
  | nil : InOrder []
  | add {calls : List Call} (t : Table) : InOrder calls → InOrder (calls ++ [.add t])
  | state {calls : List Call} (t : Table) (fact : Fact) :
      InOrder calls → .add t ∈ calls → InOrder (calls ++ [.state t fact])

def Call.table? : Call → Option Table
  | .add t => some t
  | .state .. => none

def Call.factAbout? (t : Table) : Call → Option Fact
  | .add _ => none
  | .state u fact => if u = t then some fact else none

def Call.key? : Call → Option PendingKey
  | .add _ => none
  | .state t fact => keyOf? t fact

/-- The tables that calls add, in their order. -/
def tablesOf (calls : List Call) : List Table := calls.filterMap Call.table?

/-- The facts that calls state about a table, in their order. -/
def factsOf (calls : List Call) (t : Table) : List Fact := calls.filterMap (Call.factAbout? t)

/-- A table as it is put at a position. -/
def Table.putAt (t : Table) (n : Nat) : Table := { t with id := "t" ++ toString n, order := n }

/-- A table as it stands at a position after calls. -/
def settled (calls : List Call) (n : Nat) (t : Table) : Table :=
  (factsOf calls t).foldl Table.withFact (t.putAt n)

/-- What calls have led to: each table at its position, with the facts about it, and the foreign
keys in line. -/
structure Session.After (d : Dialect) (calls : List Call) (s : Session) : Prop where
  dialect : s.builder.dialect = d
  relationships : s.builder.relationships = []
  tables : s.builder.tables = (tablesOf calls).mapIdx (settled calls)
  pending : s.builder.pending = calls.filterMap Call.key?
  placed : ∀ n t, (tablesOf calls)[n]? = some t → s.placed.lookup t = some n

theorem settled_head (calls : List Call) (n : Nat) (t : Table) :
    (settled calls n t).head = (t.putAt n).head := foldl_withFact_head (factsOf calls t) (t.putAt n)

theorem settled_id (calls : List Call) (n : Nat) (t : Table) :
    (settled calls n t).id = "t" ++ toString n :=
  Table.eq_of_head Table.id (fun _ => rfl) (settled_head calls n t)

theorem settled_ref (calls : List Call) (n : Nat) (t : Table) :
    (settled calls n t).ref = t.ref := by
  rw [Table.eq_of_head Table.ref (fun _ => rfl) (settled_head calls n t)]
  rfl

/-! ## What one more call changes -/

theorem tablesOf_add (calls : List Call) (t : Table) :
    tablesOf (calls ++ [.add t]) = tablesOf calls ++ [t] := by
  simp [tablesOf, Call.table?]

theorem tablesOf_state (calls : List Call) (t : Table) (fact : Fact) :
    tablesOf (calls ++ [.state t fact]) = tablesOf calls := by
  simp [tablesOf, Call.table?]

theorem settled_add (calls : List Call) (t : Table) :
    settled (calls ++ [.add t]) = settled calls := by
  have hfacts : factsOf (calls ++ [.add t]) = factsOf calls := by
    funext u
    simp [factsOf, Call.factAbout?]
  unfold settled
  rw [hfacts]

theorem settled_state (calls : List Call) (n : Nat) (t : Table) (fact : Fact) :
    settled (calls ++ [.state t fact]) n t = (settled calls n t).withFact fact := by
  simp [settled, factsOf, Call.factAbout?]

theorem settled_state_of_ne (calls : List Call) (n : Nat) {t u : Table} (fact : Fact)
    (h : t ≠ u) : settled (calls ++ [.state t fact]) n u = settled calls n u := by
  simp [settled, factsOf, Call.factAbout?, h]

theorem keyOf?_congr {t u : Table} (h : t.ref = u.ref) (fact : Fact) :
    keyOf? t fact = keyOf? u fact := by
  obtain ⟨hn, hs⟩ := TableRef.mk.injEq _ _ _ _ ▸ h
  cases fact with
  | foreignKey name columns target targetColumns onUpdate onDelete =>
    simp [keyOf?, hn, h]
  | _ => rfl

theorem mem_tablesOf {calls : List Call} {t : Table} : t ∈ tablesOf calls ↔ .add t ∈ calls := by
  unfold tablesOf
  rw [List.mem_filterMap]
  constructor
  · rintro ⟨c, hc, h⟩
    cases c with
    | add u => exact Option.some.inj h ▸ hc
    | state u fact => cases h
  · intro h
    exact ⟨_, h, rfl⟩

theorem InOrder.add_mem {calls : List Call} (h : InOrder calls) {t : Table} {fact : Fact}
    (hmem : .state t fact ∈ calls) : .add t ∈ calls := by
  induction h with
  | nil => cases hmem
  | add u _ ih =>
    rcases List.mem_append.mp hmem with hc | hc
    · exact List.mem_append_left _ (ih hc)
    · cases List.mem_singleton.mp hc
  | state u f _ hadd ih =>
    refine List.mem_append_left _ ?_
    rcases List.mem_append.mp hmem with hc | hc
    · exact ih hc
    · cases List.mem_singleton.mp hc
      exact hadd

/-- Nothing is stated about a table before it is added. -/
theorem InOrder.factsOf_eq_nil {calls : List Call} (h : InOrder calls) {t : Table}
    (ht : t ∉ tablesOf calls) : factsOf calls t = [] := by
  unfold factsOf
  rw [List.filterMap_eq_nil_iff]
  intro c hc
  cases c with
  | add u => rfl
  | state u fact =>
    have hne : u ≠ t := by
      rintro rfl
      exact ht (mem_tablesOf.mpr (h.add_mem hc))
    simp [Call.factAbout?, hne]

theorem addTable_of_none {b : Builder} {t : Table} (h : b.lookupExact? t.ref = none) :
    b.addTable t =
      (b.tables.length, { b with tables := b.tables ++ [t.putAt b.tables.length] }) := by
  unfold Builder.addTable
  rw [h]
  rfl

namespace Session.After

variable {d : Dialect} {calls : List Call} {s : Session}

theorem start (d : Dialect) : (run d []).After d [] :=
  ⟨rfl, rfl, rfl, rfl, by simp [tablesOf]⟩

/-- A table with a key of its own is put behind the others. -/
theorem add (h : s.After d calls) (ho : InOrder calls) {t : Table}
    (hkey : ∀ u ∈ tablesOf calls, u.ref.key d ≠ t.ref.key d) :
    (s.step (.add t)).After d (calls ++ [.add t]) := by
  have hnone : s.builder.lookupExact? t.ref = none := by
    rw [Builder.lookupExact?_eq_none_iff, h.dialect, h.tables]
    intro u hu
    obtain ⟨n, hn, rfl⟩ := List.mem_mapIdx.mp hu
    rw [settled_ref]
    exact hkey _ (List.getElem_mem hn)
  have hnew : t ∉ tablesOf calls := fun ht => hkey t ht rfl
  have hlen : s.builder.tables.length = (tablesOf calls).length := by simp [h.tables]
  -- no fact can be waiting for a table that was not there
  have hlast : settled calls (tablesOf calls).length t = t.putAt (tablesOf calls).length := by
    unfold settled
    rw [ho.factsOf_eq_nil hnew]
    rfl
  rw [step, addTable_of_none hnone, hlen]
  refine ⟨h.dialect, h.relationships, ?_, ?_, ?_⟩
  · rw [settled_add, tablesOf_add, List.mapIdx_concat, hlast, ← h.tables]
  · rw [List.filterMap_append, ← h.pending]
    exact (List.append_nil _).symm
  · intro n u hu
    rw [tablesOf_add] at hu
    by_cases hn : n < (tablesOf calls).length
    · rw [List.getElem?_append_left hn] at hu
      have hne : (u == t) = false := by
        rw [beq_eq_false_iff_ne]
        rintro rfl
        exact hnew (List.mem_of_getElem? hu)
      rw [List.lookup_cons, hne]
      exact h.placed n u hu
    · obtain ⟨hlt, _⟩ := List.getElem?_eq_some_iff.mp hu
      rw [List.length_append, List.length_singleton] at hlt
      obtain rfl : n = (tablesOf calls).length := by omega
      rw [List.getElem?_concat_length] at hu
      cases hu
      exact List.lookup_cons_self

/-- A fact goes to its table, and a foreign key into the line. -/
theorem state (h : s.After d calls) (hkeys : ((tablesOf calls).map (·.ref.key d)).Nodup)
    {t : Table} (fact : Fact) (ht : .add t ∈ calls) :
    (s.step (.state t fact)).After d (calls ++ [.state t fact]) := by
  obtain ⟨n, hn⟩ := List.mem_iff_getElem?.mp (mem_tablesOf.mpr ht)
  have hat : s.builder.tables[n]? = some (settled calls n t) := by
    rw [h.tables, List.getElem?_mapIdx, hn]
    rfl
  rw [step, h.placed n t hn]
  have hframe := s.builder.frame_apply n fact
  refine ⟨hframe.dialect.trans h.dialect, hframe.relationships.trans h.relationships, ?_, ?_, ?_⟩
  · rw [Builder.apply_tables, h.tables, tablesOf_state]
    apply List.ext_getElem?
    intro m
    rw [List.getElem?_modify, List.getElem?_mapIdx, List.getElem?_mapIdx]
    rcases hm : (tablesOf calls)[m]? with _ | u
    · rfl
    · by_cases hnm : n = m
      · subst hnm
        cases hn.symm.trans hm
        simp [settled_state]
      · -- keys of their own put no table at two positions
        have hne : t ≠ u := by
          rintro rfl
          exact hnm ((List.getElem?_inj (List.getElem?_eq_some_iff.mp hn).1 hkeys.of_map).mp
            (hn.trans hm.symm))
        simp [settled_state_of_ne calls m fact hne, hnm]
  · rw [Builder.apply_pending fact hat, List.filterMap_append, ← h.pending,
      keyOf?_congr (settled_ref calls n t)]
    rcases hk : keyOf? t fact with _ | k
    · simp [Call.key?, hk]
    · simp [Call.key?, hk]
  · rw [tablesOf_state]
    exact h.placed

end Session.After

/-- Tables with keys of their own are all there after calls in order, each with its facts. -/
theorem after_run (d : Dialect) {calls : List Call} (h : InOrder calls)
    (hkeys : ((tablesOf calls).map (·.ref.key d)).Nodup) :
    (Session.run d calls).After d calls := by
  induction h with
  | nil => exact .start d
  | @add calls t ho ih =>
    rw [tablesOf_add, List.map_append, List.nodup_append] at hkeys
    rw [Session.run_concat]
    refine (ih hkeys.1).add ho fun u hu => ?_
    exact hkeys.2.2 _ (List.mem_map_of_mem hu) _ (List.mem_singleton_self _)
  | @state calls t fact ho ht ih =>
    rw [tablesOf_state] at hkeys
    rw [Session.run_concat]
    exact (ih hkeys).state hkeys fact ht

/-! ## Foreign keys up to spelling -/

/-- What a foreign key joins: tables by name and schema, and columns up to case. -/
structure Join where
  source : TableRef
  sourceColumn : List Char
  target : TableRef
  targetColumn : List Char
deriving DecidableEq

def ForeignKey.join (l : ForeignKey) : Join :=
  ⟨⟨l.sourceTable, l.sourceSchema⟩, foldName l.sourceColumn, ⟨l.targetTable, l.targetSchema⟩,
    foldName l.targetColumn⟩

namespace Builder

/-- What the foreign keys of a pending key join depends on no more than the references to the two
tables. -/
theorem map_join_linksOf (k : PendingKey) (source target : Table) (columns : List String) :
    (linksOf k source target columns).map ForeignKey.join =
      (k.sourceColumns.zip columns).map (fun (s, t) =>
        ⟨source.ref, foldName s, target.ref, foldName t⟩) := by
  unfold linksOf
  rw [List.map_map]
  rfl

/-- Where identifiers tell tables apart, foreign keys that count as one join the same. -/
theorem join_eq_of_sameLink {b : Builder}
    (hids : ∀ t ∈ b.tables, ∀ u ∈ b.tables, t.id = u.id → t = u) {k k' : PendingKey}
    {l l' : ForeignKey} (hl : l ∈ b.linksFor k) (hl' : l' ∈ b.linksFor k')
    (h : sameLink l l' = true) : l.join = l'.join := by
  obtain ⟨source, hsource, target, htarget, _, _, n, c, c', _, _, rfl⟩ := makes_of_mem_linksFor hl
  obtain ⟨source', hsource', target', htarget', _, _, n', e, e', _, _, rfl⟩ :=
    makes_of_mem_linksFor hl'
  obtain ⟨hs, ht, hc, hc'⟩ := (sameLink_iff _ _).mp h
  cases hids source hsource source' hsource' hs
  cases hids target htarget target' htarget' ht
  unfold ForeignKey.join
  rw [(sameName_iff _ _).mp hc, (sameName_iff _ _).mp hc']

/-- What the foreign keys of a finished schema join: what the keys in line ask for. -/
theorem mem_joins_finish {b : Builder} (hrel : b.relationships = [])
    (hids : ∀ t ∈ b.tables, ∀ u ∈ b.tables, t.id = u.id → t = u) (j : Join) :
    j ∈ b.finish.relationships.map ForeignKey.join ↔
      ∃ k ∈ b.pending, ∃ l ∈ b.linksFor k, l.join = j := by
  rw [finish_eq, hrel, List.mem_map]
  constructor
  · rintro ⟨l, hl, hj⟩
    rcases mem_of_mem_foldl_addLink hl with hl | hl
    · cases hl
    · obtain ⟨k, hk, hl⟩ := List.mem_flatMap.mp hl
      exact ⟨k, hk, l, hl, hj⟩
  · rintro ⟨k, hk, l, hl, hj⟩
    have hmem : l ∈ b.pending.flatMap b.linksFor := List.mem_flatMap.mpr ⟨k, hk, hl⟩
    -- another spelling of the link may stand in its place
    obtain ⟨l', hl', hsame⟩ := foldl_addLink_represents [] hmem
    refine ⟨l', hl', ?_⟩
    rcases mem_of_mem_foldl_addLink hl' with hl' | hl'
    · cases hl'
    · obtain ⟨k', _, hl'⟩ := List.mem_flatMap.mp hl'
      rw [join_eq_of_sameLink hids hl' hl hsame, hj]

end Builder

/-! ## Two orders -/

/-- Two tables that foreign keys and columns cannot tell apart. -/
structure Alike (t u : Table) : Prop where
  ref : t.ref = u.ref
  columns : t.columns = u.columns
  keyIndex : t.indexes.find? (·.isPrimaryKey) = u.indexes.find? (·.isPrimaryKey)

theorem Alike.primaryKeyColumns {t u : Table} (h : Alike t u) :
    t.primaryKeyColumns = u.primaryKeyColumns := by
  unfold Table.primaryKeyColumns
  rw [h.keyIndex, h.columns]

theorem Alike.referenced {t u : Table} (h : Alike t u) (k : PendingKey) :
    k.referenced t = k.referenced u := by
  unfold PendingKey.referenced
  rw [h.primaryKeyColumns]

/-- A key asks for the same where its tables are alike. -/
theorem joins_linksFor_of_alike {b b' : Builder}
    (h : ∀ r t, b.Resolves r t → ∃ u, b'.Resolves r u ∧ Alike t u) {k : PendingKey} {j : Join}
    (hj : ∃ l ∈ b.linksFor k, l.join = j) : ∃ l ∈ b'.linksFor k, l.join = j := by
  obtain ⟨l, hl, hlj⟩ := hj
  obtain ⟨source, target, hs, ht, hc, hl⟩ := Builder.mem_linksFor.mp hl
  obtain ⟨source', hs', hsource⟩ := h _ _ hs
  obtain ⟨target', ht', htarget⟩ := h _ _ ht
  have hmem : j ∈ (Builder.linksOf k source' target' (k.referenced target')).map
      ForeignKey.join := by
    rw [Builder.map_join_linksOf, ← hsource.ref, ← htarget.ref, ← htarget.referenced k,
      ← Builder.map_join_linksOf]
    exact List.mem_map.mpr ⟨l, hl, hlj⟩
  obtain ⟨l', hl', hlj'⟩ := List.mem_map.mp hmem
  rw [htarget.referenced k] at hc
  exact ⟨l', Builder.mem_linksFor.mpr ⟨source', target', hs', ht', hc, hl'⟩, hlj'⟩

/-- Calls that add tables and state facts about them, in some order that puts each fact behind its
table. -/
structure OrderOf (tables : List Table) (facts : List (Table × Fact)) (calls : List Call) :
    Prop where
  perm : calls.Perm (tables.map Call.add ++ facts.map (fun (t, fact) => Call.state t fact))
  inOrder : InOrder calls

theorem OrderOf.tables_perm {tables : List Table} {facts : List (Table × Fact)}
    {calls : List Call} (h : OrderOf tables facts calls) : (tablesOf calls).Perm tables := by
  have hp := h.perm.filterMap Call.table?
  rw [List.filterMap_append, List.filterMap_map, List.filterMap_map] at hp
  have hadd : tables.filterMap (Call.table? ∘ Call.add) = tables := List.filterMap_some
  have hstate : facts.filterMap (Call.table? ∘ fun (t, fact) => Call.state t fact) = [] :=
    List.filterMap_eq_nil_iff.mpr fun _ _ => rfl
  rw [hadd, hstate, List.append_nil] at hp
  exact hp

theorem mem_factsOf {calls : List Call} {t : Table} {fact : Fact} :
    fact ∈ factsOf calls t ↔ .state t fact ∈ calls := by
  unfold factsOf
  rw [List.mem_filterMap]
  constructor
  · rintro ⟨c, hc, h⟩
    cases c with
    | add u => cases h
    | state u f =>
      by_cases hut : u = t
      · simp only [Call.factAbout?, hut, if_true, Option.some.injEq] at h
        rw [← hut, ← h]
        exact hc
      · simp [Call.factAbout?, hut] at h
  · intro h
    exact ⟨_, h, by simp [Call.factAbout?]⟩

theorem OrderOf.mem_facts {tables : List Table} {facts : List (Table × Fact)} {calls : List Call}
    (h : OrderOf tables facts calls) {t : Table} {fact : Fact} (hf : fact ∈ factsOf calls t) :
    (t, fact) ∈ facts := by
  rcases List.mem_append.mp (h.perm.mem_iff.mp (mem_factsOf.mp hf)) with hc | hc
  · obtain ⟨u, _, hu⟩ := List.mem_map.mp hc
    cases hu
  · obtain ⟨p, hp, hc⟩ := List.mem_map.mp hc
    cases hc
    exact hp

theorem eq_of_length_le_one {l : List α} (h : l.length ≤ 1) {x y : α} (hx : x ∈ l) (hy : y ∈ l) :
    x = y := by
  rcases l with _ | ⟨a, _ | ⟨b, l⟩⟩
  · cases hx
  · rw [List.mem_singleton.mp hx, List.mem_singleton.mp hy]
  · simp at h

section

variable {d : Dialect} {tables : List Table} {facts : List (Table × Fact)}
  {calls calls' : List Call}

/-- A table has the same columns and the same primary key after either order. -/
theorem settled_alike
    (hone : ∀ t, (facts.filter (fun p => p.1 = t ∧ p.2.isPrimaryKey)).length ≤ 1)
    (h : OrderOf tables facts calls) (h' : OrderOf tables facts calls') (n m : Nat) (t : Table) :
    Alike (settled calls n t) (settled calls' m t) := by
  have hperm : (factsOf calls t).Perm (factsOf calls' t) :=
    (h.perm.trans h'.perm.symm).filterMap (Call.factAbout? t)
  refine ⟨(settled_ref calls n t).trans (settled_ref calls' m t).symm, ?_, ?_⟩
  · exact foldl_withFact_columns_perm hperm (t.putAt n) (t.putAt m) rfl
  · unfold settled
    rw [foldl_withFact_keyIndex, foldl_withFact_keyIndex]
    refine foldl_keyIndexAfter_perm hperm (fun f hf g hg hkf hkg => ?_) _
    have hsame : (t, f) = (t, g) := eq_of_length_le_one (hone t)
      (List.mem_filter.mpr ⟨h.mem_facts hf, by simp [hkf]⟩)
      (List.mem_filter.mpr ⟨h.mem_facts hg, by simp [hkg]⟩)
    exact (Prod.mk.inj hsame).2

theorem Session.After.map_tables {s : Session} (h : s.After d calls) {f g : Table → β}
    (hfg : ∀ n t, f (settled calls n t) = g t) :
    s.builder.tables.map f = (tablesOf calls).map g := by
  rw [h.tables]
  apply List.ext_getElem?
  intro n
  rw [List.getElem?_map, List.getElem?_mapIdx, List.getElem?_map]
  rcases (tablesOf calls)[n]? with _ | t
  · rfl
  · exact congrArg some (hfg n t)

/-- Identifiers tell tables apart. -/
theorem Session.After.eq_of_id {s : Session} (h : s.After d calls) :
    ∀ t ∈ s.builder.tables, ∀ u ∈ s.builder.tables, t.id = u.id → t = u := by
  intro t ht u hu hid
  rw [h.tables] at ht hu
  obtain ⟨n, hn, rfl⟩ := List.mem_mapIdx.mp ht
  obtain ⟨m, hm, rfl⟩ := List.mem_mapIdx.mp hu
  rw [settled_id, settled_id] at hid
  obtain rfl : n = m := eq_of_numbered_eq hid
  rfl

theorem OrderOf.after (hkeys : (tables.map (·.ref.key d)).Nodup) (h : OrderOf tables facts calls) :
    (Session.run d calls).After d calls :=
  after_run d h.inOrder ((h.tables_perm.map _).nodup_iff.mpr hkeys)

/-- What a reference names after one order has its like after the other. -/
theorem resolves_alike (hkeys : (tables.map (·.ref.key d)).Nodup)
    (hone : ∀ t, (facts.filter (fun p => p.1 = t ∧ p.2.isPrimaryKey)).length ≤ 1)
    (h : OrderOf tables facts calls) (h' : OrderOf tables facts calls') (r : TableRef) (t : Table)
    (ht : (Session.run d calls).builder.Resolves r t) :
    ∃ u, (Session.run d calls').builder.Resolves r u ∧ Alike t u := by
  have ha := h.after hkeys
  have ha' := h'.after hkeys
  obtain ⟨hmem, hkey⟩ := Builder.key_of_resolves ht
  rw [ha.tables] at hmem
  obtain ⟨n, hn, rfl⟩ := List.mem_mapIdx.mp hmem
  have hin : (tablesOf calls).get ⟨n, hn⟩ ∈ tablesOf calls' :=
    (h.tables_perm.trans h'.tables_perm.symm).mem_iff.mp (List.getElem_mem hn)
  obtain ⟨m, hm, hv⟩ := List.mem_iff_getElem.mp hin
  have hnodup : ((Session.run d calls').builder.tables.map
      (·.ref.key (Session.run d calls').builder.dialect)).Nodup := by
    rw [ha'.map_tables (g := (·.ref.key d)) (fun n t => by rw [settled_ref, ha'.dialect])]
    exact (h'.tables_perm.map _).nodup_iff.mpr hkeys
  refine ⟨settled calls' m (tablesOf calls)[n], ?_, settled_alike hone h h' n m _⟩
  rw [Builder.resolves_iff hnodup, ha'.tables, ha'.dialect, ← ha.dialect, ← hkey, settled_ref,
    settled_ref]
  refine ⟨List.mem_mapIdx.mpr ⟨m, hm, ?_⟩, rfl⟩
  rw [hv]
  rfl

end

/-- Tables with keys of their own and facts about them, with one primary key at most for a table,
lead to the same tables, the same columns and the same foreign keys in whatever order they come, if
only each fact comes behind its own table. -/
theorem facts_may_come_in_any_order (d : Dialect) {tables : List Table}
    {facts : List (Table × Fact)} {calls calls' : List Call}
    (hkeys : (tables.map (·.ref.key d)).Nodup)
    (hone : ∀ t, (facts.filter (fun p => p.1 = t ∧ p.2.isPrimaryKey)).length ≤ 1)
    (h : OrderOf tables facts calls) (h' : OrderOf tables facts calls') :
    let s := (Session.run d calls).builder.finish
    let s' := (Session.run d calls').builder.finish
    (∀ j, j ∈ s.relationships.map ForeignKey.join ↔ j ∈ s'.relationships.map ForeignKey.join) ∧
    (s.tables.map (·.ref)).Perm (tables.map (·.ref)) ∧
    (s.tables.map (fun t => (t.ref, t.columns))).Perm
      (s'.tables.map (fun t => (t.ref, t.columns))) := by
  have ha := h.after hkeys
  have ha' := h'.after hkeys
  have hpending : ∀ k, k ∈ (Session.run d calls).builder.pending ↔
      k ∈ (Session.run d calls').builder.pending := by
    rw [ha.pending, ha'.pending]
    exact fun k => ((h.perm.trans h'.perm.symm).filterMap Call.key?).mem_iff
  refine ⟨fun j => ?_, ?_, ?_⟩
  · rw [Builder.mem_joins_finish ha.relationships ha.eq_of_id,
      Builder.mem_joins_finish ha'.relationships ha'.eq_of_id]
    constructor
    · rintro ⟨k, hk, hj⟩
      exact ⟨k, (hpending k).mp hk, joins_linksFor_of_alike (resolves_alike hkeys hone h h') hj⟩
    · rintro ⟨k, hk, hj⟩
      exact ⟨k, (hpending k).mpr hk, joins_linksFor_of_alike (resolves_alike hkeys hone h' h) hj⟩
  · rw [Builder.finish_eq, ha.map_tables (settled_ref calls)]
    exact h.tables_perm.map _
  · -- the columns of a table are those after the first order, wherever the table stands
    let columnsOf (t : Table) : TableRef × List Column := (t.ref, (settled calls 0 t).columns)
    have hfirst (n : Nat) (t : Table) :
        ((settled calls n t).ref, (settled calls n t).columns) = columnsOf t := by
      rw [settled_ref, (settled_alike hone h h n 0 t).columns]
    have hsecond (n : Nat) (t : Table) :
        ((settled calls' n t).ref, (settled calls' n t).columns) = columnsOf t := by
      rw [settled_ref, (settled_alike hone h' h n 0 t).columns]
    rw [Builder.finish_eq, Builder.finish_eq, ha.map_tables hfirst, ha'.map_tables hsecond]
    exact (h.tables_perm.trans h'.tables_perm.symm).map columnsOf

/-! ## A forward reference -/

def orders : Table :=
  { name := "orders", schema := none, columns := [{ name := "user_id", type := "int" }] }

def users : Table :=
  { name := "users"
    schema := some "public"
    columns := [{ name := "id", type := "int" }, { name := "email", type := "text" }] }

/-- A key to the primary key of `users`, which is spelled in other letters. -/
def ordersToUsers : Fact := .foreignKey none ["user_id"] ⟨"Users", none⟩ [] none none

/-- The reference may stand before the table and the primary key that it needs. -/
theorem a_reference_may_come_first :
    let late := (Session.run .postgresql
      [.add users, .state users (.primaryKey none ["ID"]), .state users (.unique none ["email"]),
       .add orders, .state orders ordersToUsers]).builder.finish
    let early := (Session.run .postgresql
      [.add orders, .state orders ordersToUsers, .add users, .state users (.unique none ["email"]),
       .state users (.primaryKey none ["ID"])]).builder.finish
    late.relationships.length = 1 ∧
    (∀ j, j ∈ late.relationships.map ForeignKey.join ↔
      j ∈ early.relationships.map ForeignKey.join) ∧
    (late.tables.map (·.ref)).Perm [users.ref, orders.ref] ∧
    (late.tables.map (fun t => (t.ref, t.columns))).Perm
      (early.tables.map (fun t => (t.ref, t.columns))) := by
  have hone (t : Table) :
      ([(users, Fact.primaryKey none ["ID"]), (users, .unique none ["email"]),
        (orders, ordersToUsers)].filter (fun p => p.1 = t ∧ p.2.isPrimaryKey)).length ≤ 1 := by
    by_cases ht : users = t
    · simp [Fact.isPrimaryKey, ordersToUsers, ht]
    · simp [Fact.isPrimaryKey, ordersToUsers, ht]
  have hkeys : ([users, orders].map (·.ref.key .postgresql)).Nodup := by decide +kernel
  have hlate := InOrder.state orders ordersToUsers (.add orders (.state users
    (.unique none ["email"]) (.state users (.primaryKey none ["ID"]) (.add users .nil)
      (by decide)) (by decide))) (by decide)
  have hearly := InOrder.state users (.primaryKey none ["ID"]) (.state users
    (.unique none ["email"]) (.add users (.state orders ordersToUsers (.add orders .nil)
      (by decide))) (by decide)) (by decide)
  exact ⟨by decide +kernel, facts_may_come_in_any_order .postgresql hkeys hone
    ⟨by decide +kernel, hlate⟩ ⟨by decide +kernel, hearly⟩⟩

end SchemaChart.Schema
