-- The order of tables by what they depend on. The walk through a graph is done with every node
-- once, and if no node can be reached from itself, each node is done after all that its edges lead
-- to; so the tables come in an order in which every one stands behind those it depends on.
import Mathlib.Data.List.Nodup
import Mathlib.Data.List.Perm.Subperm
import Mathlib.Logic.Relation
import SchemaChart.Diagram.Dependency
import SchemaChart.Proofs.Names

namespace SchemaChart.Diagram.Graph

open Relation (TransGen)

/-! ## Edges -/

/-- Does an edge lead from one node to another. -/
def Leads (g : Graph) (u v : Nat) : Prop := (u, v) ∈ g.edges

/-- Do all edges run between nodes. -/
def Bounded (g : Graph) : Prop := ∀ u v, g.Leads u v → u < g.size ∧ v < g.size

/-- Can no node be reached from itself along edges. -/
def Acyclic (g : Graph) : Prop := ∀ u, ¬ TransGen g.Leads u u

variable {g : Graph} {u v : Nat}

theorem mem_successors : v ∈ g.successors u ↔ g.Leads u v := by
  unfold successors Leads
  simp only [List.mem_map, List.mem_filter, beq_iff_eq]
  constructor
  · rintro ⟨⟨a, b⟩, ⟨he, rfl⟩, rfl⟩
    exact he
  · intro he
    exact ⟨(u, v), ⟨he, rfl⟩, rfl⟩

/-! ## Orders of nodes -/

/-- Lists in which all that an edge leads to from a node stands behind the node. -/
def Settled (g : Graph) : List Nat → Prop
  | [] => True
  | u :: us => (∀ v, g.Leads u v → v ∈ us) ∧ Settled g us

theorem Settled.sublist {us : List Nat} (h : g.Settled us) (hu : u ∈ us) (huv : g.Leads u v) :
    [u, v].Sublist us := by
  induction us with
  | nil => cases hu
  | cons x us ih =>
    obtain ⟨hx, hus⟩ := h
    rcases List.mem_cons.mp hu with rfl | hu
    · exact (List.singleton_sublist.mpr (hx v huv)).cons_cons u
    · exact (ih hus hu).cons x

theorem idxOf_lt_of_sublist {α : Type*} [DecidableEq α] {l : List α} (hl : l.Nodup) {a b : α}
    (h : [a, b].Sublist l) : l.idxOf a < l.idxOf b := by
  induction l with
  | nil => cases h
  | cons x l ih =>
    obtain ⟨hx, hl⟩ := List.nodup_cons.mp hl
    cases h with
    | cons _ h =>
      have ha : x ≠ a := fun he => hx (he ▸ h.subset (by simp))
      have hb : x ≠ b := fun he => hx (he ▸ h.subset (by simp))
      rw [List.idxOf_cons_ne _ ha, List.idxOf_cons_ne _ hb]
      exact Nat.succ_lt_succ (ih hl h)
    | cons_cons _ h =>
      have hb : a ≠ b := fun he => hx (he ▸ List.singleton_sublist.mp h)
      rw [List.idxOf_cons_self, List.idxOf_cons_ne _ hb]
      exact Nat.succ_pos _

/-! ## Visits -/

namespace Walk

/-- Was a node met that the walk is not yet done with. -/
def Open (w : Walk) (u : Nat) : Prop := u ∈ w.met ∧ u ∉ w.done

/-- No node is met twice or done twice, and only nodes that were met are done. -/
structure Sound (g : Graph) (w : Walk) : Prop where
  met_nodup : w.met.Nodup
  bounded : ∀ u ∈ w.met, u < g.size
  done_nodup : w.done.Nodup
  done_met : ∀ u ∈ w.done, u ∈ w.met

theorem Sound.length_le {w : Walk} (h : w.Sound g) : w.met.length ≤ g.size := by
  have hsubset : w.met ⊆ List.range g.size := fun u hu => List.mem_range.mpr (h.bounded u hu)
  simpa using (h.met_nodup.subperm hsubset).length_le

/-- Meeting a node that was not met before. -/
theorem Sound.meet {w : Walk} (h : w.Sound g) (hu : u < g.size) (hfresh : u ∉ w.met) :
    Sound g { w with met := u :: w.met } where
  met_nodup := List.nodup_cons.mpr ⟨hfresh, h.met_nodup⟩
  bounded := List.forall_mem_cons.mpr ⟨hu, h.bounded⟩
  done_nodup := h.done_nodup
  done_met := fun x hx => List.mem_cons_of_mem u (h.done_met x hx)

/-- What a walk that goes on to some nodes leaves behind: they are met, and what was open before is
all that is open. -/
structure Trip (g : Graph) (w w' : Walk) (us : List Nat) : Prop where
  sound : w'.Sound g
  met : w.met ⊆ w'.met
  still : ∀ x, w'.Open x ↔ w.Open x
  reached : us ⊆ w'.met
  settled : g.Acyclic → (∀ x, w.Open x → ∀ u ∈ us, TransGen g.Leads x u) →
    g.Settled w.done → g.Settled w'.done

theorem Trip.stay {w : Walk} {us : List Nat} (h : w.Sound g) (hus : us ⊆ w.met) :
    Trip g w w us :=
  ⟨h, List.Subset.refl _, fun _ => Iff.rfl, hus, fun _ _ hw => hw⟩

theorem Trip.trans {w w' w'' : Walk} {us vs : List Nat} (h : Trip g w w' us)
    (h' : Trip g w' w'' vs) : Trip g w w'' (us ++ vs) where
  sound := h'.sound
  met := List.Subset.trans h.met h'.met
  still x := (h'.still x).trans (h.still x)
  reached := List.append_subset.mpr ⟨List.Subset.trans h.reached h'.met, h'.reached⟩
  settled hg hopen hw :=
    h'.settled hg
      (fun x hx u hu => hopen x ((h.still x).mp hx) u (List.mem_append_right us hu))
      (h.settled hg (fun x hx u hu => hopen x hx u (List.mem_append_left vs hu)) hw)

/-- Going to one node after the other, if going to each of them leaves enough of the bound. -/
theorem Trip.foldl {n : Nat}
    (hvisit : ∀ w u, w.Sound g → u < g.size → g.size < n + w.met.length →
      Trip g w (g.visit n w u) [u]) {us : List Nat} {w : Walk} (hw : w.Sound g)
    (hus : ∀ u ∈ us, u < g.size) (hn : g.size < n + w.met.length) :
    Trip g w (us.foldl (g.visit n) w) us := by
  induction us generalizing w with
  | nil => exact Trip.stay hw (List.nil_subset _)
  | cons u us ih =>
    have hfirst := hvisit w u hw (hus u List.mem_cons_self) hn
    have hlength := (hw.met_nodup.subperm hfirst.met).length_le
    exact hfirst.trans (ih hfirst.sound (fun v hv => hus v (List.mem_cons_of_mem u hv)) (by omega))

/-- Meeting a node, going to all that its edges lead to, and being done with it. -/
theorem Trip.around {w below : Walk} (hw : w.Sound g) (hu : u ∉ w.met)
    (h : Trip g { w with met := u :: w.met } below (g.successors u)) :
    Trip g w { below with done := u :: below.done } [u] := by
  have hopens : ∀ x, below.Open x ↔ x = u ∨ w.Open x := by
    intro x
    rw [h.still]
    unfold Open
    have hfresh : u ∉ w.done := fun hd => hu (hw.done_met u hd)
    constructor
    · rintro ⟨hmet, hdone⟩
      exact (List.mem_cons.mp hmet).imp_right fun hx => ⟨hx, hdone⟩
    · rintro (rfl | ⟨hmet, hdone⟩)
      · exact ⟨List.mem_cons_self, hfresh⟩
      · exact ⟨List.mem_cons_of_mem u hmet, hdone⟩
  have hself : below.Open u := (hopens u).mpr (.inl rfl)
  refine ⟨⟨h.sound.met_nodup, h.sound.bounded, ?_, ?_⟩, ?_, ?_, ?_, ?_⟩
  · exact List.nodup_cons.mpr ⟨hself.2, h.sound.done_nodup⟩
  · intro x hx
    rcases List.mem_cons.mp hx with rfl | hx
    · exact hself.1
    · exact h.sound.done_met x hx
  · exact fun x hx => h.met (List.mem_cons_of_mem u hx)
  · intro x
    have hx := hopens x
    unfold Open at hx ⊢
    simp only [List.mem_cons, not_or]
    constructor
    · rintro ⟨hmet, hne, hdone⟩
      exact (hx.mp ⟨hmet, hdone⟩).resolve_left hne
    · intro hopen
      obtain ⟨hmet, hdone⟩ := hx.mpr (.inr hopen)
      exact ⟨hmet, fun he => hu (he ▸ hopen.1), hdone⟩
  · simpa using hself.1
  · intro hg hopen hsettled
    -- all that is open leads to `u`, so that an edge from `u` to one of them would close a circle
    have hback : ∀ x, below.Open x → x = u ∨ TransGen g.Leads x u := fun x hx =>
      ((hopens x).mp hx).imp_right fun hx => hopen x hx u (List.mem_singleton_self u)
    refine ⟨fun v huv => ?_, h.settled hg (fun x hx v hv => ?_) hsettled⟩
    · by_contra hv
      have hopenv : below.Open v := ⟨h.reached (mem_successors.mpr huv), hv⟩
      rcases hback v hopenv with rfl | hvu
      · exact hg v (.single huv)
      · exact hg v (hvu.tail huv)
    · have huv := mem_successors.mp hv
      rcases hback x ((h.still x).mpr hx) with rfl | hxu
      · exact .single huv
      · exact hxu.tail huv

end Walk

open Walk (Sound Trip)

/-- A visit with enough of the bound left goes to its node. -/
theorem visit_trip (hg : g.Bounded) (n : Nat) {w : Walk} (hw : w.Sound g) (hu : u < g.size)
    (hn : g.size < n + w.met.length) : Trip g w (g.visit n w u) [u] := by
  induction n generalizing w u with
  | zero =>
    have hlength := hw.length_le
    omega
  | succ n ih =>
    unfold visit
    split
    · rename_i hmet
      exact Trip.stay hw (by simpa using hmet)
    · rename_i hmet
      have hfresh : u ∉ w.met := fun h => hmet (List.contains_iff_mem.mpr h)
      have hmeet := hw.meet hu hfresh
      have hbound : g.size < n + (u :: w.met).length := by
        rw [List.length_cons]
        omega
      have hnext : ∀ v ∈ g.successors u, v < g.size := fun v hv => (hg u v (mem_successors.mp hv)).2
      exact Trip.around hw hfresh (Trip.foldl (fun w v hw hv hn => ih hw hv hn) hmeet hnext hbound)

/-! ## The whole walk -/

theorem walk_trip (hg : g.Bounded) : Trip g {} g.walk (List.range g.size) := by
  have hstart : Sound g {} := ⟨List.nodup_nil, by simp, List.nodup_nil, by simp⟩
  exact Trip.foldl (fun w u hw hu hn => visit_trip hg (g.size + 1) hw hu hn) hstart
    (fun u hu => List.mem_range.mp hu) (by simp)

/-- The walk is done with every node, and with each of them once. -/
theorem walk_done_perm (hg : g.Bounded) : g.walk.done.Perm (List.range g.size) := by
  have htrip := walk_trip hg
  refine (List.perm_ext_iff_of_nodup htrip.sound.done_nodup List.nodup_range).mpr fun u => ?_
  constructor
  · intro hu
    exact List.mem_range.mpr (htrip.sound.bounded u (htrip.sound.done_met u hu))
  · intro hu
    by_contra hdone
    have hopen := (htrip.still u).mp ⟨htrip.reached hu, hdone⟩
    cases hopen.1

theorem walk_done_settled (hg : g.Bounded) (hacyclic : g.Acyclic) : g.Settled g.walk.done :=
  (walk_trip hg).settled hacyclic (fun _ hx => by cases hx.1) trivial

/-! ## Orders that are found -/

theorem order?_eq_some {us : List Nat} (h : g.order? = some us) :
    us = g.walk.done ∧ ∀ u v, g.Leads u v → us.idxOf u < us.idxOf v := by
  unfold order? at h
  dsimp only at h
  split at h
  · rename_i hordered
    obtain rfl := Option.some.inj h
    refine ⟨rfl, fun u v huv => ?_⟩
    simpa using List.all_eq_true.mp hordered (u, v) huv
  · cases h

/-- An order is found just if no node can be reached from itself. -/
theorem order?_isSome_iff (hg : g.Bounded) : g.order?.isSome = true ↔ g.Acyclic := by
  constructor
  · intro h u hcircle
    obtain ⟨us, hus⟩ := Option.isSome_iff_exists.mp h
    have hleads := (order?_eq_some hus).2
    have hlater : ∀ v, TransGen g.Leads u v → us.idxOf u < us.idxOf v := by
      intro v huv
      induction huv with
      | single huv => exact hleads _ _ huv
      | tail _ huv ih => exact Nat.lt_trans ih (hleads _ _ huv)
    exact Nat.lt_irrefl _ (hlater u hcircle)
  · intro hacyclic
    have hnodup := (walk_trip hg).sound.done_nodup
    have hordered : g.ordered g.walk.done = true := by
      refine List.all_eq_true.mpr fun e he => ?_
      have hmem : e.1 ∈ g.walk.done :=
        (walk_done_perm hg).mem_iff.mpr (List.mem_range.mpr (hg e.1 e.2 he).1)
      have hsublist := (walk_done_settled hg hacyclic).sublist hmem he
      simpa using idxOf_lt_of_sublist hnodup hsublist
    unfold order?
    simp [hordered]

end SchemaChart.Diagram.Graph

namespace SchemaChart.Diagram

open SchemaChart.Diagram.Graph
open Relation (TransGen)

/-! ## Tables that depend on each other -/

/-- Does no table share its identifier with another one. -/
def DistinctIds (d : Diagram) : Prop := (d.tables.map (·.id)).Nodup

/-- Does a relationship put a key on one table that refers to another table of the diagram. -/
structure DependsOn (d : Diagram) (holder referenced : Table) : Prop where
  holder_mem : holder ∈ d.tables
  referenced_mem : referenced ∈ d.tables
  distinct : holder.id ≠ referenced.id
  key : ∃ r ∈ d.relationships, ∃ a b, r.key? = some (a, b) ∧
    a.tableId = holder.id ∧ b.tableId = referenced.id

/-- Does no chain of references lead from a table back to it. -/
def NoCircle (refers : Table → Table → Prop) : Prop := ∀ t, ¬ TransGen refers t t

variable {d : Diagram}

theorem DistinctIds.eq (h : d.DistinctIds) {t u : Table} (ht : t ∈ d.tables) (hu : u ∈ d.tables)
    (hid : t.id = u.id) : t = u :=
  List.inj_on_of_nodup_map h ht hu hid

theorem DistinctIds.tableById? (h : d.DistinctIds) {t : Table} (ht : t ∈ d.tables) :
    d.tableById? t.id = some t :=
  find?_eq_of_unique ht (beq_self_eq_true _) fun _ hu hid => h.eq hu ht (beq_iff_eq.mp hid)

/-! ## Nodes and edges -/

theorem getElem?_of_node? {id : String} {i : Nat} (h : d.node? id = some i) :
    ∃ t, d.tables[i]? = some t ∧ t.id = id := by
  unfold node? at h
  obtain ⟨k, hk, rfl⟩ := Option.map_eq_some_iff.mp h
  obtain ⟨hlt, hid, -⟩ := List.findIdx?_eq_some_iff_getElem.mp hk
  rw [List.getElem_reverse] at hid
  exact ⟨_, List.getElem?_eq_getElem _, by simpa using hid⟩

theorem node?_eq_some_iff (h : d.DistinctIds) {id : String} {i : Nat} :
    d.node? id = some i ↔ ∃ t, d.tables[i]? = some t ∧ t.id = id := by
  refine ⟨getElem?_of_node?, ?_⟩
  rintro ⟨t, ht, rfl⟩
  rcases hj : d.node? t.id with _ | j
  · unfold node? at hj
    rw [Option.map_eq_none_iff, List.findIdx?_eq_none_iff] at hj
    have hnone := hj t (List.mem_reverse.mpr (List.mem_of_getElem? ht))
    simp at hnone
  · obtain ⟨u, hu, hid⟩ := getElem?_of_node? hj
    obtain ⟨hlt, -⟩ := List.getElem?_eq_some_iff.mp hu
    have hsame : (d.tables.map (·.id))[j]? = (d.tables.map (·.id))[i]? := by
      simp [hu, ht, hid]
    rw [(List.getElem?_inj (by simpa using hlt) h).mp hsame]

theorem edge?_eq_some_iff {r : Relationship} {i j : Nat} :
    d.edge? r = some (i, j) ↔ ∃ a b, r.key? = some (a, b) ∧ a.tableId ≠ b.tableId ∧
      d.node? b.tableId = some i ∧ d.node? a.tableId = some j := by
  unfold edge?
  rcases r.key? with _ | ⟨a, b⟩
  · simp
  · by_cases hid : a.tableId = b.tableId
    · simp [hid]
    · simp [hid, Option.bind_eq_some_iff]

theorem mem_foldl_distinct {α : Type*} [BEq α] [LawfulBEq α] {x : α} (xs ys : List α) :
    x ∈ xs.foldl (fun es e => if es.contains e then es else es ++ [e]) ys ↔ x ∈ ys ∨ x ∈ xs := by
  induction xs generalizing ys with
  | nil => simp
  | cons e xs ih =>
    rw [List.foldl_cons, ih]
    split
    · rename_i he
      have he : e ∈ ys := List.contains_iff_mem.mp he
      grind
    · simp [or_assoc]

/-- The edges of the graph run from the tables that are referred to, to those that depend on
them. -/
theorem leads_iff (h : d.DistinctIds) {i j : Nat} :
    d.dependencies.Leads i j ↔
      ∃ t u, d.tables[i]? = some t ∧ d.tables[j]? = some u ∧ d.DependsOn u t := by
  unfold Leads dependencies
  dsimp only
  rw [mem_foldl_distinct]
  simp only [List.not_mem_nil, false_or, List.mem_filterMap, edge?_eq_some_iff,
    node?_eq_some_iff h]
  constructor
  · rintro ⟨r, hr, a, b, hkey, hne, ⟨t, ht, hbt⟩, u, hu, hau⟩
    have hdistinct : u.id ≠ t.id := by rwa [hbt, hau]
    exact ⟨t, u, ht, hu, List.mem_of_getElem? hu, List.mem_of_getElem? ht, hdistinct,
      r, hr, a, b, hkey, hau.symm, hbt.symm⟩
  · rintro ⟨t, u, ht, hu, -, -, hdistinct, r, hr, a, b, hkey, hau, hbt⟩
    exact ⟨r, hr, a, b, hkey, by rwa [hau, hbt], ⟨t, ht, hbt.symm⟩, u, hu, hau.symm⟩

theorem dependencies_bounded (h : d.DistinctIds) : d.dependencies.Bounded := by
  intro i j hij
  obtain ⟨t, u, ht, hu, -⟩ := (leads_iff h).mp hij
  exact ⟨(List.getElem?_eq_some_iff.mp ht).1, (List.getElem?_eq_some_iff.mp hu).1⟩

/-- Every edge is a dependency of the tables at its ends, read backwards. -/
theorem leads_lift (h : d.DistinctIds) : d.dependencies.Leads ≤
    Function.onFun (Function.swap d.DependsOn) fun i => (d.tables[i]?).getD default := by
  intro i j hij
  obtain ⟨t, u, ht, hu, hdepends⟩ := (leads_iff h).mp hij
  simpa [Function.onFun, Function.swap, ht, hu] using hdepends

theorem dependsOn_lift (h : d.DistinctIds) : d.DependsOn ≤
    Function.onFun (Function.swap d.dependencies.Leads) fun t => (d.node? t.id).getD 0 := by
  intro u t hut
  obtain ⟨i, hi⟩ := List.mem_iff_getElem?.mp hut.referenced_mem
  obtain ⟨j, hj⟩ := List.mem_iff_getElem?.mp hut.holder_mem
  have hnodei := (node?_eq_some_iff h).mpr ⟨t, hi, rfl⟩
  have hnodej := (node?_eq_some_iff h).mpr ⟨u, hj, rfl⟩
  simp only [Function.onFun, Function.swap, hnodei, hnodej, Option.getD_some]
  exact (leads_iff h).mpr ⟨t, u, hi, hj, hut⟩

theorem dependencies_acyclic_iff (h : d.DistinctIds) :
    d.dependencies.Acyclic ↔ NoCircle d.DependsOn := by
  constructor
  · intro hg t ht
    exact hg _ (Relation.transGen_swap.mp (TransGen.lift _ (dependsOn_lift h) _ _ ht))
  · intro hd i hi
    exact hd _ (Relation.transGen_swap.mp (TransGen.lift _ (leads_lift h) _ _ hi))

/-! ## The order of the tables -/

theorem filterMap_range_getElem? {α : Type*} (l : List α) :
    (List.range l.length).filterMap (l[·]?) = l := by
  induction l with
  | nil => rfl
  | cons x l ih =>
    simp [List.range_succ_eq_map, List.filterMap_map, ih]

theorem dependencyOrder_eq (h : d.DistinctIds) :
    d.dependencyOrder =
      (d.dependencies.order?.map (·.filterMap (d.tables[·]?))).getD d.tables := by
  have hfind : ∀ i : Nat, (d.tables[i]?).bind (fun t => d.tableById? t.id) = d.tables[i]? := by
    intro i
    rcases ht : d.tables[i]? with _ | t
    · rfl
    · exact h.tableById? (List.mem_of_getElem? ht)
  unfold dependencyOrder
  rcases d.dependencies.order? with _ | order
  · rfl
  · simp [hfind]

/-- Every table is there, once. -/
theorem dependencyOrder_perm (h : d.DistinctIds) : d.dependencyOrder.Perm d.tables := by
  rw [dependencyOrder_eq h]
  rcases horder : d.dependencies.order? with _ | order
  · exact List.Perm.refl _
  · have hwalk := walk_done_perm (dependencies_bounded h)
    rw [← (order?_eq_some horder).1] at hwalk
    have hperm := hwalk.filterMap (d.tables[·]?)
    have hsize : d.dependencies.size = d.tables.length := rfl
    rwa [hsize, filterMap_range_getElem?] at hperm

/-- A table stands behind those it depends on, if no table depends on itself. -/
theorem dependencyOrder_sublist (h : d.DistinctIds) (hcircle : NoCircle d.DependsOn) {t u : Table}
    (hut : d.DependsOn u t) : [t, u].Sublist d.dependencyOrder := by
  have hacyclic := (dependencies_acyclic_iff h).mpr hcircle
  have hbounded := dependencies_bounded h
  obtain ⟨order, horder⟩ :=
    Option.isSome_iff_exists.mp ((order?_isSome_iff hbounded).mpr hacyclic)
  obtain ⟨i, hi⟩ := List.mem_iff_getElem?.mp hut.referenced_mem
  obtain ⟨j, hj⟩ := List.mem_iff_getElem?.mp hut.holder_mem
  have hleads := (leads_iff h).mpr ⟨t, u, hi, hj, hut⟩
  have hmem : i ∈ d.dependencies.walk.done :=
    (walk_done_perm hbounded).mem_iff.mpr (List.mem_range.mpr (hbounded i j hleads).1)
  have hsublist := (walk_done_settled hbounded hacyclic).sublist hmem hleads
  have htables := hsublist.filterMap (d.tables[·]?)
  rw [dependencyOrder_eq h, horder, (order?_eq_some horder).1]
  simpa [hi, hj] using htables

/-- If tables depend on each other in a circle, all of them come as they are declared. -/
theorem dependencyOrder_of_circle (h : d.DistinctIds) (hcircle : ¬ NoCircle d.DependsOn) :
    d.dependencyOrder = d.tables := by
  have hnone : d.dependencies.order? = none := by
    rw [← Option.not_isSome_iff_eq_none, order?_isSome_iff (dependencies_bounded h),
      dependencies_acyclic_iff h]
    exact hcircle
  rw [dependencyOrder_eq h, hnone]
  rfl

/-- Whether tables depend on each other in a circle can be found out by looking for an order. -/
theorem noCircle_iff (h : d.DistinctIds) :
    NoCircle d.DependsOn ↔ d.dependencies.order?.isSome = true := by
  rw [order?_isSome_iff (dependencies_bounded h), dependencies_acyclic_iff h]

/-- Every table of a diagram is in the order once, and nothing else is. If the keys lead in no
circle, each table stands behind those that it holds keys to; otherwise the tables come as they are
declared. -/
theorem tables_stand_behind_those_they_depend_on (d : Diagram) (h : d.DistinctIds) :
    d.dependencyOrder.Nodup ∧ (∀ t, t ∈ d.dependencyOrder ↔ t ∈ d.tables) ∧
      (NoCircle d.DependsOn → ∀ holder referenced, d.DependsOn holder referenced →
        d.dependencyOrder.idxOf referenced < d.dependencyOrder.idxOf holder) ∧
      (¬ NoCircle d.DependsOn → d.dependencyOrder = d.tables) := by
  have hperm := dependencyOrder_perm h
  have hnodup : d.dependencyOrder.Nodup := hperm.nodup_iff.mpr h.of_map
  refine ⟨hnodup, fun t => hperm.mem_iff, ?_, dependencyOrder_of_circle h⟩
  intro hcircle holder referenced hdepends
  exact idxOf_lt_of_sublist hnodup (dependencyOrder_sublist h hcircle hdepends)

/-! ## A lending library -/

def libraryTable (id : String) : Table :=
  { id := id, name := id, color := ""
    fields := [{ id := id, name := "id", type := .named "integer" }] }

/-- A key of one table of the library that refers to another one. -/
def libraryKey (id holder referenced : String) : Relationship :=
  { id := id, name := id, sourceTableId := holder, sourceFieldId := holder
    targetTableId := referenced, targetFieldId := referenced
    sourceCardinality := .many, targetCardinality := .one }

/-- A loan refers to its book twice, and to a desk that is no table; a book refers to its author,
with the sides of the relationship changed, and to the volume before it; and members mark books,
which needs no key. -/
def lendingLibrary : Diagram :=
  { id := "d"
    name := "library"
    dialect := .postgresql
    tables := ["loans", "books", "members", "authors"].map libraryTable
    relationships :=
      [libraryKey "loan_book" "loans" "books", libraryKey "loan_copy" "loans" "books",
        { libraryKey "book_author" "authors" "books" with
          sourceCardinality := .one, targetCardinality := .many },
        libraryKey "book_before" "books" "books",
        { libraryKey "marks" "members" "books" with targetCardinality := .many },
        libraryKey "loan_desk" "loans" "desks"] }

/-- The library where authors also refer to a loan. -/
def circularLibrary : Diagram :=
  { lendingLibrary with
    relationships := lendingLibrary.relationships ++ [libraryKey "author_loan" "authors" "loans"] }

theorem books_stand_between_authors_and_loans :
    lendingLibrary.DistinctIds ∧ NoCircle lendingLibrary.DependsOn ∧
      lendingLibrary.dependencyOrder.idxOf (libraryTable "authors") <
        lendingLibrary.dependencyOrder.idxOf (libraryTable "books") ∧
      lendingLibrary.dependencyOrder.idxOf (libraryTable "books") <
        lendingLibrary.dependencyOrder.idxOf (libraryTable "loans") ∧
      circularLibrary.DistinctIds ∧ ¬ NoCircle circularLibrary.DependsOn ∧
      circularLibrary.dependencyOrder = circularLibrary.tables := by
  have hids : lendingLibrary.DistinctIds := by
    unfold DistinctIds
    decide +kernel
  have hcircle : NoCircle lendingLibrary.DependsOn := (noCircle_iff hids).mpr (by decide +kernel)
  have hbooks : lendingLibrary.DependsOn (libraryTable "books") (libraryTable "authors") :=
    ⟨by decide +kernel, by decide +kernel, by decide, _, List.getElem_mem (n := 2) (by decide),
      _, _, rfl, rfl, rfl⟩
  have hloans : lendingLibrary.DependsOn (libraryTable "loans") (libraryTable "books") :=
    ⟨by decide +kernel, by decide +kernel, by decide, _, List.getElem_mem (n := 1) (by decide),
      _, _, rfl, rfl, rfl⟩
  have hids' : circularLibrary.DistinctIds := hids
  have hcircle' : ¬ NoCircle circularLibrary.DependsOn := by
    rw [noCircle_iff hids']
    decide +kernel
  obtain ⟨-, -, hbehind, -⟩ := tables_stand_behind_those_they_depend_on lendingLibrary hids
  obtain ⟨-, -, -, hdeclared⟩ := tables_stand_behind_those_they_depend_on circularLibrary hids'
  exact ⟨hids, hcircle, hbehind hcircle _ _ hbooks, hbehind hcircle _ _ hloans, hids', hcircle',
    hdeclared hcircle'⟩

end SchemaChart.Diagram
