-- Circles of tables. A visit meets exactly what can be reached from its node, so two tables are in
-- a common circle just if each depends on the other, directly or through others; and a key closes a
-- circle just if it brings its own two tables into one.
import SchemaChart.Proofs.Dependency

namespace SchemaChart.Diagram.Graph

open Relation (ReflTransGen)
open Walk (Sound Trip)

variable {g : Graph} {u v x : Nat} {n : Nat} {w : Walk}

/-! ## What a visit meets -/

theorem mem_foldl_visit
    (hvisit : ∀ (w : Walk) (u : Nat), x ∈ (g.visit n w u).met →
      x ∈ w.met ∨ ReflTransGen g.Leads u x) {us : List Nat}
    (hx : x ∈ (us.foldl (g.visit n) w).met) :
    x ∈ w.met ∨ ∃ u ∈ us, ReflTransGen g.Leads u x := by
  induction us generalizing w with
  | nil => exact .inl hx
  | cons u us ih =>
    rcases ih hx with hx | ⟨v, hv, hvx⟩
    · exact (hvisit w u hx).imp_right fun hux => ⟨u, List.mem_cons_self, hux⟩
    · exact .inr ⟨v, List.mem_cons_of_mem u hv, hvx⟩

/-- A visit meets nothing but what can be reached from its node. -/
theorem mem_visit (hx : x ∈ (g.visit n w u).met) : x ∈ w.met ∨ ReflTransGen g.Leads u x := by
  induction n generalizing w u with
  | zero => exact .inl hx
  | succ n ih =>
    unfold visit at hx
    split at hx
    · exact .inl hx
    · rcases mem_foldl_visit (fun w u => ih) hx with hx | ⟨v, hv, hvx⟩
      · rcases List.mem_cons.mp hx with rfl | hx
        · exact .inr .refl
        · exact .inl hx
      · exact .inr (.head (mem_successors.mp hv) hvx)

/-- Was all met that an edge leads to from a node which the walk is done with. -/
def Walk.Spread (g : Graph) (w : Walk) : Prop := ∀ u ∈ w.done, ∀ v, g.Leads u v → v ∈ w.met

theorem spread_foldl (hg : g.Bounded)
    (hvisit : ∀ (w : Walk) (u : Nat), w.Sound g → u < g.size → g.size < n + w.met.length →
      w.Spread g → (g.visit n w u).Spread g) {us : List Nat} (hw : w.Sound g)
    (hus : ∀ u ∈ us, u < g.size) (hn : g.size < n + w.met.length) (h : w.Spread g) :
    (us.foldl (g.visit n) w).Spread g := by
  induction us generalizing w with
  | nil => exact h
  | cons u us ih =>
    have hu : u < g.size := hus u List.mem_cons_self
    have htrip := visit_trip hg n hw hu hn
    have hlength := (hw.met_nodup.subperm htrip.met).length_le
    exact ih htrip.sound (fun v hv => hus v (List.mem_cons_of_mem u hv)) (by omega)
      (hvisit w u hw hu hn h)

theorem spread_visit (hg : g.Bounded) (hw : w.Sound g) (hu : u < g.size)
    (hn : g.size < n + w.met.length) (h : w.Spread g) : (g.visit n w u).Spread g := by
  induction n generalizing w u with
  | zero =>
    have hlength := hw.length_le
    omega
  | succ n ih =>
    unfold visit
    split
    · exact h
    · rename_i hmet
      have hfresh : u ∉ w.met := fun hu => hmet (List.contains_iff_mem.mpr hu)
      have hmeet := hw.meet hu hfresh
      have hbound : g.size < n + (u :: w.met).length := by
        rw [List.length_cons]
        omega
      have hnext : ∀ v ∈ g.successors u, v < g.size := fun v hv => (hg u v (mem_successors.mp hv)).2
      have hwide : Walk.Spread g { w with met := u :: w.met } := fun x hx y hxy =>
        List.mem_cons_of_mem u (h x hx y hxy)
      have hbelow := spread_foldl hg (fun w u hw hu hn h => ih hw hu hn h) hmeet hnext hbound hwide
      have htrip := Trip.foldl (fun w v hw hv hn => visit_trip hg n hw hv hn) hmeet hnext hbound
      intro x hx y hxy
      rcases List.mem_cons.mp hx with rfl | hx
      · exact htrip.reached (mem_successors.mpr hxy)
      · exact hbelow x hx y hxy

/-- A visit that starts a walk meets all that can be reached. -/
theorem mem_visit_iff (hg : g.Bounded) (hu : u < g.size) :
    v ∈ (g.visit (g.size + 1) {} u).met ↔ ReflTransGen g.Leads u v := by
  have hstart : Sound g {} := ⟨List.nodup_nil, by simp, List.nodup_nil, by simp⟩
  have htrip := visit_trip hg (g.size + 1) hstart hu (by simp)
  have hspread := spread_visit (n := g.size + 1) hg hstart hu (by simp) (by simp [Walk.Spread])
  constructor
  · intro hv
    exact (mem_visit hv).resolve_left (by simp)
  · intro huv
    induction huv with
    | refl => exact htrip.reached (List.mem_singleton_self u)
    | @tail x y _ hxy ih =>
      -- nothing was open before the walk, so the visit is done with all that it met
      have hdone : x ∈ (g.visit (g.size + 1) {} u).done := by
        by_contra hx
        have hopen := (htrip.still x).mp ⟨ih, hx⟩
        cases hopen.1
      exact hspread x hdone y hxy

theorem reaches_iff (hg : g.Bounded) (hu : u < g.size) :
    g.reaches u v = true ↔ ReflTransGen g.Leads u v := by
  unfold reaches
  rw [Bool.or_eq_true, beq_iff_eq, List.contains_iff_mem, mem_visit_iff hg hu]
  constructor
  · rintro (rfl | huv)
    · exact .refl
    · exact huv
  · exact .inr

/-! ## Components -/

/-- Can each of two nodes be reached from the other. -/
def Mutual (g : Graph) (u v : Nat) : Prop := ReflTransGen g.Leads u v ∧ ReflTransGen g.Leads v u

theorem Mutual.refl (u : Nat) : g.Mutual u u := ⟨.refl, .refl⟩

theorem Mutual.symm (h : g.Mutual u v) : g.Mutual v u := And.symm h

theorem Mutual.trans (h : g.Mutual u v) (h' : g.Mutual v x) : g.Mutual u x :=
  ⟨h.1.trans h'.1, h'.2.trans h.2⟩

theorem mem_component (hg : g.Bounded) (hu : u < g.size) :
    v ∈ g.component u ↔ v < g.size ∧ g.Mutual u v := by
  unfold component Mutual
  rw [List.mem_filter, List.mem_range, Bool.and_eq_true]
  refine and_congr_right fun hv => ?_
  rw [reaches_iff hg hu, reaches_iff hg hv]

theorem component_eq (hg : g.Bounded) (hu : u < g.size) (hv : v < g.size) (h : g.Mutual u v) :
    g.component u = g.component v := by
  refine List.filter_congr fun x hx => ?_
  have hx := List.mem_range.mp hx
  rw [Bool.eq_iff_iff]
  simp only [Bool.and_eq_true, reaches_iff hg hu, reaches_iff hg hv, reaches_iff hg hx]
  exact ⟨h.symm.trans, h.trans⟩

theorem component_nodup (g : Graph) (u : Nat) : (g.component u).Nodup := List.nodup_range.filter _

/-- The groups are the components of more than one node, each found from its first node. -/
theorem mem_cycles {c : List Nat} :
    c ∈ g.cycles ↔ ∃ u, u < g.size ∧ (g.component u).head? = some u ∧ g.component u = c ∧
      1 < c.length := by
  unfold cycles
  simp only [List.mem_filterMap, List.mem_filter, List.mem_range, beq_iff_eq]
  constructor
  · rintro ⟨u, ⟨hu, hhead⟩, hc⟩
    split at hc
    · rename_i hlength
      obtain rfl := Option.some.inj hc
      exact ⟨u, hu, hhead, rfl, hlength⟩
    · cases hc
  · rintro ⟨u, hu, hhead, rfl, hlength⟩
    exact ⟨u, ⟨hu, hhead⟩, if_pos hlength⟩

/-- No node is in two groups. -/
theorem cycles_disjoint (hg : g.Bounded) : g.cycles.Pairwise List.Disjoint := by
  refine List.pairwise_filterMap.mpr ?_
  refine List.Pairwise.imp_of_mem ?_ (List.nodup_range.filter _)
  intro u v hu hv hne c hc c' hc' x hx hx'
  obtain ⟨hu, huhead⟩ := List.mem_filter.mp hu
  obtain ⟨hv, hvhead⟩ := List.mem_filter.mp hv
  have hu := List.mem_range.mp hu
  have hv := List.mem_range.mp hv
  obtain rfl : g.component u = c := by grind
  obtain rfl : g.component v = c' := by grind
  obtain ⟨-, hux⟩ := (mem_component hg hu).mp hx
  obtain ⟨-, hvx⟩ := (mem_component hg hv).mp hx'
  rw [component_eq hg hu hv (hux.trans hvx.symm)] at huhead
  exact hne (Option.some.inj ((beq_iff_eq.mp huhead).symm.trans (beq_iff_eq.mp hvhead)))

/-- Two nodes are in a common group just if each can be reached from the other. -/
theorem common_cycle_iff (hg : g.Bounded) (hu : u < g.size) (hv : v < g.size) (hne : u ≠ v) :
    (∃ c ∈ g.cycles, u ∈ c ∧ v ∈ c) ↔ g.Mutual u v := by
  constructor
  · rintro ⟨c, hc, huc, hvc⟩
    obtain ⟨x, hx, -, rfl, -⟩ := mem_cycles.mp hc
    obtain ⟨-, hxu⟩ := (mem_component hg hx).mp huc
    obtain ⟨-, hxv⟩ := (mem_component hg hx).mp hvc
    exact hxu.symm.trans hxv
  · intro huv
    have hself : u ∈ g.component u := (mem_component hg hu).mpr ⟨hu, .refl u⟩
    have hother : v ∈ g.component u := (mem_component hg hu).mpr ⟨hv, huv⟩
    have hlength : 1 < (g.component u).length := by
      have hpair : [u, v].Subperm (g.component u) := by
        refine List.Nodup.subperm (by simp [hne]) ?_
        simp [hself, hother]
      exact hpair.length_le
    -- the group is found from the first node of the component
    obtain ⟨x, hx⟩ := Option.isSome_iff_exists.mp (List.isSome_head?.mpr (List.ne_nil_of_mem hself))
    obtain ⟨hxsize, hux⟩ := (mem_component hg hu).mp (List.mem_of_mem_head? hx)
    have hsame := component_eq hg hu hxsize hux
    have hcycle : g.component u ∈ g.cycles :=
      mem_cycles.mpr ⟨x, hxsize, hsame ▸ hx, hsame.symm, hlength⟩
    exact ⟨g.component u, hcycle, hself, hother⟩

end SchemaChart.Diagram.Graph

namespace SchemaChart.Diagram

open SchemaChart.Diagram.Graph
open Relation (ReflTransGen)

variable {d : Diagram} {t u : Table} {i j : Nat}

/-! ## Tables that depend on each other -/

/-- Along edges from one table to another run the chains of references back from it. -/
theorem chain_iff (h : d.DistinctIds) (hi : d.tables[i]? = some t) (hj : d.tables[j]? = some u) :
    ReflTransGen d.dependencies.Leads i j ↔ ReflTransGen d.DependsOn u t := by
  constructor
  · intro hij
    have hchain := Relation.reflTransGen_swap.mp (ReflTransGen.lift _ (leads_lift h) _ _ hij)
    simpa [hi, hj] using hchain
  · intro hut
    have hnodei := (node?_eq_some_iff h).mpr ⟨t, hi, rfl⟩
    have hnodej := (node?_eq_some_iff h).mpr ⟨u, hj, rfl⟩
    have hchain := Relation.reflTransGen_swap.mp (ReflTransGen.lift _ (dependsOn_lift h) _ _ hut)
    simpa [hnodei, hnodej] using hchain

/-- Are two tables in a common circle. -/
def InCircle (d : Diagram) (t u : Table) : Prop := ∃ c ∈ d.circles, t.id ∈ c ∧ u.id ∈ c

/-- The identifiers of the tables at some nodes. -/
theorem mem_ids_iff (h : d.DistinctIds) (hi : d.tables[i]? = some t) {c : List Nat} :
    t.id ∈ c.filterMap (fun i => (d.tables[i]?).map (·.id)) ↔ i ∈ c := by
  rw [List.mem_filterMap]
  constructor
  · rintro ⟨j, hj, hid⟩
    obtain ⟨u, hu, hid⟩ := Option.map_eq_some_iff.mp hid
    have hsame := ((node?_eq_some_iff h).mpr ⟨u, hu, hid⟩).symm.trans
      ((node?_eq_some_iff h).mpr ⟨t, hi, rfl⟩)
    exact Option.some.inj hsame ▸ hj
  · intro hc
    exact ⟨i, hc, by simp [hi]⟩

theorem inCircle_iff (h : d.DistinctIds) (hi : d.tables[i]? = some t) (hj : d.tables[j]? = some u) :
    d.InCircle t u ↔ ∃ c ∈ d.dependencies.cycles, i ∈ c ∧ j ∈ c := by
  unfold InCircle circles
  simp only [List.mem_map]
  constructor
  · rintro ⟨_, ⟨c, hc, rfl⟩, ht, hu⟩
    exact ⟨c, hc, (mem_ids_iff h hi).mp ht, (mem_ids_iff h hj).mp hu⟩
  · rintro ⟨c, hc, ht, hu⟩
    exact ⟨_, ⟨c, hc, rfl⟩, (mem_ids_iff h hi).mpr ht, (mem_ids_iff h hj).mpr hu⟩

/-- Two tables are in a common circle just if each depends on the other, through whatever tables. -/
theorem inCircle_iff_depends (h : d.DistinctIds) (ht : t ∈ d.tables) (hu : u ∈ d.tables)
    (hne : t ≠ u) :
    d.InCircle t u ↔ ReflTransGen d.DependsOn t u ∧ ReflTransGen d.DependsOn u t := by
  obtain ⟨i, hi⟩ := List.mem_iff_getElem?.mp ht
  obtain ⟨j, hj⟩ := List.mem_iff_getElem?.mp hu
  have hij : i ≠ j := by
    rintro rfl
    exact hne (Option.some.inj (hi.symm.trans hj))
  have hisize : i < d.dependencies.size := (List.getElem?_eq_some_iff.mp hi).1
  have hjsize : j < d.dependencies.size := (List.getElem?_eq_some_iff.mp hj).1
  rw [inCircle_iff h hi hj, common_cycle_iff (dependencies_bounded h) hisize hjsize hij, Mutual,
    chain_iff h hi hj, chain_iff h hj hi, and_comm]

/-- A circle is made of two tables or more, each of them once. -/
structure IsCircle (d : Diagram) (c : List String) : Prop where
  several : 1 < c.length
  nodup : c.Nodup
  tables : c ⊆ d.tables.map (·.id)

theorem isCircle_of_mem (h : d.DistinctIds) {c : List String} (hc : c ∈ d.circles) :
    d.IsCircle c := by
  obtain ⟨ns, hns, rfl⟩ := List.mem_map.mp hc
  obtain ⟨i, -, -, rfl, hlength⟩ := mem_cycles.mp hns
  have hids : (d.dependencies.component i).filterMap (fun i => (d.tables[i]?).map (·.id)) =
      (d.dependencies.component i).map (fun i => ((d.tables.map (·.id))[i]?).getD "") := by
    rw [← List.filterMap_eq_map]
    refine List.filterMap_congr fun j hj => ?_
    have hj : j < d.tables.length := List.mem_range.mp (List.mem_filter.mp hj).1
    simp [List.getElem?_eq_getElem hj]
  refine ⟨?_, ?_, ?_⟩
  · simpa [hids] using hlength
  · rw [hids]
    refine List.Nodup.map_on ?_ (component_nodup _ _)
    intro j hj k hk hjk
    have hj : j < d.tables.length := List.mem_range.mp (List.mem_filter.mp hj).1
    have hk : k < d.tables.length := List.mem_range.mp (List.mem_filter.mp hk).1
    have hsame : (d.tables.map (·.id))[j]? = (d.tables.map (·.id))[k]? := by
      simpa [List.getElem?_eq_getElem hj, List.getElem?_eq_getElem hk] using hjk
    exact (List.getElem?_inj (by simpa using hj) h).mp hsame
  · intro id hid
    obtain ⟨j, -, hj⟩ := List.mem_filterMap.mp hid
    obtain ⟨t, ht, rfl⟩ := Option.map_eq_some_iff.mp hj
    exact List.mem_map_of_mem (List.mem_of_getElem? ht)

/-- No table is in two circles. -/
theorem circles_disjoint (h : d.DistinctIds) : d.circles.Pairwise List.Disjoint := by
  unfold circles
  refine List.pairwise_map.mpr ((cycles_disjoint (dependencies_bounded h)).imp ?_)
  intro c c' hdisjoint id hid hid'
  obtain ⟨i, hic, hi⟩ := List.mem_filterMap.mp hid
  obtain ⟨t, ht, rfl⟩ := Option.map_eq_some_iff.mp hi
  exact hdisjoint hic ((mem_ids_iff h ht).mp hid')

/-! ## A key that closes a circle -/

theorem closesCircle_iff (h : d.DistinctIds) (ht : t ∈ d.tables) (hu : u ∈ d.tables) :
    d.closesCircle t.id u.id = true ↔ ReflTransGen d.DependsOn u t := by
  obtain ⟨i, hi⟩ := List.mem_iff_getElem?.mp ht
  obtain ⟨j, hj⟩ := List.mem_iff_getElem?.mp hu
  have hsize : i < d.dependencies.size := (List.getElem?_eq_some_iff.mp hi).1
  unfold closesCircle
  rw [(node?_eq_some_iff h).mpr ⟨t, hi, rfl⟩, (node?_eq_some_iff h).mpr ⟨u, hj, rfl⟩]
  exact (reaches_iff (dependencies_bounded h) hsize).trans (chain_iff h hi hj)

/-- A diagram with one more relationship. -/
def withRelationship (d : Diagram) (r : Relationship) : Diagram :=
  { d with relationships := d.relationships ++ [r] }

/-- One more relationship makes the holder of its key depend on the table it refers to. -/
theorem dependsOn_withRelationship (h : d.DistinctIds) (ht : t ∈ d.tables) (hu : u ∈ d.tables)
    (hne : t ≠ u) {r : Relationship} {a b : End} (hkey : r.key? = some (a, b))
    (ha : a.tableId = t.id) (hb : b.tableId = u.id) {x y : Table} :
    (d.withRelationship r).DependsOn x y ↔ d.DependsOn x y ∨ (x = t ∧ y = u) := by
  constructor
  · rintro ⟨hx, hy, hxy, q, hq, a', b', hkey', ha', hb'⟩
    rcases List.mem_append.mp hq with hq | hq
    · exact .inl ⟨hx, hy, hxy, q, hq, a', b', hkey', ha', hb'⟩
    · obtain rfl := List.mem_singleton.mp hq
      obtain ⟨rfl, rfl⟩ := Prod.mk.inj (Option.some.inj (hkey.symm.trans hkey'))
      exact .inr ⟨h.eq hx ht (ha'.symm.trans ha), h.eq hy hu (hb'.symm.trans hb)⟩
  · rintro (⟨hx, hy, hxy, q, hq, hends⟩ | ⟨rfl, rfl⟩)
    · exact ⟨hx, hy, hxy, q, List.mem_append_left _ hq, hends⟩
    · exact ⟨ht, hu, fun hid => hne (h.eq ht hu hid), r,
        List.mem_append_right _ (List.mem_singleton_self r), a, b, hkey, ha, hb⟩

/-- What leads to a node needs no step away from it. -/
theorem reflTransGen_of_steps_away {α : Type*} {r r' : α → α → Prop} {a b : α}
    (h : ∀ x y, r' x y → r x y ∨ x = b) (hab : ReflTransGen r' a b) : ReflTransGen r a b := by
  induction hab using ReflTransGen.head_induction_on with
  | refl => exact .refl
  | head hxy _ ih =>
    rcases h _ _ hxy with hxy | rfl
    · exact .head hxy ih
    · exact .refl

/-- The groups that are found are circles of the diagram, no two of them share a table, and two
tables are in a common one just if each depends on the other, directly or through others. A key
closes a circle just if the diagram with the relationship that brings it has its two tables in a
common one. -/
theorem circles_hold_what_depends_on_each_other (d : Diagram) (h : d.DistinctIds) :
    (∀ c ∈ d.circles, d.IsCircle c) ∧ d.circles.Pairwise List.Disjoint ∧
      (∀ t ∈ d.tables, ∀ u ∈ d.tables, t ≠ u →
        (d.InCircle t u ↔ ReflTransGen d.DependsOn t u ∧ ReflTransGen d.DependsOn u t)) ∧
      (∀ holder ∈ d.tables, ∀ referenced ∈ d.tables, holder ≠ referenced →
        ∀ r : Relationship, r.sourceTableId = referenced.id → r.targetTableId = holder.id →
          r.sourceCardinality = .one → r.targetCardinality = .many →
            (d.closesCircle holder.id referenced.id = true ↔
              (d.withRelationship r).InCircle holder referenced)) := by
  refine ⟨fun c => isCircle_of_mem h, circles_disjoint h,
    fun t ht u hu => inCircle_iff_depends h ht hu, ?_⟩
  intro holder hholder referenced hreferenced hne r hsource htarget hone hmany
  have hkey : r.key? = some (r.target, r.source) := by
    simp [Relationship.key?, hone, hmany]
  have hdepends : ∀ {x y : Table}, (d.withRelationship r).DependsOn x y ↔
      d.DependsOn x y ∨ (x = holder ∧ y = referenced) :=
    dependsOn_withRelationship h hholder hreferenced hne hkey htarget hsource
  have hcircle : (d.withRelationship r).InCircle holder referenced ↔ _ :=
    inCircle_iff_depends (d := d.withRelationship r) h hholder hreferenced hne
  rw [hcircle, closesCircle_iff h hholder hreferenced]
  constructor
  · intro hchain
    exact ⟨.single (hdepends.mpr (.inr ⟨rfl, rfl⟩)),
      ReflTransGen.mono (fun _ _ hxy => hdepends.mpr (.inl hxy)) _ _ hchain⟩
  · rintro ⟨-, hback⟩
    exact reflTransGen_of_steps_away
      (fun x y hxy => (hdepends.mp hxy).imp_right (·.1)) hback

/-- A further relationship of the library: each author belongs to the first of their loans. -/
def firstLoan : Relationship :=
  { libraryKey "first_loan" "loans" "authors" with
    sourceCardinality := .one, targetCardinality := .many }

theorem authors_and_loans_would_be_in_a_circle :
    lendingLibrary.DistinctIds ∧ lendingLibrary.circles = [] ∧
      lendingLibrary.closesCircle "authors" "loans" = true ∧
      (lendingLibrary.withRelationship firstLoan).InCircle (libraryTable "authors")
        (libraryTable "loans") ∧
      circularLibrary.circles = [["loans", "books", "authors"]] := by
  have hids : lendingLibrary.DistinctIds := by
    unfold DistinctIds
    decide +kernel
  have hcloses : lendingLibrary.closesCircle "authors" "loans" = true := by decide +kernel
  obtain ⟨-, -, -, hkey⟩ := circles_hold_what_depends_on_each_other lendingLibrary hids
  refine ⟨hids, by decide +kernel, hcloses, ?_, by decide +kernel⟩
  exact (hkey (libraryTable "authors") (by decide +kernel) (libraryTable "loans")
    (by decide +kernel) (by decide) firstLoan rfl rfl rfl rfl).mp hcloses

end SchemaChart.Diagram
