-- The types of related fields after they were aligned: every numeric field has the size of the
-- widest field that it is connected with, and nothing else of a diagram changes.
import Mathlib.Combinatorics.SimpleGraph.Connectivity.Connected
import Mathlib.Order.Bounds.Defs
import SchemaChart.Diagram.Align

namespace SchemaChart.Diagram

/-! ## Connected fields -/

/-- The fields of a diagram, table by table. -/
def fields (d : Diagram) : List Field := d.tables.flatMap (·.fields)

/-- The size of a numeric field in storage. -/
def Field.rank? (f : Field) : Option Nat := f.fieldType.rank?

/-- Does a relationship run from one field of a diagram to another, both of them numeric. -/
structure Runs (d : Diagram) (r : Relationship) (f g : Field) : Prop where
  source : f ∈ d.fields
  target : g ∈ d.fields
  sourceNumeric : f.rank?.isSome = true
  targetNumeric : g.rank?.isSome = true
  sourceId : r.sourceFieldId = f.id
  targetId : r.targetFieldId = g.id

/-- The numeric fields of a diagram, linked by its relationships. -/
def linkGraph (d : Diagram) : SimpleGraph Field :=
  SimpleGraph.fromRel fun f g => ∃ r ∈ d.relationships, Runs d r f g

/-- What a field may take from the fields that it is connected with: its own type, or one that is
wider. -/
def Widened (d : Diagram) (f : Field) (t : FieldType) : Prop :=
  t = f.fieldType ∨
    (∃ m n, f.rank? = some m ∧ t.rank? = some n ∧ m < n) ∧
      ∃ g, d.linkGraph.Reachable f g ∧ g.fieldType = t

/-- Does a field have the type that it is to have: if it is numeric, the size of the widest field
that it is connected with, with its own type if that has this size, and else with that of such a
field. -/
structure Settled (d : Diagram) (f : Field) (t : FieldType) : Prop where
  other : f.rank? = none → t = f.fieldType
  widest : ∀ m, f.rank? = some m → ∃ n, t.rank? = some n ∧
    IsGreatest {k | ∃ g, d.linkGraph.Reachable f g ∧ g.rank? = some k} n ∧
    (n = m → t = f.fieldType) ∧ ∃ g, d.linkGraph.Reachable f g ∧ g.fieldType = t

namespace Typing

/-! ## One relationship -/

/-- The size of the type of a field. -/
def size? (ts : Typing) (id : String) : Option Nat := (ts.lookup id).bind FieldType.rank?

theorem lookup_set (ts : Typing) (id i : String) (t : FieldType) :
    (ts.set id t).lookup i = if i = id then (ts.lookup i).map (fun _ => t) else ts.lookup i := by
  induction ts with
  | nil => simp [set]
  | cons p ts ih =>
    obtain ⟨j, u⟩ := p
    unfold set at ih ⊢
    rw [List.map_cons, List.lookup_cons, List.lookup_cons, ih]
    by_cases hij : i = j
    · subst hij
      by_cases hid : i = id
      · simp [hid]
      · simp [hid]
    · have hne : (i == j) = false := by simpa using hij
      simp [hne]

/-- Does a relationship join two fields, in either direction. -/
def Joins (r : Relationship) (a b : String) : Prop :=
  (r.sourceFieldId = a ∧ r.targetFieldId = b) ∨ (r.sourceFieldId = b ∧ r.targetFieldId = a)

theorem Joins.unique {r : Relationship} {a b c e : String} (h : Joins r a b) (h' : Joins r c e) :
    (a = c ∧ b = e) ∨ (a = e ∧ b = c) := by
  rcases h with ⟨rfl, rfl⟩ | ⟨rfl, rfl⟩
  · rcases h' with ⟨rfl, rfl⟩ | ⟨rfl, rfl⟩
    · exact .inl ⟨rfl, rfl⟩
    · exact .inr ⟨rfl, rfl⟩
  · rcases h' with ⟨rfl, rfl⟩ | ⟨rfl, rfl⟩
    · exact .inr ⟨rfl, rfl⟩
    · exact .inl ⟨rfl, rfl⟩

/-- The typing that a relationship leaves, wider or not. -/
def widen (ts : Typing) (r : Relationship) : Typing := (ts.widen? r).getD ts

/-- A relationship gives the narrower of its fields the type of the wider one, or changes nothing
because neither is wider. -/
theorem widen_cases (ts : Typing) (r : Relationship) :
    (∃ a b s t m n, Joins r a b ∧ ts.lookup a = some s ∧ ts.lookup b = some t ∧
      s.rank? = some m ∧ t.rank? = some n ∧ m < n ∧ ts.widen r = ts.set a t) ∨
    (ts.widen r = ts ∧ ∀ a b m n, Joins r a b → ts.size? a = some m → ts.size? b = some n →
      n ≤ m) := by
  by_cases hnumeric : ∃ m n, ts.size? r.sourceFieldId = some m ∧ ts.size? r.targetFieldId = some n
  · obtain ⟨m, n, hm, hn⟩ := hnumeric
    obtain ⟨s, hs, hsm⟩ := Option.bind_eq_some_iff.mp hm
    obtain ⟨t, ht, htn⟩ := Option.bind_eq_some_iff.mp hn
    rcases Nat.lt_trichotomy m n with hlt | heq | hgt
    · exact .inl ⟨_, _, s, t, m, n, .inl ⟨rfl, rfl⟩, hs, ht, hsm, htn, hlt,
        by simp [widen, widen?, hs, ht, hsm, htn, hlt]⟩
    · refine .inr ⟨by simp [widen, widen?, hs, ht, hsm, htn, heq], ?_⟩
      rintro a b k l (⟨rfl, rfl⟩ | ⟨rfl, rfl⟩) ha hb
      · rw [hm] at ha
        rw [hn] at hb
        grind
      · rw [hn] at ha
        rw [hm] at hb
        grind
    · exact .inl ⟨_, _, t, s, n, m, .inr ⟨rfl, rfl⟩, ht, hs, htn, hsm, hgt,
        by simp [widen, widen?, hs, ht, hsm, htn, hgt, Nat.not_lt_of_gt hgt]⟩
  · refine .inr ⟨?_, ?_⟩
    · unfold widen widen?
      split
      · rename_i s t hs ht
        split
        · rename_i m n hm hn
          exact absurd ⟨m, n, by simp [size?, hs, hm], by simp [size?, ht, hn]⟩ hnumeric
        · rfl
      · rfl
    · rintro a b m n (⟨rfl, rfl⟩ | ⟨rfl, rfl⟩) ha hb
      · exact absurd ⟨m, n, ha, hb⟩ hnumeric
      · exact absurd ⟨n, m, hb, ha⟩ hnumeric

/-! ## Sizes only grow -/

/-- Is every field that is numeric in one typing at least as wide in another. -/
def Grows (ts us : Typing) : Prop :=
  ∀ id m, ts.size? id = some m → ∃ n, us.size? id = some n ∧ m ≤ n

theorem Grows.refl (ts : Typing) : Grows ts ts := fun _ m h => ⟨m, h, Nat.le_refl m⟩

theorem Grows.trans {ts us vs : Typing} (h : Grows ts us) (h' : Grows us vs) : Grows ts vs := by
  intro id m hm
  obtain ⟨n, hn, hmn⟩ := h id m hm
  obtain ⟨k, hk, hnk⟩ := h' id n hn
  exact ⟨k, hk, Nat.le_trans hmn hnk⟩

theorem size?_set (ts : Typing) (id i : String) (t : FieldType) :
    (ts.set id t).size? i =
      if i = id then (ts.lookup i).bind (fun _ => t.rank?) else ts.size? i := by
  unfold size?
  rw [lookup_set]
  split
  · rw [Option.bind_map]
    rfl
  · rfl

theorem grows_widen (ts : Typing) (r : Relationship) : Grows ts (ts.widen r) := by
  rcases widen_cases ts r with ⟨a, b, s, t, m, n, _, ha, _, hm, hn, hlt, hset⟩ | ⟨hsame, _⟩
  · rw [hset]
    intro id k hk
    rw [size?_set]
    by_cases hid : id = a
    · subst hid
      have hkm : k = m := by
        simp only [size?, ha, Option.bind_some, hm, Option.some.injEq] at hk
        exact hk.symm
      exact ⟨n, by simp [ha, hn], by omega⟩
    · exact ⟨k, by simpa [hid] using hk, Nat.le_refl k⟩
  · rw [hsame]
    exact Grows.refl ts

/-- Both fields of a relationship are as wide as the other one was. -/
theorem widen_joins {ts : Typing} {r : Relationship} {a b : String} {m n : Nat}
    (hr : Joins r a b) (ha : ts.size? a = some m) (hb : ts.size? b = some n) :
    ∃ k, (ts.widen r).size? a = some k ∧ n ≤ k := by
  rcases widen_cases ts r with ⟨c, e, s, t, i, j, hce, hc, he, hi, hj, hlt, hset⟩ | ⟨hsame, hle⟩
  · have hsc : ts.size? c = some i := by simp [size?, hc, hi]
    have hse : ts.size? e = some j := by simp [size?, he, hj]
    rw [hset, size?_set]
    rcases hr.unique hce with ⟨rfl, rfl⟩ | ⟨rfl, rfl⟩
    · -- the narrower field takes the size of the other one
      rw [hse] at hb
      exact ⟨j, by simp [hc, hj], by grind⟩
    · -- the wider field stays as it is
      rw [hse] at ha
      rw [hsc] at hb
      have hne : a ≠ b := by
        rintro rfl
        rw [hsc] at hse
        grind
      exact ⟨j, by simp [hne, hse], by grind⟩
  · rw [hsame]
    exact ⟨m, ha, hle a b m n hr ha hb⟩

/-! ## All relationships -/

theorem grows_round (rs : List Relationship) (ts : Typing) : Grows ts (rs.foldl widen ts) := by
  induction rs generalizing ts with
  | nil => exact Grows.refl ts
  | cons r rs ih => exact (grows_widen ts r).trans (ih (ts.widen r))

/-- After a passage through all relationships, both fields of each are as wide as the other one was
before it. -/
theorem round_joins {rs : List Relationship} {r : Relationship} (hr : r ∈ rs) {ts : Typing}
    {a b : String} {m n : Nat} (hab : Joins r a b) (ha : ts.size? a = some m)
    (hb : ts.size? b = some n) : ∃ k, (rs.foldl widen ts).size? a = some k ∧ n ≤ k := by
  induction rs generalizing ts m n with
  | nil => cases hr
  | cons q rs ih =>
    rw [List.foldl_cons]
    rcases List.mem_cons.mp hr with rfl | hr
    · obtain ⟨k, hk, hnk⟩ := widen_joins hab ha hb
      obtain ⟨l, hl, hkl⟩ := grows_round rs (ts.widen r) a k hk
      exact ⟨l, hl, Nat.le_trans hnk hkl⟩
    · obtain ⟨i, hi, _⟩ := grows_widen ts q a m ha
      obtain ⟨j, hj, hnj⟩ := grows_widen ts q b n hb
      obtain ⟨k, hk, hjk⟩ := ih hr hi hj
      exact ⟨k, hk, Nat.le_trans hnj hjk⟩

/-- Goes through the relationships a number of times, whether or not anything changes. -/
def widenAll (rs : List Relationship) : Nat → Typing → Typing
  | 0, ts => ts
  | n + 1, ts => widenAll rs n (rs.foldl widen ts)

theorem widenAll_succ (rs : List Relationship) (k : Nat) (ts : Typing) :
    widenAll rs (k + 1) ts = rs.foldl widen (widenAll rs k ts) := by
  induction k generalizing ts with
  | zero => rfl
  | succ k ih => exact ih (rs.foldl widen ts)

theorem grows_widenAll (rs : List Relationship) (k : Nat) (ts : Typing) :
    Grows ts (widenAll rs k ts) := by
  induction k with
  | zero => exact Grows.refl ts
  | succ k ih =>
    rw [widenAll_succ]
    exact ih.trans (grows_round rs _)

/-! ## Passages that change nothing -/

/-- Once a passage changes nothing, no further one does. -/
theorem widenAll_eq_self {rs : List Relationship} {ts : Typing} (h : rs.foldl widen ts = ts)
    (k : Nat) : widenAll rs k ts = ts := by
  induction k with
  | zero => rfl
  | succ k ih => rw [widenAll_succ, ih, h]

theorem visit_fst (p : Typing × Bool) (r : Relationship) : (visit p r).1 = p.1.widen r := by
  unfold visit widen
  split
  · rename_i ts hts
    rw [hts, Option.getD_some]
  · rename_i hnone
    rw [hnone, Option.getD_none]

theorem foldl_visit_fst (rs : List Relationship) (p : Typing × Bool) :
    (rs.foldl visit p).1 = rs.foldl widen p.1 := by
  induction rs generalizing p with
  | nil => rfl
  | cons r rs ih => rw [List.foldl_cons, ih, visit_fst, List.foldl_cons]

/-- The mark, once set, stays set; where it is not set, nothing was widened. -/
theorem eq_of_visit_unmarked {p : Typing × Bool} {r : Relationship} (h : (visit p r).2 = false) :
    visit p r = p := by
  unfold visit at h ⊢
  split at h
  · exact absurd h (by simp)
  · rfl

theorem eq_of_foldl_visit_unmarked {rs : List Relationship} {p : Typing × Bool}
    (h : (rs.foldl visit p).2 = false) : rs.foldl visit p = p := by
  induction rs generalizing p with
  | nil => rfl
  | cons r rs ih =>
    have hrest : rs.foldl visit (visit p r) = visit p r := ih h
    have hunmarked : (visit p r).2 = false := by rw [← hrest]; exact h
    rw [List.foldl_cons, hrest, eq_of_visit_unmarked hunmarked]

/-- Stopping at a passage that changes nothing makes no difference. -/
theorem settle_eq_widenAll (rs : List Relationship) (k : Nat) (ts : Typing) :
    settle rs k ts = widenAll rs k ts := by
  induction k generalizing ts with
  | zero => rfl
  | succ k ih =>
    have hround : rs.foldl widen ts = (rs.foldl visit (ts, false)).1 :=
      (foldl_visit_fst rs (ts, false)).symm
    rw [settle, widenAll, hround]
    split
    · rename_i us hus
      rw [hus, ih]
    · rename_i us hus
      have hsame : rs.foldl visit (ts, false) = (ts, false) :=
        eq_of_foldl_visit_unmarked (by rw [hus])
      obtain rfl : ts = us := congrArg Prod.fst (hsame.symm.trans hus)
      rw [hsame] at hround ⊢
      rw [widenAll_eq_self hround]

end Typing

theorem aligned_eq (d : Diagram) :
    d.aligned =
      d.retyped (d.typing.widenAll d.relationships (d.relationships.length + 1)) := by
  rw [aligned, Typing.settle_eq_widenAll]

/-! ## Where types come from -/

section

variable {d : Diagram} {f g : Field} {t : FieldType}

theorem Runs.joins {r : Relationship} (h : Runs d r f g) : Typing.Joins r f.id g.id :=
  .inl ⟨h.sourceId, h.targetId⟩

/-- Linked fields are numeric fields of the diagram, and a relationship joins them. -/
theorem linkGraph_adj (h : d.linkGraph.Adj f g) :
    f ∈ d.fields ∧ f.rank?.isSome = true ∧
      ∃ r ∈ d.relationships, Typing.Joins r f.id g.id := by
  obtain ⟨_, ⟨r, hr, hruns⟩ | ⟨r, hr, hruns⟩⟩ := (SimpleGraph.fromRel_adj _ f g).mp h
  · exact ⟨hruns.source, hruns.sourceNumeric, r, hr, hruns.joins⟩
  · exact ⟨hruns.target, hruns.targetNumeric, r, hr, hruns.joins.symm⟩

/-- Two numeric fields that a relationship joins are connected. -/
theorem reachable_of_joins {r : Relationship} (hr : r ∈ d.relationships) (hf : f ∈ d.fields)
    (hg : g ∈ d.fields) (hfn : f.rank?.isSome = true) (hgn : g.rank?.isSome = true)
    (h : Typing.Joins r f.id g.id) : d.linkGraph.Reachable f g := by
  by_cases hfg : f = g
  · rw [hfg]
  · refine SimpleGraph.Adj.reachable ((SimpleGraph.fromRel_adj _ f g).mpr ⟨hfg, ?_⟩)
    rcases h with ⟨hs, ht⟩ | ⟨hs, ht⟩
    · exact .inl ⟨r, hr, hf, hg, hfn, hgn, hs, ht⟩
    · exact .inr ⟨r, hr, hg, hf, hgn, hfn, hs, ht⟩

/-- A field with a numeric type was numeric, and no wider. -/
theorem Widened.numeric (h : Widened d f t) {n : Nat} (hn : t.rank? = some n) :
    ∃ m, f.rank? = some m ∧ m ≤ n := by
  rcases h with rfl | ⟨⟨m, k, hm, hk, hlt⟩, _⟩
  · exact ⟨n, hn, Nat.le_refl n⟩
  · rw [hn] at hk
    exact ⟨m, hm, by grind⟩

/-- A field takes the wider type of a field that it is connected with. -/
theorem Widened.take (hfg : d.linkGraph.Reachable f g) {m n : Nat} (hm : f.rank? = some m)
    (hn : t.rank? = some n) (hlt : m < n) (h : Widened d g t) : Widened d f t := by
  refine .inr ⟨⟨m, n, hm, hn, hlt⟩, ?_⟩
  rcases h with rfl | ⟨_, e, he, rfl⟩
  · exact ⟨g, hfg, rfl⟩
  · exact ⟨e, hfg.trans he, rfl⟩

end

/-- A typing of the fields of a diagram that only took types from connected fields. -/
structure Derived (d : Diagram) (ts : Typing) : Prop where
  known : ∀ id t, ts.lookup id = some t → ∃ f ∈ d.fields, f.id = id
  widened : ∀ f ∈ d.fields, ∃ t, ts.lookup f.id = some t ∧ Widened d f t

theorem Derived.widen {d : Diagram} {ts : Typing} (h : Derived d ts) {r : Relationship}
    (hr : r ∈ d.relationships) : Derived d (ts.widen r) := by
  rcases ts.widen_cases r with ⟨a, b, s, t, m, n, hab, ha, hb, hm, hn, hlt, hset⟩ | ⟨hsame, _⟩
  · rw [hset]
    constructor
    · intro id u hu
      rw [Typing.lookup_set] at hu
      split at hu
      · rename_i hid
        exact h.known id s (hid ▸ ha)
      · exact h.known id u hu
    · intro f hf
      by_cases hid : f.id = a
      · obtain ⟨s', hs', hsource⟩ := h.widened f hf
        obtain ⟨g, hg, hgb⟩ := h.known b t hb
        obtain ⟨t', ht', htarget⟩ := h.widened g hg
        have hss : s' = s := by
          rw [hid, ha] at hs'
          exact (Option.some.inj hs').symm
        have htt : t' = t := by
          rw [hgb, hb] at ht'
          exact (Option.some.inj ht').symm
        subst hss htt
        obtain ⟨k, hk, hkm⟩ := hsource.numeric hm
        obtain ⟨l, hl, _⟩ := htarget.numeric hn
        have hreach := reachable_of_joins hr hf hg (by rw [hk]; rfl) (by rw [hl]; rfl)
          (by rw [hid, hgb]; exact hab)
        exact ⟨t', by rw [Typing.lookup_set, if_pos hid, hid, ha]; rfl,
          htarget.take hreach hk hn (by omega)⟩
      · rw [Typing.lookup_set, if_neg hid]
        exact h.widened f hf
  · rw [hsame]
    exact h

theorem Derived.round {d : Diagram} {rs : List Relationship} (hrs : ∀ r ∈ rs, r ∈ d.relationships)
    {ts : Typing} (h : Derived d ts) : Derived d (rs.foldl Typing.widen ts) := by
  induction rs generalizing ts with
  | nil => exact h
  | cons r rs ih =>
    exact ih (fun q hq => hrs q (List.mem_cons_of_mem r hq)) (h.widen (hrs r List.mem_cons_self))

theorem Derived.widenAll {d : Diagram} {ts : Typing} (h : Derived d ts) (k : Nat) :
    Derived d (ts.widenAll d.relationships k) := by
  induction k with
  | zero => exact h
  | succ k ih =>
    rw [Typing.widenAll_succ]
    exact ih.round fun _ hr => hr

/-! ## The typing of a diagram -/

/-- With distinct keys, every entry is the one that is found for its key. -/
theorem lookup_eq_of_mem {α : Type*} {l : List (String × α)} (hl : (l.map Prod.fst).Nodup)
    {id : String} {a : α} (ha : (id, a) ∈ l) : l.lookup id = some a := by
  obtain ⟨l₁, l₂, rfl⟩ := List.append_of_mem ha
  refine List.lookup_eq_some_iff.mpr ⟨l₁, l₂, rfl, ?_⟩
  intro p hp
  have hne : p.1 ≠ id := by
    rw [List.map_append, List.map_cons] at hl
    exact (List.nodup_append.mp hl).2.2 p.1 (List.mem_map_of_mem hp) id List.mem_cons_self
  simpa using hne.symm

theorem mem_typing {d : Diagram} {id : String} {t : FieldType} :
    (id, t) ∈ d.typing ↔ ∃ f ∈ d.fields, f.id = id ∧ f.fieldType = t := by
  simp [typing, fields]

section

variable {d : Diagram} (hd : (d.fields.map (·.id)).Nodup)

include hd

theorem lookup_typing {f : Field} (hf : f ∈ d.fields) :
    d.typing.lookup f.id = some f.fieldType := by
  refine lookup_eq_of_mem ?_ (mem_typing.mpr ⟨f, hf, rfl, rfl⟩)
  rw [typing, List.map_reverse, List.nodup_reverse, List.map_map]
  exact hd

theorem size?_typing {f : Field} (hf : f ∈ d.fields) : d.typing.size? f.id = f.rank? := by
  rw [Typing.size?, lookup_typing hd hf]
  rfl

theorem derived_typing : Derived d d.typing := by
  constructor
  · intro id t h
    obtain ⟨l₁, l₂, heq, _⟩ := List.lookup_eq_some_iff.mp h
    obtain ⟨f, hf, hid, _⟩ := mem_typing.mp (heq ▸ List.mem_append_right l₁ List.mem_cons_self)
    exact ⟨f, hf, hid⟩
  · intro f hf
    exact ⟨f.fieldType, lookup_typing hd hf, .inl rfl⟩

/-! ## How far types travel -/

/-- After as many passages as there are links between two fields, the one is as wide as the other
was. -/
theorem widenAll_walk {f g : Field} (p : d.linkGraph.Walk f g) (hf : f ∈ d.fields) {k n : Nat}
    (hk : p.length ≤ k) (hn : g.rank? = some n) :
    ∃ m, (d.typing.widenAll d.relationships k).size? f.id = some m ∧ n ≤ m := by
  induction p generalizing k with
  | @nil f =>
    have hsize : d.typing.size? f.id = some n := by rw [size?_typing hd hf, hn]
    exact Typing.grows_widenAll d.relationships k d.typing f.id n hsize
  | @cons f e g hadj p ih =>
    obtain ⟨k, rfl⟩ : ∃ j, k = j + 1 := ⟨k - 1, by simp at hk; omega⟩
    obtain ⟨_, hnumeric, r, hr, hjoins⟩ := linkGraph_adj hadj
    obtain ⟨m, hm, hnm⟩ := ih (linkGraph_adj hadj.symm).1 (by simpa using hk) hn
    obtain ⟨i, hi⟩ := Option.isSome_iff_exists.mp hnumeric
    have hsize : d.typing.size? f.id = some i := by rw [size?_typing hd hf, hi]
    obtain ⟨j, hj, _⟩ := Typing.grows_widenAll d.relationships k d.typing f.id i hsize
    rw [Typing.widenAll_succ]
    obtain ⟨l, hl, hml⟩ := Typing.round_joins hr hjoins hj hm
    exact ⟨l, hl, Nat.le_trans hnm hml⟩

/-- Connected fields are connected by no more links than there are relationships: a path takes each
link once. -/
theorem exists_walk_length_le {f g : Field} (h : d.linkGraph.Reachable f g) :
    ∃ p : d.linkGraph.Walk f g, p.length ≤ d.relationships.length := by
  obtain ⟨p, hp⟩ := h.exists_isPath
  let field (id : String) : Field := ((d.fields.map fun f => (f.id, f)).lookup id).getD default
  have hfield : ∀ e ∈ d.fields, field e.id = e := by
    intro e he
    have hfound : (d.fields.map fun f => (f.id, f)).lookup e.id = some e :=
      lookup_eq_of_mem (by rw [List.map_map]; exact hd) (List.mem_map.mpr ⟨e, he, rfl⟩)
    simp only [field, hfound, Option.getD_some]
  have hedges : p.edges ⊆ d.relationships.map fun r =>
      s(field r.sourceFieldId, field r.targetFieldId) := by
    intro e he
    induction e using Sym2.ind with
    | _ a b =>
      have hadj := p.adj_of_mem_edges he
      obtain ⟨ha, _, r, hr, hjoins⟩ := linkGraph_adj hadj
      have hb := (linkGraph_adj hadj.symm).1
      refine List.mem_map.mpr ⟨r, hr, ?_⟩
      rcases hjoins with ⟨hsource, htarget⟩ | ⟨hsource, htarget⟩
      · rw [hsource, htarget, hfield a ha, hfield b hb]
      · rw [hsource, htarget, hfield a ha, hfield b hb, Sym2.eq_swap]
  have hlength := (hp.isTrail.edges_nodup.subperm hedges).length_le
  exact ⟨p, by simpa using hlength⟩

/-! ## Aligned diagrams -/

/-- After the last passage, every field has settled. -/
theorem settled_widenAll {f : Field} (hf : f ∈ d.fields) :
    ∃ t, (d.typing.widenAll d.relationships (d.relationships.length + 1)).lookup f.id = some t ∧
      Settled d f t := by
  obtain ⟨t, ht, hwidened⟩ :=
    ((derived_typing hd).widenAll (d.relationships.length + 1)).widened f hf
  refine ⟨t, ht, ?_, ?_⟩
  · intro hnone
    rcases hwidened with rfl | ⟨⟨m, _, hm, _⟩, _⟩
    · rfl
    · rw [hnone] at hm
      exact absurd hm (by simp)
  · intro m hm
    have hreach : ∀ g k, d.linkGraph.Reachable f g → g.rank? = some k →
        ∃ n, t.rank? = some n ∧ k ≤ n := by
      intro g k hg hk
      obtain ⟨p, hp⟩ := exists_walk_length_le hd hg
      obtain ⟨n, hn, hkn⟩ := widenAll_walk hd p hf (Nat.le_succ_of_le hp) hk
      rw [Typing.size?, ht] at hn
      exact ⟨n, hn, hkn⟩
    obtain ⟨n, hn, hmn⟩ := hreach f m .rfl hm
    have hfrom : ∃ g, d.linkGraph.Reachable f g ∧ g.fieldType = t := by
      rcases hwidened with rfl | ⟨_, g, hg, hgt⟩
      · exact ⟨f, .rfl, rfl⟩
      · exact ⟨g, hg, hgt⟩
    refine ⟨n, hn, ⟨?_, ?_⟩, ?_, hfrom⟩
    · obtain ⟨g, hg, rfl⟩ := hfrom
      exact ⟨g, hg, hn⟩
    · rintro k ⟨g, hg, hk⟩
      obtain ⟨n', hn', hkn⟩ := hreach g k hg hk
      grind
    · rintro rfl
      rcases hwidened with heq | ⟨⟨i, j, hi, hj, hlt⟩, _⟩
      · exact heq
      · grind

end

/-- Fields that a typing does not know keep their types. -/
theorem retyped_eq (d : Diagram) (ts : Typing) :
    d.retyped ts = { d with
      tables := d.tables.map fun t =>
        { t with fields := t.fields.map fun f =>
          f.withType ((ts.lookup f.id).getD f.fieldType) } } := by
  unfold retyped
  refine congrArg (fun ts => { d with tables := ts }) (List.map_congr_left fun t _ => ?_)
  refine congrArg (fun fs => { t with fields := fs }) (List.map_congr_left fun f _ => ?_)
  rcases ts.lookup f.id with _ | u
  · rfl
  · rfl

/-- An aligned diagram differs from the diagram in the types of its fields only, and every field has
settled: it has the size of the widest field that it is connected with, and a type of its own or of
such a field. -/
theorem aligned_fields_are_as_wide_as_their_chain (d : Diagram)
    (hd : (d.fields.map (·.id)).Nodup) :
    ∃ type : Field → FieldType,
      d.aligned = { d with
        tables := d.tables.map fun t =>
          { t with fields := t.fields.map fun f => f.withType (type f) } } ∧
      ∀ f ∈ d.fields, Settled d f (type f) := by
  let ts := d.typing.widenAll d.relationships (d.relationships.length + 1)
  refine ⟨fun f => (ts.lookup f.id).getD f.fieldType, ?_, ?_⟩
  · rw [aligned_eq, retyped_eq]
  · intro f hf
    obtain ⟨t, ht, hsettled⟩ := settled_widenAll hd hf
    simp only [ts, ht, Option.getD_some]
    exact hsettled

/-- Three tables in a chain: the first relationship is between the two narrower fields. -/
def auditedOrders : Diagram :=
  { id := "d", name := "orders", dialect := .postgresql,
    tables := [
      { id := "t1", name := "users", color := "", fields := [
        { id := "f1", name := "id", type := .named "smallint" },
        { id := "f2", name := "email", type := .named "varchar" }] },
      { id := "t2", name := "orders", color := "", fields := [
        { id := "f3", name := "user_id", type := .named "integer" }] },
      { id := "t3", name := "audit", color := "", fields := [
        { id := "f4", name := "order_ref", type := .named "bigint" }] }],
    relationships := [
      { id := "r1", name := "fk_order_user", sourceTableId := "t1", sourceFieldId := "f1",
        targetTableId := "t2", targetFieldId := "f3" },
      { id := "r2", name := "fk_audit_order", sourceTableId := "t2", sourceFieldId := "f3",
        targetTableId := "t3", targetFieldId := "f4" }] }

theorem audited_orders_are_as_wide_as_their_audit :
    (auditedOrders.aligned.fields.map (·.type.id) = ["bigint", "varchar", "bigint", "bigint"]) ∧
    ∃ type : Field → FieldType,
      auditedOrders.aligned = { auditedOrders with
        tables := auditedOrders.tables.map fun t =>
          { t with fields := t.fields.map fun f => f.withType (type f) } } ∧
      ∀ f ∈ auditedOrders.fields, Settled auditedOrders f (type f) :=
  ⟨by decide +kernel, aligned_fields_are_as_wide_as_their_chain auditedOrders (by decide +kernel)⟩

end SchemaChart.Diagram
