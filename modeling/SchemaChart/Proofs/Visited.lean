-- The states that scripts lead a schema through. They are reached from an empty schema, by one call
-- of a writer after the other.
import SchemaChart.Proofs.Declared
import SchemaChart.Proofs.Writers

namespace SchemaChart.Import

open Data (Arithmetic)
open Schema (Alteration Builder Column CustomType Declaration Fact Index Table TableRef)
open Script (Statement)

/-- A text asks for this change of the table that a reference means. -/
def Asked (s : Source) (r : TableRef) (a : Alteration) : Prop :=
  ∃ cs changes, Reading.alterTable s cs = .ok (r, changes) ∧ a ∈ changes

/-- The states that a schema goes through while statements are read, from one call of a writer to
the next. Tables, indexes and columns are such as statements declare. -/
inductive Visited (s : Source) : Builder → Prop
  | start : Visited s { dialect := s.dialect }
  | warn {b : Builder} (message : String) : Visited s b → Visited s (b.warn message)
  | addTable {b : Builder} {st : Statement} {t : Table} {facts : List Fact}
      {unread : List String} (h : read s st = .ok (some (.table t facts unread))) :
      Visited s b → Visited s (b.addTable t).2
  | addType {b : Builder} (t : CustomType) : Visited s b → Visited s (b.addType t)
  | addIndex {b : Builder} {st : Statement} {r : TableRef} {index : Index} (i : Nat)
      (h : read s st = .ok (some (.index r index))) :
      Visited s b → Visited s (b.addIndex i index)
  | apply {b : Builder} (i : Nat) (fact : Fact) : Visited s b → Visited s (b.apply i fact)
  | addColumn {b : Builder} {r : TableRef} {column : Column} {facts : List Fact} (i : Nat)
      (h : Asked s r (.addColumn column facts)) :
      Visited s b → Visited s (b.addColumn i column)
  | modifyColumn {b : Builder} {r : TableRef} {column : Column} (i : Nat)
      (h : Asked s r (.modifyColumn column)) : Visited s b → Visited s (b.modifyColumn i column)
  | setDefault {b : Builder} (i : Nat) (column value : String) :
      Visited s b → Visited s (b.setDefault i column value)
  | setNotNull {b : Builder} (i : Nat) (column : String) :
      Visited s b → Visited s (b.setNotNull i column)
  | setTableComment {b : Builder} (i : Nat) (comment : Option String) :
      Visited s b → Visited s (b.setTableComment i comment)
  | setColumnComment {b : Builder} (i : Nat) (column : String) (comment : Option String) :
      Visited s b → Visited s (b.setColumnComment i column comment)

theorem Asked.fresh {s : Source} {r : TableRef} {a : Alteration} (h : Asked s r a) : a.Fresh := by
  obtain ⟨cs, changes, hr, ha⟩ := h
  exact Reading.alterTable_fresh hr a ha

namespace Visited

variable {s : Source} {b : Builder}

/-! ## What a statement goes through -/

theorem resolve (r : TableRef) (h : Visited s b) : Visited s (b.resolve r).2 := by
  unfold Builder.resolve
  split
  · exact h
  · split
    · exact h
    · exact h.warn _

/-- What is done to the table that a reference means, and what is done if there is none. -/
theorem resolved (r : TableRef) {found : Nat → Builder → Builder} {missing : Builder → Builder}
    (hf : ∀ i b, Visited s b → Visited s (found i b))
    (hm : ∀ b, Visited s b → Visited s (missing b)) (h : Visited s b) :
    Visited s (match b.resolve r with
      | (some i, b') => found i b'
      | (none, b') => missing b') := by
  have hr := h.resolve r
  split
  · rename_i i b' he
    rw [he] at hr
    exact hf i b' hr
  · rename_i b' he
    rw [he] at hr
    exact hm b' hr

theorem foldl {f : Builder → α → Builder} (xs : List α)
    (hf : ∀ x ∈ xs, ∀ b, Visited s b → Visited s (f b x)) (h : Visited s b) :
    Visited s (xs.foldl f b) := by
  induction xs generalizing b with
  | nil => exact h
  | cons x xs ih =>
    exact ih (fun y hy => hf y (List.mem_cons_of_mem x hy)) (hf x List.mem_cons_self b h)

theorem applyAll (i : Nat) (facts : List Fact) (h : Visited s b) :
    Visited s (b.applyAll i facts) :=
  h.foldl facts (fun fact _ _ hb => hb.apply i fact)

theorem alterAt {r : TableRef} {a : Alteration} (i : Nat) (ha : Asked s r a) (h : Visited s b) :
    Visited s (b.alterAt i a) := by
  cases a with
  | addConstraint fact => exact h.apply i fact
  | addColumn column facts => exact (h.addColumn i ha).applyAll i facts
  | modifyColumn column => exact h.modifyColumn i ha
  | setDefault column value => exact h.setDefault i column value
  | setNotNull column => exact h.setNotNull i column

theorem alter {r : TableRef} {a : Alteration} (ha : Asked s r a) (h : Visited s b) :
    Visited s (b.alter r a) :=
  h.resolved r (fun i _ hb => hb.alterAt i ha) (fun _ hb => hb.warn _)

theorem declare {st : Statement} {d : Declaration} (hr : read s st = .ok (some d))
    (h : Visited s b) : Visited s (b.declare d) := by
  cases d with
  | table t facts unread =>
    exact ((h.addTable hr).foldl unread (fun _ _ _ hb => hb.warn _)).applyAll _ facts
  | index r index =>
    exact h.resolved r (fun i _ hb => hb.addIndex i hr) (fun _ hb => hb.warn _)
  | alter r changes =>
    obtain ⟨cs, hcs⟩ := read_fresh hr
    exact h.foldl changes (fun a ha _ hb => hb.alter ⟨cs, changes, hcs, ha⟩)
  | type t => exact h.addType t
  | tableComment r comment =>
    exact h.resolved r (fun i _ hb => hb.setTableComment i comment) (fun _ hb => hb)
  | columnComment r column comment =>
    exact h.resolved r (fun i _ hb => hb.setColumnComment i column comment) (fun _ hb => hb)

theorem step {a : Arithmetic} {p q : Progress} {st : Statement} (h : Visited s p.builder)
    (hq : p.step a s st = .ok q) : Visited s q.builder := by
  rcases Progress.step_eq_ok hq with ⟨-, rfl⟩ | ⟨d, hd, rfl⟩ | ⟨message, f, -, -, rfl⟩
  · exact h
  · exact h.declare hd
  · exact h.warn _

theorem run {a : Arithmetic} {p q : Progress} {sts : List Statement} (h : Visited s p.builder)
    (hq : p.run a s sts = .ok q) : Visited s q.builder :=
  Progress.run_induction (P := fun p => Visited s p.builder) (fun _ _ _ hp hq => hp.step hq) h hq

/-! ## What a dump goes through -/

/-- An alteration of a dump is warned about or kept for later. -/
theorem gatherStep {p : Progress} {changes : Changes} (st : Statement) (h : Visited s p.builder)
    (hc : ∀ c ∈ changes, Asked s c.1 c.2) :
    Visited s (gatherStep s (p, changes) st).1.builder ∧
      ∀ c ∈ (gatherStep s (p, changes) st).2, Asked s c.1 c.2 := by
  unfold Import.gatherStep
  dsimp only
  split
  · rename_i r as hr
    refine ⟨h, fun c hmem => ?_⟩
    rcases List.mem_append.mp hmem with hmem | hmem
    · exact hc c hmem
    · obtain ⟨a, ha, rfl⟩ := List.mem_map.mp hmem
      exact ⟨_, as, hr, ha⟩
  · exact ⟨h.warn _, hc⟩

theorem gather {p : Progress} (changes : Changes) (sts : List Statement) (h : Visited s p.builder)
    (hc : ∀ c ∈ changes, Asked s c.1 c.2) :
    Visited s (sts.foldl (Import.gatherStep s) (p, changes)).1.builder ∧
      ∀ c ∈ (sts.foldl (Import.gatherStep s) (p, changes)).2, Asked s c.1 c.2 := by
  induction sts generalizing p changes with
  | nil => exact ⟨h, hc⟩
  | cons st sts ih =>
    obtain ⟨h', hc'⟩ := h.gatherStep st hc
    exact ih _ h' hc'

theorem mem_of_mem_byPhase {changes : Changes} {c : TableRef × Alteration}
    (h : c ∈ byPhase changes) : c ∈ changes := by
  obtain ⟨n, _, hn⟩ := List.mem_flatMap.mp h
  exact (List.mem_filter.mp hn).1

theorem runDump {a : Arithmetic} {sts : List Statement} {p : Progress}
    (h : runDump a s sts = .ok p) : Visited s p.builder := by
  obtain ⟨defined, hdefined, h⟩ := bind_eq_ok h
  obtain ⟨indexed, hindexed, h⟩ := bind_eq_ok h
  obtain ⟨hgathered, hasked⟩ := ((start.run hdefined).run hindexed).gather [] _ (by simp)
  refine run (hgathered.foldl _ (fun c hmem _ hb => ?_)) h
  exact hb.alter (hasked c (mem_of_mem_byPhase hmem))

theorem dialect (h : Visited s b) : b.dialect = s.dialect := by
  induction h with
  | start => rfl
  | warn message _ ih => exact ih
  | addTable hr _ ih => exact (Builder.frame_addTable _ _).dialect.trans ih
  | addType t _ ih =>
    unfold Builder.addType
    split
    · exact ih
    · exact ih
  | addIndex i hr _ ih => exact (Builder.frame_addIndex _ i _).dialect.trans ih
  | apply i fact _ ih => exact (Builder.frame_apply _ i fact).dialect.trans ih
  | addColumn i ha _ ih => exact (Builder.frame_addColumn _ i _).dialect.trans ih
  | modifyColumn i ha _ ih => exact ih
  | setDefault i column value _ ih =>
    exact (Builder.frame_onColumn _ i column _ _).dialect.trans ih
  | setNotNull i column _ ih => exact ih
  | setTableComment i comment _ ih => exact ih
  | setColumnComment i column comment _ ih =>
    exact (Builder.frame_onColumn _ i column _ _).dialect.trans ih

end Visited

end SchemaChart.Import
