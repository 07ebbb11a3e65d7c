-- What statements can declare: tables without indexes whose key columns are not null, indexes that
-- are no primary keys, and new columns that state nothing but foreign keys.
import SchemaChart.Proofs.Declarations

namespace SchemaChart.Schema

/-- A column of the primary key is not null. -/
def Column.KeyNotNull (c : Column) : Prop := c.primaryKey = true → c.nullable = false

def Fact.IsForeignKey : Fact → Prop
  | .foreignKey .. => True
  | _ => False

/-- A column that is added or defined anew is well-formed, and states foreign keys alone. -/
def Alteration.Fresh : Alteration → Prop
  | .addColumn c facts => c.KeyNotNull ∧ ∀ f ∈ facts, f.IsForeignKey
  | .modifyColumn c => c.KeyNotNull
  | _ => True

/-- What is declared is well-formed before anything is known about it, and changes are as they are
read from a text. -/
def Declaration.Fresh (s : Source) : Declaration → Prop
  | .table t _ _ => t.indexes = [] ∧ ∀ c ∈ t.columns, c.KeyNotNull
  | .index _ i => i.isPrimaryKey = false
  | .alter r changes => ∃ cs, Reading.alterTable s cs = .ok (r, changes)
  | _ => True

end SchemaChart.Schema

namespace SchemaChart.Reading

open Schema

/-! ## Columns -/

theorem settle_keyNotNull (c : Column) : (Source.settle c).KeyNotNull := by
  intro hkey
  have hold : c.primaryKey = true := hkey
  simp [Source.settle, hold]

theorem column?_keyNotNull {s : Source} {cs : List Char} {c : Column} {facts : List Fact}
    (h : column? s cs = some (c, facts)) : c.KeyNotNull := by
  obtain ⟨f, _, hf⟩ := Option.map_eq_some_iff.mp h
  rw [← (Prod.mk.inj hf).1]
  exact settle_keyNotNull _

/-- The only facts in the definition of a column are foreign keys. -/
theorem column?_facts {s : Source} {cs : List Char} {c : Column} {facts : List Fact}
    (h : column? s cs = some (c, facts)) : ∀ fact ∈ facts, fact.IsForeignKey := by
  obtain ⟨f, _, hf⟩ := Option.map_eq_some_iff.mp h
  intro fact hfact
  rw [← (Prod.mk.inj hf).2, Option.mem_toList] at hfact
  obtain ⟨r, _, rfl⟩ := Option.map_eq_some_iff.mp hfact
  exact trivial

/-! ## Tables and views -/

theorem elements_keyNotNull (s : Source) (elements : List (List Char)) {e : Elements}
    (h : ∀ c ∈ e.columns, c.KeyNotNull) :
    ∀ c ∈ (elements.foldl (Elements.add s) e).columns, c.KeyNotNull := by
  induction elements generalizing e with
  | nil => exact h
  | cons cs rest ih =>
    apply ih
    unfold Elements.add
    split
    · exact h
    · split
      · rename_i c facts hc
        intro d hd
        rcases List.mem_append.mp hd with hd | hd
        · exact h d hd
        · rw [List.mem_singleton.mp hd]
          exact column?_keyNotNull hc
      · exact h

theorem table_fresh {s : Source} {cs : List Char} {d : Declaration}
    (h : tableDeclaration s cs = .ok d) : d.Fresh s := by
  unfold tableDeclaration at h
  split at h
  · cases h
  · dsimp only at h
    split at h
    · cases h
    · split at h
      · cases h
      · cases h
        exact ⟨rfl, elements_keyNotNull s _ (by simp)⟩

theorem addViewColumns_keyNotNull (s : Source) (names : List (List Char)) {v : Table}
    (h : ∀ c ∈ v.columns, c.KeyNotNull) :
    ∀ c ∈ (names.foldl (addViewColumn s) v).columns, c.KeyNotNull := by
  induction names generalizing v with
  | nil => exact h
  | cons n ns ih =>
    apply ih
    unfold addViewColumn
    split
    · exact h
    · intro c hc
      rcases List.mem_append.mp hc with hc | hc
      · exact h c hc
      · rw [List.mem_singleton.mp hc]
        intro hkey
        cases hkey

theorem addViewColumns_indexes (s : Source) (names : List (List Char)) (v : Table) :
    (names.foldl (addViewColumn s) v).indexes = v.indexes := by
  induction names generalizing v with
  | nil => rfl
  | cons n ns ih =>
    rw [List.foldl_cons, ih]
    unfold addViewColumn
    split <;> rfl

theorem view_fresh {s : Source} {cs : List Char} {d : Declaration}
    (h : viewDeclaration s cs = .ok d) : d.Fresh s := by
  unfold viewDeclaration at h
  split at h
  · cases h
  · split at h
    · cases h
    · cases h
      exact ⟨addViewColumns_indexes s _ _, addViewColumns_keyNotNull s _ (by simp)⟩

/-! ## Indexes, alterations and comments -/

theorem createIndex_isPrimaryKey {cs : List Char} {r : TableRef} {i : Index}
    (h : createIndex cs = .ok (r, i)) : i.isPrimaryKey = false := by
  unfold createIndex at h
  split at h
  · cases h
  · split at h
    · cases h
    · dsimp only at h
      split at h
      · cases h
      · cases h
        rfl

theorem addition?_fresh {s : Source} {ws : List (List Char)} {a : Alteration}
    (h : addition? s ws = some a) : a.Fresh := by
  unfold addition? at h
  dsimp only at h
  split at h
  · obtain ⟨fact, _, rfl⟩ := Option.map_eq_some_iff.mp h
    exact trivial
  · obtain ⟨⟨c, facts⟩, hc, rfl⟩ := Option.map_eq_some_iff.mp h
    exact ⟨column?_keyNotNull hc, column?_facts hc⟩

theorem redefinition?_fresh {s : Source} {ws : List (List Char)} {a : Alteration}
    (h : redefinition? s ws = some a) : a.Fresh := by
  obtain ⟨⟨c, facts⟩, hc, rfl⟩ := Option.map_eq_some_iff.mp h
  exact column?_keyNotNull hc

theorem propertyChange?_fresh {s : Source} {ws : List (List Char)} {a : Alteration}
    (h : propertyChange? s ws = some a) : a.Fresh := by
  unfold propertyChange? at h
  split at h
  · cases h
  · dsimp only at h
    split at h
    · split at h
      · cases h
      · cases h
        exact trivial
    · split at h
      · cases h
        exact trivial
      · cases h

theorem alteration?_fresh {s : Source} {clause : List Char} {a : Alteration}
    (h : alteration? s clause = some a) : a.Fresh := by
  unfold alteration? at h
  split at h
  · cases h
  · split at h
    · exact addition?_fresh h
    · exact redefinition?_fresh h
    · exact redefinition?_fresh h
    · exact propertyChange?_fresh h
    · cases h

theorem alterTable_fresh {s : Source} {cs : List Char} {r : TableRef} {changes : List Alteration}
    (h : alterTable s cs = .ok (r, changes)) : ∀ a ∈ changes, a.Fresh := by
  unfold alterTable at h
  split at h
  · cases h
  · cases h
    intro a ha
    obtain ⟨clause, _, hc⟩ := List.mem_filterMap.mp ha
    exact alteration?_fresh hc

theorem type_fresh (s : Source) {cs : List Char} {d : Declaration}
    (h : typeDeclaration cs = .ok d) : d.Fresh s := by
  unfold typeDeclaration at h
  split at h
  · cases h
  · split at h
    · cases h
    · cases h
      exact trivial

theorem comment_fresh (s : Source) {cs : List Char} {d : Declaration}
    (h : commentDeclaration cs = .ok d) : d.Fresh s := by
  unfold commentDeclaration at h
  split at h
  · cases h
  · dsimp only at h
    split at h
    · cases h
      exact trivial
    · split at h
      · cases h
      · cases h
      · cases h
        exact trivial

end SchemaChart.Reading

namespace SchemaChart.Import

open Schema (Declaration)
open Script (Statement classify)

theorem strictTable_fresh {s : Source} {cs : List Char} {d : Declaration}
    (h : strictTableDeclaration s cs = .ok d) : d.Fresh s := by
  unfold strictTableDeclaration at h
  split at h
  · cases h
  · split at h
    · cases h
    · cases h
      refine ⟨rfl, fun c hc => ?_⟩
      obtain ⟨definition, _, rfl⟩ := List.mem_map.mp hc
      exact Reading.settle_keyNotNull _
  · cases h

theorem strictIndex_fresh {s : Source} {cs : List Char} {d : Declaration}
    (h : strictIndexDeclaration s cs = .ok d) : d.Fresh s := by
  unfold strictIndexDeclaration at h
  split at h
  · cases h
  · split at h
    · cases h
    · cases h
      rfl
  · cases h

/-! ## Statements -/

/-- Whatever a statement declares is well-formed. -/
theorem read_fresh {s : Source} {st : Statement} {d : Declaration}
    (h : read s st = .ok (some d)) : d.Fresh s := by
  unfold read at h
  generalize classify st.text.toList = kind at h
  cases kind with
  | createTable =>
    obtain ⟨_, hd, he⟩ := map_eq_ok h
    cases he
    rcases strictFirst_eq_ok (mapError_eq_ok hd) with hs | ht
    · exact strictTable_fresh hs
    · exact Reading.table_fresh ht
  | createIndex =>
    obtain ⟨_, hd, he⟩ := map_eq_ok h
    cases he
    rcases strictFirst_eq_ok (mapError_eq_ok hd) with hs | ht
    · exact strictIndex_fresh hs
    · obtain ⟨_, hi, he⟩ := map_eq_ok ht
      cases he
      exact Reading.createIndex_isPrimaryKey hi
  | alterTable =>
    obtain ⟨_, hd, he⟩ := map_eq_ok h
    cases he
    obtain ⟨_, ha, he⟩ := map_eq_ok (mapError_eq_ok hd)
    cases he
    exact ⟨_, ha⟩
  | createView =>
    obtain ⟨_, hd, he⟩ := map_eq_ok h
    cases he
    exact Reading.view_fresh hd
  | createType =>
    obtain ⟨_, hd, he⟩ := map_eq_ok h
    cases he
    exact Reading.type_fresh s (mapError_eq_ok hd)
  | commentOn =>
    obtain ⟨_, hd, he⟩ := map_eq_ok h
    cases he
    exact Reading.comment_fresh s (mapError_eq_ok hd)
  | other =>
    cases h

end SchemaChart.Import
