-- Diagrams without what dangles: pruning drops the indexes and relationships that name something
-- missing and leaves all else as it is. There is one issue for each of them and one for each name
-- beyond the first of its kind, and every relationship that is left has its foreign key.
import Mathlib.Algebra.GroupWithZero.Nat
import Mathlib.Data.Finset.Card
import SchemaChart.Diagram.Check
import SchemaChart.Export.ForeignKey
import SchemaChart.Proofs.Dependency
import SchemaChart.Proofs.SchemaDiagram

namespace SchemaChart.Diagram

open Import (EndIn)
open Text

/-! ## What dangles -/

/-- Does an index have fields, all of them fields of the table. -/
def Table.Covers (t : Table) (i : Index) : Prop :=
  i.fieldIds ≠ [] ∧ ∀ id ∈ i.fieldIds, ∃ f ∈ t.fields, f.id = id

instance (t : Table) (i : Index) : Decidable (t.Covers i) := inferInstanceAs (Decidable (_ ∧ _))

instance (d : Diagram) (e : End) : Decidable (EndIn d e) :=
  inferInstanceAs (Decidable (∃ t ∈ d.tables, _))

/-- Is each end of a relationship a field of a table in the diagram. -/
def Connects (d : Diagram) (r : Relationship) : Prop := EndIn d r.source ∧ EndIn d r.target

instance (d : Diagram) (r : Relationship) : Decidable (d.Connects r) :=
  inferInstanceAs (Decidable (_ ∧ _))

/-- The indexes that dangle, table by table. -/
def danglingIndexes (d : Diagram) : List Index :=
  d.tables.flatMap fun t => t.indexes.filter fun i => ¬ t.Covers i

def danglingRelationships (d : Diagram) : List Relationship :=
  d.relationships.filter fun r => ¬ d.Connects r

theorem holds_eq_covers (t : Table) (i : Index) : t.holds i = decide (t.Covers i) := by
  rw [Bool.eq_iff_iff, decide_eq_true_eq]
  unfold Table.holds Table.Covers
  simp

variable {d : Diagram}

theorem hasField_iff (h : d.DistinctIds) {tableId fieldId : String} :
    d.hasField tableId fieldId = true ↔ EndIn d ⟨tableId, fieldId⟩ := by
  unfold hasField EndIn
  constructor
  · intro hfield
    split at hfield
    · rename_i t ht
      obtain ⟨f, hf, hid⟩ := List.any_eq_true.mp hfield
      have hmem := List.mem_reverse.mp (List.mem_of_find?_eq_some ht)
      exact ⟨t, hmem, by simpa using List.find?_some ht, f, hf, beq_iff_eq.mp hid⟩
    · cases hfield
  · rintro ⟨t, ht, rfl, f, hf, rfl⟩
    -- with distinct identifiers the last table of an identifier is the only one
    have hfind : d.tables.reverse.find? (·.id == t.id) = some t :=
      find?_eq_of_unique (List.mem_reverse.mpr ht) (beq_self_eq_true _) fun u hu hid =>
        h.eq (List.mem_reverse.mp hu) ht (beq_iff_eq.mp hid)
    rw [hfind]
    exact List.any_eq_true.mpr ⟨f, hf, beq_self_eq_true _⟩

theorem joins_eq_connects (h : d.DistinctIds) (r : Relationship) :
    d.joins r = decide (d.Connects r) := by
  rw [Bool.eq_iff_iff, decide_eq_true_eq]
  unfold joins Connects
  rw [Bool.and_eq_true, hasField_iff h, hasField_iff h]
  rfl

/-! ## The pruned diagram -/

theorem pruned_eq (h : d.DistinctIds) :
    d.pruned = { d with
      tables := d.tables.map fun t => { t with indexes := t.indexes.filter fun i => t.Covers i }
      relationships := d.relationships.filter fun r => d.Connects r } := by
  unfold pruned Table.pruned
  simp only [funext (holds_eq_covers _), funext (joins_eq_connects h)]

theorem hasField_pruned (d : Diagram) (tableId fieldId : String) :
    d.pruned.hasField tableId fieldId = d.hasField tableId fieldId := by
  have hfind : d.pruned.tables.reverse.find? (·.id == tableId) =
      (d.tables.reverse.find? (·.id == tableId)).map Table.pruned := by
    unfold pruned
    rw [← List.map_reverse, List.find?_map]
    rfl
  unfold hasField
  rw [hfind]
  cases d.tables.reverse.find? (·.id == tableId) with
  | none => rfl
  | some t => rfl

theorem joins_pruned (d : Diagram) : d.pruned.joins = d.joins := by
  funext r
  unfold joins
  rw [hasField_pruned, hasField_pruned]

theorem holds_pruned (t : Table) : t.pruned.holds = t.holds := rfl

theorem tablePruned_pruned (t : Table) : t.pruned.pruned = t.pruned := by
  have hindexes : t.pruned.indexes.filter t.pruned.holds = t.pruned.indexes := by
    rw [holds_pruned]
    exact List.filter_filter.trans (by simp [Table.pruned])
  exact congrArg (fun is => { t with indexes := is }) hindexes

/-- Pruning a second time changes nothing. -/
theorem pruned_pruned (d : Diagram) : d.pruned.pruned = d.pruned := by
  have htables : d.pruned.tables.map Table.pruned = d.pruned.tables := by
    unfold pruned
    rw [List.map_map]
    exact List.map_congr_left fun t _ => tablePruned_pruned t
  have hrelationships : d.pruned.relationships.filter d.pruned.joins = d.pruned.relationships := by
    rw [joins_pruned]
    exact List.filter_filter.trans (by simp [pruned])
  calc d.pruned.pruned
      = { d.pruned with
          tables := d.pruned.tables.map Table.pruned
          relationships := d.pruned.relationships.filter d.pruned.joins } := rfl
    _ = d.pruned := by rw [htables, hrelationships]

theorem distinctIds_pruned (h : d.DistinctIds) : d.pruned.DistinctIds := by
  unfold DistinctIds pruned
  rw [List.map_map]
  exact h

theorem covers_of_mem_pruned {t : Table} (ht : t ∈ d.pruned.tables) {i : Index}
    (hi : i ∈ t.indexes) : t.Covers i := by
  obtain ⟨u, hu, rfl⟩ := List.mem_map.mp ht
  have hholds := (List.mem_filter.mp hi).2
  rw [← holds_pruned, holds_eq_covers] at hholds
  exact of_decide_eq_true hholds

theorem connects_of_mem_pruned (h : d.DistinctIds) {r : Relationship}
    (hr : r ∈ d.pruned.relationships) : d.pruned.Connects r := by
  have hjoins := (List.mem_filter.mp hr).2
  rw [← joins_pruned, joins_eq_connects (distinctIds_pruned h)] at hjoins
  exact of_decide_eq_true hjoins

/-- In a pruned diagram nothing dangles. -/
theorem dangling_pruned (h : d.DistinctIds) :
    d.pruned.danglingIndexes = [] ∧ d.pruned.danglingRelationships = [] := by
  constructor
  · refine List.flatMap_eq_nil_iff.mpr fun t ht => List.filter_eq_nil_iff.mpr fun i hi => ?_
    simpa using covers_of_mem_pruned ht hi
  · refine List.filter_eq_nil_iff.mpr fun r hr => ?_
    simpa using connects_of_mem_pruned h hr

/-! ## Names that occur twice -/

section

variable {α : Type*} [DecidableEq α] {k : α} {seen : Finset α} {ks : List α}

/-- A key that was seen before is no new one. -/
theorem card_new_of_mem (hk : k ∈ seen) :
    ((k :: ks).toFinset \ seen).card = (ks.toFinset \ seen).card := by
  rw [List.toFinset_cons, Finset.insert_sdiff_of_mem _ hk]

theorem card_new_of_notMem (hk : k ∉ seen) :
    ((k :: ks).toFinset \ seen).card = (ks.toFinset \ insert k seen).card + 1 := by
  have hsplit : (k :: ks).toFinset \ seen = insert k (ks.toFinset \ insert k seen) := by
    ext x
    by_cases hx : x = k
    · simp [hx, hk]
    · simp [hx]
  rw [hsplit, Finset.card_insert_of_notMem (by simp)]

end

theorem length_conflictsFrom (seen ts : List Table) :
    (conflictsFrom seen ts).length +
      ((ts.map Table.nameKey).toFinset \ (seen.map Table.nameKey).toFinset).card = ts.length := by
  induction ts generalizing seen with
  | nil => simp [conflictsFrom]
  | cons t ts ih =>
    unfold conflictsFrom
    split
    · rename_i s hs
      have hmem : t.nameKey ∈ (seen.map Table.nameKey).toFinset := by
        rw [List.mem_toFinset]
        exact List.mem_map.mpr ⟨s, List.mem_of_find?_eq_some hs, by simpa using List.find?_some hs⟩
      have ih := ih seen
      rw [List.map_cons, card_new_of_mem hmem, List.length_cons, List.length_cons]
      omega
    · rename_i hnone
      have hfresh : t.nameKey ∉ (seen.map Table.nameKey).toFinset := by
        rw [List.mem_toFinset]
        intro hmem
        obtain ⟨s, hs, hkey⟩ := List.mem_map.mp hmem
        exact List.find?_eq_none.mp hnone s hs (beq_iff_eq.mpr hkey)
      have hseen : ((seen ++ [t]).map Table.nameKey).toFinset =
          insert t.nameKey (seen.map Table.nameKey).toFinset := by
        ext x
        simp
      have ih := ih (seen ++ [t])
      rw [hseen] at ih
      rw [List.map_cons, card_new_of_notMem hfresh, List.length_cons]
      omega

theorem length_repeatedFrom (seen : List (List Char)) (names : List String) :
    (repeatedFrom seen names).length +
      ((names.map fun n => lower n.toList).toFinset \ seen.toFinset).card = names.length := by
  induction names generalizing seen with
  | nil => simp [repeatedFrom]
  | cons n names ih =>
    unfold repeatedFrom
    dsimp only
    split
    · rename_i hseen
      have hmem : lower n.toList ∈ seen.toFinset := by simpa using hseen
      have ih := ih seen
      rw [List.map_cons, card_new_of_mem hmem, List.length_cons, List.length_cons]
      omega
    · rename_i hseen
      have hfresh : lower n.toList ∉ seen.toFinset := by simpa using hseen
      have ih := ih (lower n.toList :: seen)
      rw [List.toFinset_cons] at ih
      rw [List.map_cons, card_new_of_notMem hfresh, List.length_cons]
      omega

/-- What two fields of a table must not share: the name in lower case. -/
def Field.nameKey (f : Field) : List Char := lower f.name.toList

/-- How many tables there are beyond one for each name. -/
def surplusTables (d : Diagram) : Nat :=
  d.tables.length - (d.tables.map Table.nameKey).toFinset.card

/-- How many fields of a table there are beyond one for each name. -/
def Table.surplusFields (t : Table) : Nat :=
  t.fields.length - (t.fields.map Field.nameKey).toFinset.card

theorem length_namingConflicts (d : Diagram) :
    (namingConflicts d.tables).length = d.surplusTables := by
  have hlength := length_conflictsFrom [] d.tables
  rw [List.map_nil, List.toFinset_nil, Finset.sdiff_empty] at hlength
  unfold namingConflicts surplusTables
  omega

theorem length_duplicateFields (t : Table) : t.duplicateFields.length = t.surplusFields := by
  have hlength := length_repeatedFrom [] (t.fields.map (·.name))
  have hkeys : (t.fields.map (·.name)).map (fun n => lower n.toList)
      = t.fields.map Field.nameKey := by
    rw [List.map_map]
    rfl
  rw [hkeys, List.toFinset_nil, Finset.sdiff_empty, List.length_map] at hlength
  unfold Table.duplicateFields Table.surplusFields
  omega

/-! ## The issues -/

theorem length_issues (h : d.DistinctIds) :
    d.issues.length = d.danglingIndexes.length + d.danglingRelationships.length + d.surplusTables +
      (d.tables.map Table.surplusFields).sum := by
  have hindexes : ∀ t : Table, t.indexes.filter (!t.holds ·) =
      t.indexes.filter fun i => ¬ t.Covers i := fun t =>
    List.filter_congr fun i _ => by rw [holds_eq_covers, decide_not]
  have hrelationships : d.relationships.filter (!d.joins ·) = d.danglingRelationships :=
    List.filter_congr fun r _ => by rw [joins_eq_connects h, decide_not]
  unfold issues danglingIndexes
  simp only [List.length_append, List.length_flatMap, List.length_map, hindexes, hrelationships,
    length_namingConflicts, length_duplicateFields]

theorem surplus_pruned (d : Diagram) :
    d.pruned.surplusTables = d.surplusTables ∧
      d.pruned.tables.map Table.surplusFields = d.tables.map Table.surplusFields := by
  have hkeys : d.pruned.tables.map Table.nameKey = d.tables.map Table.nameKey := List.map_map
  have hlength : d.pruned.tables.length = d.tables.length := List.length_map _
  unfold surplusTables
  rw [hkeys, hlength]
  exact ⟨rfl, List.map_map⟩

/-! ## Foreign keys -/

theorem key?_of_not_manyToMany {r : Relationship} (h : r.isManyToMany = false) :
    r.key? = some (r.target, r.source) ∨ r.key? = some (r.source, r.target) := by
  unfold Relationship.isManyToMany at h
  unfold Relationship.key?
  rcases hs : r.sourceCardinality <;> rcases ht : r.targetCardinality <;> simp_all

/-- An end that is there is found, table and field. -/
theorem found_of_endIn (h : d.DistinctIds) {e : End} (he : EndIn d e) :
    ∃ t f, d.tableById? e.tableId = some t ∧ t.fieldById? e.fieldId = some f := by
  obtain ⟨t, ht, hid, f, hf, hfield⟩ := he
  have hsome : (t.fieldById? e.fieldId).isSome = true := by
    unfold Table.fieldById?
    exact List.find?_isSome.mpr ⟨f, hf, beq_iff_eq.mpr hfield⟩
  obtain ⟨g, hg⟩ := Option.isSome_iff_exists.mp hsome
  exact ⟨t, g, hid ▸ h.tableById? ht, hg⟩

theorem foreignKey?_isSome (h : d.DistinctIds) {r : Relationship} (hr : d.Connects r)
    (hmany : r.isManyToMany = false) : (Export.foreignKey? d r).isSome = true := by
  have hfound : ∀ a b, r.key? = some (a, b) → EndIn d a → EndIn d b →
      (Export.foreignKey? d r).isSome = true := by
    intro a b hkey ha hb
    obtain ⟨t, f, ht, hf⟩ := found_of_endIn h ha
    obtain ⟨u, g, hu, hg⟩ := found_of_endIn h hb
    unfold Export.foreignKey?
    simp [hkey, ht, hf, hu, hg]
  rcases key?_of_not_manyToMany hmany with hkey | hkey
  · exact hfound _ _ hkey hr.2 hr.1
  · exact hfound _ _ hkey hr.1 hr.2

/-- Of every table the indexes that have fields, all of them of the table, are kept in their order,
and of the relationships those between fields that exist; nothing else changes. The issues count
what was dropped, the tables beyond one for each name, and the fields of each table beyond one for
each name. What is left has its foreign key, unless it is between many and many, and nothing of it
is dropped a second time. -/
theorem pruning_drops_just_what_dangles (d : Diagram) (h : d.DistinctIds) :
    d.pruned = { d with
      tables := d.tables.map fun t => { t with indexes := t.indexes.filter fun i => t.Covers i }
      relationships := d.relationships.filter fun r => d.Connects r } ∧
    d.issues.length = d.danglingIndexes.length + d.danglingRelationships.length + d.surplusTables +
      (d.tables.map Table.surplusFields).sum ∧
    (∀ r ∈ d.pruned.relationships, r.isManyToMany = false →
      (Export.foreignKey? d.pruned r).isSome = true) ∧
    d.pruned.pruned = d.pruned ∧
    d.pruned.danglingIndexes = [] ∧ d.pruned.danglingRelationships = [] ∧
    d.pruned.issues.length = d.surplusTables + (d.tables.map Table.surplusFields).sum := by
  have hdistinct := distinctIds_pruned h
  obtain ⟨hindexes, hrelationships⟩ := dangling_pruned h
  refine ⟨pruned_eq h, length_issues h, fun r hr hmany => ?_, pruned_pruned d, hindexes,
    hrelationships, ?_⟩
  · exact foreignKey?_isSome hdistinct (connects_of_mem_pruned h hr) hmany
  · have hlength := length_issues hdistinct
    rw [hindexes, hrelationships, (surplus_pruned d).1, (surplus_pruned d).2] at hlength
    simpa using hlength

/-- A library in which an index of the loans names a field of the books and another one names no
field at all, the key to the desks leads nowhere, and the members stand there twice, the second time
in capitals and with two fields of one name. -/
def untidyLibrary : Diagram :=
  { lendingLibrary with
    tables :=
      [{ libraryTable "loans" with
          indexes :=
            [{ id := "i1", name := "by_book", fieldIds := ["books"] },
              { id := "i2", name := "by_loan", fieldIds := ["loans"] },
              { id := "i3", name := "by_nothing", fieldIds := [] }] },
        libraryTable "books", libraryTable "members", libraryTable "authors",
        { libraryTable "guests" with
          name := "MEMBERS"
          fields :=
            [{ id := "g1", name := "id", type := .named "integer" },
              { id := "g2", name := "ID", type := .named "integer" }] }] }

theorem the_untidy_library_is_tidied_up :
    untidyLibrary.DistinctIds ∧
      untidyLibrary.issues =
        ["Index by_book on loans dropped: it references a missing field",
          "Index by_nothing on loans dropped: it references a missing field",
          "Relationship loan_desk dropped: it references a missing table or field",
          "Table MEMBERS duplicates table members",
          "Field ID appears more than once in MEMBERS"] ∧
      untidyLibrary.danglingIndexes.length + untidyLibrary.danglingRelationships.length +
        untidyLibrary.surplusTables + (untidyLibrary.tables.map Table.surplusFields).sum = 5 ∧
      untidyLibrary.pruned.pruned = untidyLibrary.pruned := by
  have hids : untidyLibrary.DistinctIds := by
    unfold DistinctIds
    decide +kernel
  obtain ⟨-, hlength, -, hagain, -⟩ := pruning_drops_just_what_dangles untidyLibrary hids
  refine ⟨hids, by decide +kernel, ?_, hagain⟩
  rw [← hlength]
  decide +kernel

end SchemaChart.Diagram
