-- What the diagram of a schema keeps: its tables with their columns and indexes, and one
-- relationship or one message for each of its foreign keys.
import Mathlib.Data.List.Nodup
import SchemaChart.Proofs.KeyDirection

namespace SchemaChart.Import

open Diagram (End Field Relationship)
open Text

/-! ## The diagram of a schema -/

/-- Is an identifier that of a field with the name of a column, up to case. -/
def FieldOf (fields : List Field) (column id : String) : Prop :=
  ∃ f ∈ fields, f.id = id ∧ sameName f.name column = true

/-- Does an index in a diagram stand for one of the schema: it has fields, and they are those of the
columns, in a table of the diagram. -/
structure IndexOf (u : Diagram.Table) (i : Schema.Index) (j : Diagram.Index) : Prop where
  name : j.name = i.name
  nonempty : j.fieldIds ≠ []
  fields : List.Forall₂ (FieldOf u.fields) i.columns j.fieldIds

/-- Does a table in a diagram stand for one of the schema. Only indexes without columns are left
out. -/
structure TableOf (t : Schema.Table) (u : Diagram.Table) : Prop where
  name : u.name = t.name
  columns : u.fields.map (·.name) = t.columns.map (·.name)
  indexes : List.Forall₂ (IndexOf u) (t.indexes.filter (!·.columns.isEmpty)) u.indexes

/-- Does a relationship run between the two columns of a foreign key, in one direction or the
other. -/
structure RelationshipOf (shown : List Schema.Table) (source : Dialect) (d : Diagram)
    (k : Schema.ForeignKey) (r : Relationship) : Prop where
  name : r.name = k.name
  between : ∃ a b t f u g, holdingEnd? shown source k = some a ∧
    targetEnd? shown source k = some b ∧ a.At d source t f ∧ b.At d source u g ∧
    ((r.source = ⟨t.id, f.id⟩ ∧ r.target = ⟨u.id, g.id⟩) ∨
      (r.source = ⟨u.id, g.id⟩ ∧ r.target = ⟨t.id, f.id⟩))

/-- Is an end of a relationship a field of a table in the diagram. -/
def EndIn (d : Diagram) (e : End) : Prop :=
  ∃ t ∈ d.tables, t.id = e.tableId ∧ ∃ f ∈ t.fields, f.id = e.fieldId

/-- Is a message about a relationship. -/
def namesRelationship (m : String) : Bool := "Relationship ".toList.isPrefixOf m.toList

/-- What is said about a foreign key that is skipped, because one of its tables is missing or else
one of its columns. -/
def skipMessage (shown : List Schema.Table) (source : Dialect) (k : Schema.ForeignKey) : String :=
  if (endTable? shown source k.sourceTableId k.sourceTable k.sourceSchema).isSome &&
      (endTable? shown source k.targetTableId k.targetTable k.targetSchema).isSome then
    "Relationship " ++ k.name ++ " skipped: column " ++ k.sourceTable ++ "." ++ k.sourceColumn
      ++ " or " ++ k.targetTable ++ "." ++ k.targetColumn ++ " not found"
  else
    "Relationship " ++ k.name ++ " skipped: table " ++ k.sourceTable ++ " or " ++ k.targetTable
      ++ " not found"

/-- Does a diagram, with what is said about it, stand for a schema. -/
structure DiagramOf (s : Schema) (source : Dialect) (o : Options) (d : Diagram)
    (said : List String) : Prop where
  tables : List.Forall₂ TableOf (included s o) d.tables
  tableIds : (d.tables.map (·.id)).Nodup
  fieldIds : ((d.tables.flatMap (·.fields)).map (·.id)).Nodup
  ends : ∀ r ∈ d.relationships, EndIn d r.source ∧ EndIn d r.target
  relationships : List.Forall₂ (RelationshipOf (included s o) source d)
    (s.relationships.filter (convertible (included s o) source)) d.relationships
  skipped : said.filter namesRelationship =
    (s.relationships.filter (!convertible (included s o) source ·)).map
      (skipMessage (included s o) source)

/-! ## Tables -/

theorem forall₂_of_mapM {f : α → Except ε β} {xs : List α} {ys : List β} (h : xs.mapM f = .ok ys) :
    List.Forall₂ (fun x y => f x = .ok y) xs ys := by
  induction xs generalizing ys with
  | nil =>
    cases h
    exact .nil
  | cons x xs ih =>
    obtain ⟨y, ys, hy, hys, rfl⟩ := mapM_cons_eq_ok h
    exact .cons hy (ih hys)

/-- What is on the right of paired lists has something on the left. -/
theorem exists_of_forall₂ {R : α → β → Prop} {xs : List α} {ys : List β}
    (h : List.Forall₂ R xs ys) {y : β} (hy : y ∈ ys) : ∃ x ∈ xs, R x y := by
  induction h with
  | nil => cases hy
  | cons hr _ ih =>
    rcases List.mem_cons.mp hy with rfl | hy
    · exact ⟨_, List.mem_cons_self, hr⟩
    · obtain ⟨x, hx, hxy⟩ := ih hy
      exact ⟨x, List.mem_cons_of_mem _ hx, hxy⟩

/-- Paired lists stay paired if the same pairs are taken out. -/
theorem forall₂_filter {R S : α → β → Prop} {p : α → Bool} {q : β → Bool} {xs : List α}
    {ys : List β} (h : List.Forall₂ R xs ys) (hpq : ∀ a b, R a b → q b = p a)
    (hs : ∀ a b, R a b → p a = true → S a b) : List.Forall₂ S (xs.filter p) (ys.filter q) := by
  induction h with
  | nil => exact .nil
  | @cons a b _ _ hr _ ih =>
    rw [List.filter_cons, List.filter_cons, hpq a b hr]
    rcases hp : p a with _ | _
    · exact ih
    · exact .cons (hs a b hr hp) ih

theorem names_fieldsOf (s : Schema) (id : String) (t : Schema.Table) :
    (fieldsOf s id t).map (·.name) = t.columns.map (·.name) := by
  apply List.ext_getElem?
  intro k
  rw [List.getElem?_map, List.getElem?_map, fieldsOf_getElem?, Option.map_map]
  rfl

section

variable {s : Schema} {source target : Dialect} {o : Options} {t : Schema.Table}

/-- An index names the fields of its columns, in their order. -/
theorem forall₂_indexFields {id : String} {i : Schema.Index} {ids : List String}
    (h : indexFields t (fieldsOf s id t) i = .ok ids) :
    List.Forall₂ (FieldOf (fieldsOf s id t)) i.columns ids := by
  unfold indexFields at h
  refine (forall₂_of_mapM h).imp fun c fid hc => ?_
  split at hc
  · rename_i f hf
    obtain ⟨k, hk, hget⟩ := Option.bind_eq_some_iff.mp hf
    obtain ⟨g, hg, hname⟩ := Schema.positionByName?_eq_some hk
    obtain rfl : g = f := Option.some.inj (hg.symm.trans hget)
    exact ⟨g, List.mem_of_getElem? hg, Except.ok.inj hc, hname⟩
  · cases hc

theorem forall₂_indexIn {id : String} {i : Schema.Index} {j : Diagram.Index}
    (h : indexIn s id t i = .ok j) :
    j.name = i.name ∧ List.Forall₂ (FieldOf (fieldsOf s id t)) i.columns j.fieldIds := by
  unfold indexIn at h
  rcases hf : indexFields t (fieldsOf s id t) i with e | ids
  · simp [hf, bind, Except.bind] at h
  · simp only [hf, bind, Except.bind, pure, Except.pure, Except.ok.injEq] at h
    subst h
    exact ⟨rfl, forall₂_indexFields hf⟩

/-- An index is kept just if it has columns. -/
theorem holds_eq {u : Diagram.Table} {columns : List String} {j : Diagram.Index}
    (h : List.Forall₂ (FieldOf u.fields) columns j.fieldIds) :
    u.holds j = !columns.isEmpty := by
  have hall : j.fieldIds.all (fun fid => u.fields.any (·.id == fid)) = true := by
    rw [List.all_eq_true]
    intro fid hfid
    obtain ⟨c, _, f, hf, rfl, _⟩ := exists_of_forall₂ h hfid
    exact List.any_eq_true.mpr ⟨f, hf, beq_self_eq_true f.id⟩
  unfold Diagram.Table.holds
  rw [hall, Bool.and_true]
  generalize j.fieldIds = ids at h
  cases h with
  | nil => rfl
  | cons _ _ => rfl

/-- A table stands for the one that it was made from. -/
theorem tableOf_finished {n : Nat} {u : Diagram.Table} (h : table s source o n t = .ok u) :
    TableOf t (finishedTable u) := by
  rw [table_eq] at h
  rcases hm : t.indexes.mapM (indexIn s ("t" ++ toString n) t) with e | indexes
  · rw [hm] at h
    cases h
  · rw [hm] at h
    cases h
    let u := placedTable s source o n t indexes
    have hkept : List.Forall₂ (IndexOf u) (t.indexes.filter (!·.columns.isEmpty))
        (indexes.filter u.holds) := by
      refine forall₂_filter ((forall₂_of_mapM hm).imp fun i j => forall₂_indexIn)
        (fun i j h => holds_eq h.2) fun i j h hi => ⟨h.1, ?_, h.2⟩
      intro hnil
      rw [hnil] at h
      rw [List.forall₂_nil_right_iff.mp h.2] at hi
      cases hi
    refine ⟨rfl, ?_, forall₂_mapIdx hkept fun _ i j h => ⟨h.name, h.nonempty, h.fields⟩⟩
    exact names_fieldsOf s _ t

theorem forall₂_tablesFrom {n : Nat} {ts : List Schema.Table} {us : List Diagram.Table}
    (h : tablesFrom s source o n ts = .ok us) :
    List.Forall₂ TableOf ts (us.map finishedTable) := by
  induction ts generalizing n us with
  | nil =>
    cases h
    exact .nil
  | cons t ts ih =>
    obtain ⟨u, us, hu, hus, rfl⟩ := tablesFrom_cons_eq_ok h
    exact .cons (tableOf_finished hu) (ih hus)

end

/-! ## Identifiers -/

theorem letter_notMem_toString (n : Nat) : 'f' ∉ (toString n).toList := by
  intro h
  have hdigit : Char.isDigit 'f' = true := by
    refine Nat.isDigit_of_mem_toDigits (by decide) (by decide) (b := 10) (n := n) ?_
    simpa [Nat.toString_eq_repr, Nat.repr] using h
  revert hdigit
  decide

/-- The identifier of a field tells its table and its position in it. -/
theorem fieldId_injective {n k m l : Nat}
    (h : "t" ++ toString n ++ "f" ++ toString k = "t" ++ toString m ++ "f" ++ toString l) :
    n = m ∧ k = l := by
  have hchars := congrArg String.toList h
  simp only [String.toList_append, List.append_assoc, List.append_cancel_left_eq] at hchars
  obtain ⟨hn, _, hk⟩ := (List.append_cons_inj_of_notMem (letter_notMem_toString n)
    (letter_notMem_toString k)).mp hchars
  exact ⟨eq_of_toString_eq (String.toList_inj.mp hn), eq_of_toString_eq (String.toList_inj.mp hk)⟩

section

variable (s : Schema) (source : Dialect) (o : Options) (indexes : Nat → List Diagram.Index)
  (shown : List Schema.Table)

theorem nodup_tableIds :
    ((shown.zipIdx.map (shownTable s source o indexes)).map (·.id)).Nodup := by
  have hids : (shown.zipIdx.map (shownTable s source o indexes)).map (·.id) =
      (shown.zipIdx.map Prod.snd).map (fun n => "t" ++ toString n) := by
    rw [List.map_map, List.map_map]
    rfl
  rw [hids, List.zipIdx_map_snd]
  refine List.Nodup.map (fun n m h => ?_) List.nodup_range'
  exact eq_of_numbered_eq h

theorem fieldIds_fieldsOf (id : String) (t : Schema.Table) :
    (fieldsOf s id t).map (·.id) =
      (List.range t.columns.length).map (fun k => id ++ "f" ++ toString k) := by
  apply List.ext_getElem?
  intro k
  rw [List.getElem?_map, List.getElem?_map, fieldsOf_getElem?, Option.map_map]
  by_cases hk : k < t.columns.length
  · rw [List.getElem?_eq_getElem hk, List.getElem?_range hk]
    rfl
  · simp [Nat.le_of_not_lt hk]

theorem nodup_fieldIds :
    (((shown.zipIdx.map (shownTable s source o indexes)).flatMap (·.fields)).map (·.id)).Nodup := by
  rw [List.flatMap_map, List.map_flatMap, List.nodup_flatMap]
  constructor
  · rintro ⟨t, n⟩ _
    change ((fieldsOf s ("t" ++ toString n) t).map (·.id)).Nodup
    rw [fieldIds_fieldsOf]
    refine List.Nodup.map (fun k l h => ?_) List.nodup_range
    exact (fieldId_injective h).2
  · have hpairs : (shown.zipIdx.map Prod.snd).Nodup := by
      rw [List.zipIdx_map_snd]
      exact List.nodup_range'
    refine (List.pairwise_map.mp hpairs).imp ?_
    rintro ⟨t, n⟩ ⟨u, m⟩ hne x hx hy
    change x ∈ (fieldsOf s ("t" ++ toString n) t).map (·.id) at hx
    change x ∈ (fieldsOf s ("t" ++ toString m) u).map (·.id) at hy
    rw [fieldIds_fieldsOf] at hx hy
    obtain ⟨k, _, rfl⟩ := List.mem_map.mp hx
    obtain ⟨l, _, heq⟩ := List.mem_map.mp hy
    exact hne (fieldId_injective heq).1.symm

end

/-! ## Relationships -/

section

variable {s : Schema} {source target : Dialect} {o : Options} {indexes : Nat → List Diagram.Index}
  {d : Diagram}

/-- A relationship runs between the columns of the foreign key that it was made from. -/
theorem MadeFrom.relationshipOf {k : Schema.ForeignKey} {r : Relationship}
    (h : MadeFrom s source o indexes k r)
    (hd : d.tables = (included s o).zipIdx.map (shownTable s source o indexes)) :
    RelationshipOf (included s o) source (numbered d.pruned) k r := by
  obtain ⟨a, b, ha, hb, id, rfl⟩ := h
  have hat := (in_of_bind source ha).at_finished s source o indexes hd
  have hbt := (in_of_bind source hb).at_finished s source o indexes hd
  unfold orient
  split
  · exact ⟨rfl, a, b, _, _, _, _, ha, hb, hat, hbt, .inl ⟨rfl, rfl⟩⟩
  · exact ⟨rfl, a, b, _, _, _, _, ha, hb, hat, hbt, .inr ⟨rfl, rfl⟩⟩

theorem KeyEnd.At.endIn {e : KeyEnd} {t : Diagram.Table} {f : Field} (h : e.At d source t f) :
    EndIn d ⟨t.id, f.id⟩ :=
  ⟨t, List.mem_of_getElem? h.table, rfl, f, List.mem_of_getElem? h.field, rfl⟩

theorem RelationshipOf.ends {shown : List Schema.Table} {k : Schema.ForeignKey} {r : Relationship}
    (h : RelationshipOf shown source d k r) : EndIn d r.source ∧ EndIn d r.target := by
  obtain ⟨a, b, t, f, u, g, _, _, ha, hb, ⟨hs, ht⟩ | ⟨hs, ht⟩⟩ := h.between
  · rw [hs, ht]
    exact ⟨ha.endIn, hb.endIn⟩
  · rw [hs, ht]
    exact ⟨hb.endIn, ha.endIn⟩

end

/-! ## Messages -/

theorem namesRelationship_append (m : String) :
    namesRelationship ("Relationship " ++ m) = true := by
  unfold namesRelationship
  rw [String.toList_append, List.isPrefixOf_iff_prefix]
  exact List.prefix_append _ _

/-- A message that starts with another word is not about a relationship. -/
theorem not_namesRelationship {word : String} (h : word.toList.head?.any (· != 'R') = true)
    (m : String) : ¬ namesRelationship (word ++ m) = true := by
  have hname : "Relationship ".toList = 'R' :: "elationship ".toList := rfl
  unfold namesRelationship
  rw [String.toList_append, List.isPrefixOf_iff_prefix, hname]
  rcases hword : word.toList with _ | ⟨c, cs⟩
  · rw [hword] at h
    cases h
  · rw [hword] at h
    intro hprefix
    rw [List.cons_append, List.cons_prefix_cons] at hprefix
    rw [← hprefix.1] at h
    simp at h

theorem filter_findTable (placed : Placed) (source : Dialect) (id name : String)
    (schema : Option String) :
    (findTable placed source id name schema).2.filter namesRelationship = [] := by
  unfold findTable
  split
  · rfl
  · dsimp only
    split
    · rfl
    · split
      · rw [List.filter_eq_nil_iff]
        intro m hm
        rw [List.mem_singleton.mp hm, String.append_assoc]
        exact not_namesRelationship (by decide) _
      · rfl

/-- A foreign key is skipped with one message, or it is not skipped. -/
theorem filter_relationship (s : Schema) (source : Dialect) (o : Options)
    (indexes : Nat → List Diagram.Index) (shown : List Schema.Table) (k : Schema.ForeignKey) :
    (relationship (shown.zipIdx.map (fun u => (u.1.id, shownTable s source o indexes u))) source
      k).2.filter namesRelationship =
      if convertible shown source k then [] else [skipMessage shown source k] := by
  let placed := shown.zipIdx.map (fun u => (u.1.id, shownTable s source o indexes u))
  have hsource := findTable_shown s source o indexes shown k.sourceTableId k.sourceTable
    k.sourceSchema
  have htarget := findTable_shown s source o indexes shown k.targetTableId k.targetTable
    k.targetSchema
  have hsaid := filter_findTable placed source k.sourceTableId k.sourceTable k.sourceSchema
  have hsaidToo := filter_findTable placed source k.targetTableId k.targetTable k.targetSchema
  unfold relationship convertible holdingEnd? targetEnd? skipMessage
  generalize findTable _ source k.sourceTableId k.sourceTable k.sourceSchema = x at hsource hsaid
  generalize findTable _ source k.targetTableId k.targetTable k.targetSchema = y at htarget hsaidToo
  obtain ⟨x, said⟩ := x
  obtain ⟨y, saidToo⟩ := y
  subst hsource htarget
  have hsilent : (said ++ saidToo).filter namesRelationship = [] := by
    rw [List.filter_append, hsaid, hsaidToo, List.append_nil]
  have hskip : ∀ m, (said ++ saidToo ++ ["Relationship " ++ m]).filter namesRelationship =
      ["Relationship " ++ m] := by
    intro m
    rw [List.filter_append, hsilent, List.nil_append, List.filter_cons_of_pos
      (namesRelationship_append m), List.filter_nil]
  simp only [String.append_assoc]
  rcases endTable? shown source k.sourceTableId k.sourceTable k.sourceSchema with _ | u
  · exact hskip _
  · rcases endTable? shown source k.targetTableId k.targetTable k.targetSchema with _ | v
    · simpa using hskip _
    · simp only [Option.map_some, Option.bind_some, fieldByName?_shownTable]
      obtain ha | ⟨a, ha⟩ := Option.eq_none_or_eq_some (endAt? u k.sourceColumn)
      · simpa [ha] using hskip _
      · obtain hb | ⟨b, hb⟩ := Option.eq_none_or_eq_some (endAt? v k.targetColumn)
        · simpa [ha, hb] using hskip _
        · simpa [ha, hb] using hsilent

/-- A list of messages has one for each element that is told about. -/
theorem filter_flatMap_eq_map {f : α → List β} {p : β → Bool} {c : α → Bool} {g : α → β}
    (h : ∀ a, (f a).filter p = if c a then [] else [g a]) (l : List α) :
    (l.flatMap f).filter p = (l.filter (!c ·)).map g := by
  induction l with
  | nil => rfl
  | cons a l ih =>
    rw [List.flatMap_cons, List.filter_append, h, ih]
    rcases hc : c a with _ | _
    · simp [hc]
    · simp [hc]

section

variable (s : Schema) (source target : Dialect) (o : Options)
  (indexes : Nat → List Diagram.Index)

theorem filter_keyMessages :
    (keyMessages s source o ((included s o).zipIdx.map (shownTable s source o indexes))).filter
      namesRelationship =
      (s.relationships.filter (!convertible (included s o) source ·)).map
        (skipMessage (included s o) source) := by
  unfold keyMessages
  rw [List.flatMap_map, placedTables_map]
  exact filter_flatMap_eq_map (filter_relationship s source o indexes (included s o)) _

/-- No relationship is dropped once it was made. -/
theorem filter_issues :
    (laidOut s source target o ((included s o).zipIdx.map
      (shownTable s source o indexes))).issues.filter namesRelationship = [] := by
  generalize hd : laidOut s source target o _ = d
  have hjoins : ∀ r ∈ d.relationships, d.joins r = true := by
    intro r hr
    rw [← hd] at hr
    obtain ⟨k, _, hk⟩ := exists_of_forall₂ (forall₂_laidOut s source target o indexes) hr
    exact hk.joins (by rw [← hd]; rfl)
  have hdropped : d.relationships.filter (!d.joins ·) = [] := by
    rw [List.filter_eq_nil_iff]
    intro r hr
    simp [hjoins r hr]
  unfold Diagram.issues
  dsimp only
  rw [hdropped, List.filter_eq_nil_iff]
  intro m hm
  simp only [List.map_nil, List.append_nil, List.mem_append, List.mem_flatMap, List.mem_map] at hm
  rcases hm with (⟨t, _, i, _, rfl⟩ | ⟨c, _, rfl⟩) | ⟨t, _, n, _, rfl⟩
  · simp only [String.append_assoc]
    exact not_namesRelationship (by decide) _
  · simp only [String.append_assoc]
    exact not_namesRelationship (by decide) _
  · simp only [String.append_assoc]
    exact not_namesRelationship (by decide) _

end

/-- The diagram that is made from the tables of a schema stands for it. -/
theorem diagramOf_laidOut {s : Schema} {source : Dialect} {o : Options}
    {tables : List Diagram.Table} (h : tablesFrom s source o 0 (included s o) = .ok tables)
    (target : Dialect) :
    DiagramOf s source o (numbered (laidOut s source target o tables).pruned)
      (keyMessages s source o tables ++ (laidOut s source target o tables).issues) := by
  have htables := forall₂_tablesFrom h
  obtain ⟨indexes, rfl⟩ := tablesFrom_eq_map h
  let drawn := laidOut s source target o
    ((included s o).zipIdx.map (shownTable s source o indexes))
  have hrelationships : List.Forall₂ (RelationshipOf (included s o) source (numbered drawn.pruned))
      (s.relationships.filter (convertible (included s o) source)) drawn.pruned.relationships :=
    (forall₂_relationships rfl).imp fun k r hr => hr.relationshipOf rfl
  refine ⟨?_, ?_, ?_, ?_, hrelationships, ?_⟩
  · rw [tables_finished]
    exact htables
  · rw [tables_finished, List.map_map]
    exact nodup_tableIds s source o indexes (included s o)
  · rw [tables_finished, List.flatMap_map]
    exact nodup_fieldIds s source o indexes (included s o)
  · intro r hr
    obtain ⟨k, _, hk⟩ := exists_of_forall₂ hrelationships hr
    exact hk.ends
  · rw [List.filter_append, filter_keyMessages, filter_issues, List.append_nil]

/-- A schema is laid out unless an index of a table that is shown names a column that the table
lacks. The diagram then has the tables that are shown, in their order and with their columns; its
indexes and relationships point to fields that are there; and each foreign key has become one
relationship, in their order, or was skipped with one message. -/
theorem a_diagram_shows_its_whole_schema (s : Schema) (source target : Dialect) (o : Options) :
    ((∃ e, convert s source target o = .error e) ↔
      ∃ t ∈ included s o, ∃ i ∈ t.indexes, ∃ c ∈ i.columns, ¬ t.HasColumn c) ∧
    ∀ d said, convert s source target o = .ok (d, said) → DiagramOf s source o d said := by
  refine ⟨⟨?_, ?_⟩, ?_⟩
  · rintro ⟨e, he⟩
    obtain ⟨t, ht, i, hi, c, hc, hmissing, _⟩ := convert_eq_error he
    exact ⟨t, ht, i, hi, c, hc, hmissing⟩
  · rintro ⟨t, ht, i, hi, c, hc, hmissing⟩
    rcases hr : convert s source target o with e | r
    · exact ⟨e, rfl⟩
    · exact absurd ((convert_eq_ok_iff s source target o).mp ⟨r, hr⟩ t ht i hi c hc) hmissing
  · intro d said h
    rw [convert_eq] at h
    rcases ht : tablesFrom s source o 0 (included s o) with e | tables
    · rw [ht] at h
      cases h
    · rw [ht] at h
      cases h
      exact diagramOf_laidOut ht target

def berthKey : Schema.ForeignKey :=
  { name := "fk_ship"
    sourceTable := "berths"
    sourceSchema := none
    sourceTableId := ""
    sourceColumn := "SHIP"
    targetTable := "ships"
    targetSchema := none
    targetTableId := "gone"
    targetColumn := "id"
    updateAction := none
    deleteAction := none }

/-- Two tables that share an identifier, a view, and three foreign keys: to a table that is found by
its name only, to the view, and to a column that is not there. -/
def harbor : Schema :=
  { tables :=
      [{ id := "", name := "ships", schema := some "sea"
         columns := [{ name := "id", type := "INT" }, { name := "Captain", type := "TEXT" }]
         indexes := [{ name := "by_captain", columns := ["captain"], unique := false },
           { name := "by_nothing", columns := [], unique := false }] },
       { id := "", name := "berths", schema := none
         columns := [{ name := "ship", type := "INT" }] },
       { id := "v", name := "log", schema := none, isView := true
         columns := [{ name := "id", type := "INT" }] }]
    relationships := [berthKey,
      { berthKey with name := "fk_log", targetTable := "log", targetTableId := "v" },
      { berthKey with name := "fk_dock", targetColumn := "dock" }] }

/-- Of the three foreign keys one becomes a relationship if views are not shown. -/
theorem one_key_of_the_harbor_is_shown :
    ∃ d said, convert harbor .postgresql .generic { includeViews := false } = .ok (d, said) ∧
      d.relationships.map (·.name) = ["fk_ship"] ∧
      said.filter namesRelationship =
        ["Relationship fk_log skipped: table berths or log not found",
          "Relationship fk_dock skipped: column berths.SHIP or ships.dock not found"] ∧
      DiagramOf harbor .postgresql { includeViews := false } d said := by
  have hok : ((convert harbor .postgresql .generic { includeViews := false }).toOption.map
      (fun r => r.1.relationships.map (·.name))) = some ["fk_ship"] := by decide +kernel
  obtain ⟨⟨d, said⟩, hd, hnames⟩ := Option.map_eq_some_iff.mp hok
  have hd := eq_ok_of_toOption hd
  have hof := (a_diagram_shows_its_whole_schema harbor .postgresql .generic
    { includeViews := false }).2 d said hd
  refine ⟨d, said, hd, hnames, ?_, hof⟩
  rw [hof.skipped]
  decide +kernel

end SchemaChart.Import
