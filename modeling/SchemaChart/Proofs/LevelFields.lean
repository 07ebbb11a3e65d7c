-- Aligning a diagram a second time changes nothing, whatever the diagram: fields that share an
-- identifier count as one, so that after the last passage the two fields of every relationship are
-- of one size, and the fields that take these types pass them on as they are.
import SchemaChart.Proofs.Alignment

namespace SchemaChart.Diagram

namespace Typing

variable {ts us : Typing} {rs : List Relationship}

/-! ## Typings that agree -/

/-- Do two typings give every field the same type. -/
def Agree (ts us : Typing) : Prop := ∀ id, ts.lookup id = us.lookup id

theorem Agree.set (h : Agree ts us) (id : String) (t : FieldType) :
    Agree (ts.set id t) (us.set id t) := by
  intro i
  rw [lookup_set, lookup_set, h i]

/-- What a relationship does to a typing hangs on the types of its two fields only. -/
theorem Agree.widen (h : Agree ts us) (r : Relationship) : Agree (ts.widen r) (us.widen r) := by
  unfold Typing.widen Typing.widen?
  rw [h r.sourceFieldId, h r.targetFieldId]
  split
  · rename_i s t hs ht
    split
    · rename_i m n hm hn
      split
      · exact h.set _ _
      · split
        · exact h.set _ _
        · exact h
    · exact h
  · exact h

theorem Agree.round (h : Agree ts us) (rs : List Relationship) :
    Agree (rs.foldl Typing.widen ts) (rs.foldl Typing.widen us) := by
  induction rs generalizing ts us with
  | nil => exact h
  | cons r rs ih => exact ih (h.widen r)

theorem Agree.widenAll (h : Agree ts us) (rs : List Relationship) (k : Nat) :
    Agree (ts.widenAll rs k) (us.widenAll rs k) := by
  induction k generalizing ts us with
  | zero => exact h
  | succ k ih => exact ih (h.round rs)

/-! ## Level typings -/

/-- Are the two fields of each relationship of one size, where both are numeric. -/
def Level (rs : List Relationship) (ts : Typing) : Prop :=
  ∀ r ∈ rs, ∀ m n, ts.size? r.sourceFieldId = some m → ts.size? r.targetFieldId = some n → m = n

theorem Level.of_agree (h : Agree ts us) (hus : Level rs us) : Level rs ts := by
  intro r hr m n hm hn
  unfold size? at hm hn
  rw [h] at hm hn
  exact hus r hr m n hm hn

/-- Where all is level, no relationship widens anything. -/
theorem Level.widen (h : Level rs ts) {r : Relationship} (hr : r ∈ rs) : ts.widen r = ts := by
  rcases widen_cases ts r with ⟨a, b, s, t, m, n, hjoins, ha, hb, hm, hn, hlt, -⟩ | ⟨hsame, -⟩
  · have hsizea : ts.size? a = some m := by simp [size?, ha, hm]
    have hsizeb : ts.size? b = some n := by simp [size?, hb, hn]
    have heq : m = n := by
      rcases hjoins with ⟨rfl, rfl⟩ | ⟨rfl, rfl⟩
      · exact h r hr m n hsizea hsizeb
      · exact (h r hr n m hsizeb hsizea).symm
    omega
  · exact hsame

theorem Level.widenAll (h : Level rs ts) (k : Nat) : ts.widenAll rs k = ts := by
  have hround : ∀ qs ⊆ rs, qs.foldl Typing.widen ts = ts := by
    intro qs
    induction qs with
    | nil => exact fun _ => rfl
    | cons q qs ih =>
      intro hqs
      obtain ⟨hq, hqs⟩ := List.cons_subset.mp hqs
      rw [List.foldl_cons, h.widen hq, ih hqs]
  exact widenAll_eq_self (hround rs (List.Subset.refl rs)) k

/-- The fields with a type stay those that had one. -/
theorem lookup_widen_isSome (ts : Typing) (r : Relationship) (id : String) :
    ((ts.widen r).lookup id).isSome = (ts.lookup id).isSome := by
  rcases widen_cases ts r with ⟨a, b, s, t, m, n, -, -, -, -, -, -, hset⟩ | ⟨hsame, -⟩
  · rw [hset, lookup_set]
    split
    · exact Option.isSome_map
    · rfl
  · rw [hsame]

theorem lookup_widenAll_isSome (ts : Typing) (rs : List Relationship) (k : Nat) (id : String) :
    ((ts.widenAll rs k).lookup id).isSome = (ts.lookup id).isSome := by
  have hround : ∀ (qs : List Relationship) (us : Typing),
      ((qs.foldl Typing.widen us).lookup id).isSome = (us.lookup id).isSome := by
    intro qs
    induction qs with
    | nil => exact fun _ => rfl
    | cons q qs ih => exact fun us => (ih (us.widen q)).trans (lookup_widen_isSome us q id)
  induction k with
  | zero => rfl
  | succ k ih => rw [widenAll_succ, hround, ih]

end Typing

open Typing (Agree Level)

/-! ## Fields that share an identifier -/

variable {d : Diagram}

theorem lookup_typing_isSome {id : String} :
    (d.typing.lookup id).isSome = true ↔ ∃ f ∈ d.fields, f.id = id := by
  rw [List.lookup_isSome_iff]
  constructor
  · rintro ⟨⟨i, t⟩, hmem, hid⟩
    obtain ⟨f, hf, rfl, -⟩ := mem_typing.mp hmem
    exact ⟨f, hf, (beq_iff_eq.mp hid).symm⟩
  · rintro ⟨f, hf, rfl⟩
    exact ⟨(f.id, f.fieldType), mem_typing.mpr ⟨f, hf, rfl, rfl⟩, beq_self_eq_true _⟩

/-- The type of an identifier is that of one of its fields. -/
theorem exists_field_of_lookup {id : String} {t : FieldType} (h : d.typing.lookup id = some t) :
    ∃ f ∈ d.fields, f.id = id ∧ f.fieldType = t := by
  obtain ⟨l₁, l₂, hl, -⟩ := List.lookup_eq_some_iff.mp h
  exact mem_typing.mp (hl ▸ List.mem_append_right l₁ List.mem_cons_self)

/-- The one field that stands for all of an identifier. -/
def mergedField (d : Diagram) (id : String) : Field :=
  { (default : Field) with id := id }.withType ((d.typing.lookup id).getD default)

/-- A diagram with the same relationships between fields of distinct identifiers, all of them in one
table. -/
def merged (d : Diagram) : Diagram :=
  { d with
    tables :=
      [{ (default : Table) with fields := (d.fields.map (·.id)).dedup.map d.mergedField }] }

theorem fields_merged (d : Diagram) :
    d.merged.fields = (d.fields.map (·.id)).dedup.map d.mergedField := by
  simp [fields, merged]

theorem nodup_merged (d : Diagram) : (d.merged.fields.map (·.id)).Nodup := by
  have hids : (d.merged.fields.map (·.id)) = (d.fields.map (·.id)).dedup := by
    rw [fields_merged, List.map_map]
    exact List.map_id _
  rw [hids]
  exact List.nodup_dedup _

theorem mem_fields_merged {f : Field} :
    f ∈ d.merged.fields ↔ (∃ g ∈ d.fields, g.id = f.id) ∧ f = d.mergedField f.id := by
  rw [fields_merged]
  simp only [List.mem_map, List.mem_dedup]
  constructor
  · rintro ⟨id, hid, rfl⟩
    exact ⟨hid, rfl⟩
  · rintro ⟨hid, hf⟩
    exact ⟨f.id, hid, hf.symm⟩

theorem typing_merged (d : Diagram) : Agree d.merged.typing d.typing := by
  intro id
  by_cases hid : ∃ f ∈ d.fields, f.id = id
  · obtain ⟨t, ht⟩ := Option.isSome_iff_exists.mp (lookup_typing_isSome.mpr hid)
    have hmem : d.mergedField id ∈ d.merged.fields := mem_fields_merged.mpr ⟨hid, rfl⟩
    have hlookup := lookup_typing (nodup_merged d) hmem
    have htype : (d.mergedField id).fieldType = t := by
      unfold mergedField
      rw [ht]
      rfl
    rw [ht, ← htype]
    exact hlookup
  · have hnone : ¬ ∃ f ∈ d.merged.fields, f.id = id := by
      rintro ⟨f, hf, rfl⟩
      exact hid (mem_fields_merged.mp hf).1
    rw [← lookup_typing_isSome, Option.not_isSome_iff_eq_none] at hid hnone
    rw [hid, hnone]

/-- Between fields of distinct identifiers the last passage leaves all relationships level. -/
theorem level_of_nodup (hd : (d.fields.map (·.id)).Nodup) :
    Level d.relationships (d.typing.widenAll d.relationships (d.relationships.length + 1)) := by
  -- an identifier of some size is that of a numeric field, and the size is that of its chain
  have hchain : ∀ id m,
      (d.typing.widenAll d.relationships (d.relationships.length + 1)).size? id = some m →
      ∃ f ∈ d.fields, f.id = id ∧ f.rank?.isSome = true ∧
        IsGreatest {k | ∃ g, d.linkGraph.Reachable f g ∧ g.rank? = some k} m := by
    intro id m hm
    obtain ⟨t, ht, hrank⟩ := Option.bind_eq_some_iff.mp hm
    have hsome := Typing.lookup_widenAll_isSome d.typing d.relationships
      (d.relationships.length + 1) id
    rw [ht] at hsome
    obtain ⟨f, hf, rfl⟩ := lookup_typing_isSome.mp hsome.symm
    obtain ⟨t', ht', hsettled⟩ := settled_widenAll hd hf
    obtain rfl : t' = t := Option.some.inj (ht'.symm.trans ht)
    rcases hnumeric : f.rank? with _ | k
    · rw [hsettled.other hnumeric] at hrank
      exact absurd (hnumeric.symm.trans hrank) (by simp)
    · obtain ⟨n, hn, hgreatest, -⟩ := hsettled.widest k hnumeric
      obtain rfl : n = m := Option.some.inj (hn.symm.trans hrank)
      exact ⟨f, hf, rfl, by rw [hnumeric]; rfl, hgreatest⟩
  intro r hr m n hm hn
  obtain ⟨f, hf, hfid, hfnumeric, hfm⟩ := hchain _ m hm
  obtain ⟨g, hg, hgid, hgnumeric, hgn⟩ := hchain _ n hn
  have hreach := reachable_of_joins hr hf hg hfnumeric hgnumeric (.inl ⟨hfid.symm, hgid.symm⟩)
  have hsame : {k | ∃ e, d.linkGraph.Reachable f e ∧ e.rank? = some k} =
      {k | ∃ e, d.linkGraph.Reachable g e ∧ e.rank? = some k} := by
    ext k
    exact ⟨fun ⟨e, he, hk⟩ => ⟨e, hreach.symm.trans he, hk⟩,
      fun ⟨e, he, hk⟩ => ⟨e, hreach.trans he, hk⟩⟩
  rw [hsame] at hfm
  exact hfm.unique hgn

/-- In every diagram the last passage leaves all relationships level. -/
theorem level_widenAll (d : Diagram) :
    Level d.relationships (d.typing.widenAll d.relationships (d.relationships.length + 1)) := by
  have hmerged : Level d.merged.relationships _ := level_of_nodup (nodup_merged d)
  have hagree := (typing_merged d).widenAll d.relationships (d.relationships.length + 1)
  exact hmerged.of_agree fun id => (hagree id).symm

/-! ## Aligned diagrams -/

@[simp] theorem Field.withType_id (f : Field) (t : FieldType) : (f.withType t).id = f.id := rfl

@[simp] theorem Field.fieldType_withType (f : Field) (t : FieldType) :
    (f.withType t).fieldType = t := rfl

theorem fields_retyped (d : Diagram) (ts : Typing) :
    (d.retyped ts).fields = d.fields.map fun f =>
      f.withType ((ts.lookup f.id).getD f.fieldType) := by
  rw [retyped_eq, fields, fields, List.map_flatMap, List.flatMap_map]

/-- Fields that took the types of a typing give them back. -/
theorem typing_retyped {ts : Typing}
    (hts : ∀ id, (ts.lookup id).isSome = (d.typing.lookup id).isSome) :
    Agree (d.retyped ts).typing ts := by
  intro id
  have hsome : ((d.retyped ts).typing.lookup id).isSome = (ts.lookup id).isSome := by
    rw [hts, Bool.eq_iff_iff, lookup_typing_isSome, lookup_typing_isSome, fields_retyped]
    simp
  rcases ht : (d.retyped ts).typing.lookup id with _ | t
  · rw [ht, Option.isSome_none, eq_comm, Option.isSome_eq_false_iff] at hsome
    exact (Option.isNone_iff_eq_none.mp hsome).symm
  · rw [ht] at hsome
    obtain ⟨u, hu⟩ := Option.isSome_iff_exists.mp hsome.symm
    obtain ⟨f, hf, rfl, rfl⟩ := exists_field_of_lookup ht
    rw [fields_retyped] at hf
    obtain ⟨g, -, rfl⟩ := List.mem_map.mp hf
    rw [Field.withType_id] at hu ⊢
    rw [Field.fieldType_withType, hu, Option.getD_some]

theorem typing_aligned (d : Diagram) :
    Agree d.aligned.typing
      (d.typing.widenAll d.relationships (d.relationships.length + 1)) := by
  rw [aligned_eq]
  exact typing_retyped fun id => Typing.lookup_widenAll_isSome d.typing d.relationships _ id

theorem level_aligned (d : Diagram) : Level d.relationships d.aligned.typing :=
  (level_widenAll d).of_agree (typing_aligned d)

/-- In an aligned diagram all fields of an identifier have the type of the identifier. -/
theorem lookup_typing_aligned {f : Field} (hf : f ∈ d.aligned.fields) :
    d.aligned.typing.lookup f.id = some f.fieldType := by
  rw [typing_aligned d f.id]
  rw [aligned_eq, fields_retyped] at hf
  obtain ⟨g, hg, rfl⟩ := List.mem_map.mp hf
  have hsome := Typing.lookup_widenAll_isSome d.typing d.relationships
    (d.relationships.length + 1) g.id
  rw [lookup_typing_isSome.mpr ⟨g, hg, rfl⟩] at hsome
  obtain ⟨t, ht⟩ := Option.isSome_iff_exists.mp hsome
  rw [Field.withType_id, Field.fieldType_withType, ht, Option.getD_some]

theorem retyped_eq_self {ts : Typing} (h : ∀ f ∈ d.fields, ts.lookup f.id = some f.fieldType) :
    d.retyped ts = d := by
  have htables : d.tables.map (fun t =>
      { t with fields := t.fields.map fun f =>
        f.withType ((ts.lookup f.id).getD f.fieldType) }) = d.tables := by
    refine (List.map_congr_left fun t ht => ?_).trans (List.map_id _)
    have hfields : t.fields.map (fun f => f.withType ((ts.lookup f.id).getD f.fieldType)) =
        t.fields := by
      refine (List.map_congr_left fun f hf => ?_).trans (List.map_id _)
      rw [h f (List.mem_flatMap.mpr ⟨t, ht, hf⟩)]
      rfl
    rw [hfields]
    rfl
  rw [retyped_eq, htables]

/-- A diagram that was aligned is level: of every relationship, all fields of its one end have the
size of all fields of its other end, where they are numeric. Aligning it again changes nothing. -/
theorem aligned_diagrams_stay_as_they_are (d : Diagram) :
    d.aligned.aligned = d.aligned ∧
      ∀ r ∈ d.relationships, ∀ f ∈ d.aligned.fields, ∀ g ∈ d.aligned.fields,
        f.id = r.sourceFieldId → g.id = r.targetFieldId →
          ∀ m n, f.rank? = some m → g.rank? = some n → m = n := by
  constructor
  · have hlevel : Level d.aligned.relationships d.aligned.typing := level_aligned d
    have hwiden := hlevel.widenAll (d.aligned.relationships.length + 1)
    calc d.aligned.aligned
        = d.aligned.retyped (d.aligned.typing.widenAll d.aligned.relationships
            (d.aligned.relationships.length + 1)) := aligned_eq _
      _ = d.aligned.retyped d.aligned.typing := by rw [hwiden]
      _ = d.aligned := retyped_eq_self fun f hf => lookup_typing_aligned hf
  · intro r hr f hf g hg hfid hgid m n hm hn
    refine level_aligned d r hr m n ?_ ?_
    · rw [← hfid, Typing.size?, lookup_typing_aligned hf]
      exact hm
    · rw [← hgid, Typing.size?, lookup_typing_aligned hg]
      exact hn

/-- The audited orders with a field of a fourth table that has the identifier of another field, with
a third relationship that closes a circle, and with one that leads nowhere. -/
def tangledOrders : Diagram :=
  { auditedOrders with
    tables := auditedOrders.tables ++
      [{ id := "t4", name := "returns", color := "", fields :=
          [{ id := "f3", name := "order_ref", type := .named "tinyint" }] }]
    relationships := auditedOrders.relationships ++
      [{ id := "r3", name := "fk_user_audit", sourceTableId := "t3", sourceFieldId := "f4",
         targetTableId := "t1", targetFieldId := "f1" },
        { id := "r4", name := "fk_nowhere", sourceTableId := "t1", sourceFieldId := "f1",
          targetTableId := "t9", targetFieldId := "f9" }] }

theorem tangled_orders_stay_aligned :
    tangledOrders.fields.map (·.type.id) =
        ["smallint", "varchar", "integer", "bigint", "tinyint"] ∧
      tangledOrders.aligned.fields.map (·.type.id) =
        ["bigint", "varchar", "bigint", "bigint", "bigint"] ∧
      tangledOrders.aligned.aligned = tangledOrders.aligned :=
  ⟨by decide +kernel, by decide +kernel, (aligned_diagrams_stay_as_they_are tangledOrders).1⟩

end SchemaChart.Diagram
