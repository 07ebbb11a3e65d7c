-- Diagrams in store. The text that a diagram is stored as gives the whole diagram back: what is
-- missing stays missing, and what is there keeps its value and its place.
import Mathlib.Data.List.Forall2
import Mathlib.Tactic.MkIffOfInductiveProp
import SchemaChart.Diagram.Stored
import SchemaChart.Proofs.JsonText

namespace SchemaChart.Data.Json

/-! ## Single values -/

attribute [simp] Legible.bool Legible.str

theorem legible_ofInt {n : Int} (h : -9223372036854775808 ≤ n ∧ n < 9223372036854775808) :
    Legible (ofInt n) :=
  .int h.1 (by omega)

theorem legible_naturals {a : Option Nat} {high : Nat} (h : ∀ n ∈ a, n < high)
    (hhigh : high ≤ 18446744073709551616) : ∀ n ∈ a, Legible (ofNat n) := by
  intro n hn
  have hlt := h n hn
  exact .int (by omega) (by omega)

theorem legible_map {α : Type} {write : α → Json} {as : List α}
    (h : ∀ a ∈ as, Legible (write a)) : Legible (arr (as.map write)) :=
  .arr (List.forall_mem_map.mpr h)

@[simp]
theorem legible_ofStrings (ss : List String) : Legible (ofStrings ss) :=
  legible_map fun s _ => .str s

theorem integer?_ofInt {low high n : Int} (h : low ≤ n ∧ n < high) :
    integer? low high (ofInt n) = some n := by
  rw [ofInt, integer?, if_pos]
  simpa using h

theorem natural?_ofNat {high n : Nat} (h : n < high) : natural? high (ofNat n) = some n := by
  have hrange : (decide ((0 : Int) ≤ n) && decide ((n : Int) < high)) = true := by
    simp [h]
  rw [natural?, ofNat, integer?, if_pos hrange]
  rfl

theorem list?_map {α : Type} {read : Json → Option α} {write : α → Json} {as : List α}
    (h : ∀ a ∈ as, read (write a) = some a) : list? read (arr (as.map write)) = some as := by
  rw [list?]
  induction as with
  | nil => rfl
  | cons a as ih =>
    have ha := h a List.mem_cons_self
    have has := ih fun x hx => h x (List.mem_cons_of_mem a hx)
    simp [ha, has]

theorem string?_str (s : String) : string? (str s) = some s := rfl

theorem bool?_bool (b : Bool) : bool? (bool b) = some b := rfl

theorem real?_ofReal (x : Binary64) : real? (ofReal x) = some x := rfl

theorem tag?_str {α : Type} {read : String → Option α} {s : String} {a : α} (h : read s = some a) :
    tag? read (str s) = some a :=
  h

theorem list?_ofStrings (ss : List String) : list? string? (ofStrings ss) = some ss :=
  list?_map fun s _ => string?_str s

theorem nullable?_ofNat {high n : Nat} (h : n < high) :
    nullable? (natural? high) (ofNat n) = some (some n) := by
  rw [nullable?, natural?_ofNat h]
  · rfl
  · exact Json.noConfusion

theorem nullable?_ofReal (x : Binary64) : nullable? real? (ofReal x) = some (some x) := rfl

theorem nullable?_map {α : Type} {read : Json → Option α} {write : α → Json} {as : List α}
    (h : ∀ a ∈ as, read (write a) = some a) :
    nullable? (list? read) (arr (as.map write)) = some (some as) := by
  rw [nullable?, list?_map h]
  · rfl
  · exact Json.noConfusion

/-! ## Records -/

/-- A field has a name, if it is written at all. -/
def Named (n : String) (f : Option (String × Json)) : Prop := ∀ p ∈ f, p.1 = n

@[simp]
theorem named_always (n : String) (j : Json) : Named n (always n j) := by
  intro p hp
  cases hp
  rfl

@[simp]
theorem named_ifSome {α : Type} (n : String) (write : α → Json) (a : Option α) :
    Named n (ifSome n write a) := by
  intro p hp
  obtain ⟨x, _, rfl⟩ := Option.map_eq_some_iff.mp hp
  rfl

/-- A field has a value whose text can be read, if it is written at all. -/
def LegibleField (f : Option (String × Json)) : Prop := ∀ p ∈ f, Legible p.2

@[simp]
theorem legibleField_always {n : String} {j : Json} : LegibleField (always n j) ↔ Legible j := by
  simp [LegibleField, always]

@[simp]
theorem legibleField_ifSome {α : Type} {n : String} {write : α → Json} {a : Option α} :
    LegibleField (ifSome n write a) ↔ ∀ x ∈ a, Legible (write x) := by
  cases a <;> simp [LegibleField, ifSome]

/-- What a record has for a field that is written or left out. -/
def slotOf : Option (String × Json) → Slot Json
  | some p => .value p.2
  | none => .absent

section

variable {names : List String} {fields : List (Option (String × Json))}

theorem legible_object (h : ∀ f ∈ fields, LegibleField f) : Legible (object fields) := by
  apply Legible.obj
  intro p hp
  obtain ⟨f, hf, hp⟩ := List.mem_filterMap.mp hp
  exact h f hf p hp

theorem name_mem_of_named (h : List.Forall₂ Named names fields) {p : String × Json}
    (hp : p ∈ fields.filterMap id) : p.1 ∈ names := by
  induction h with
  | nil => cases hp
  | @cons n f names fields hf _ ih =>
    rcases f with _ | q
    · exact List.mem_cons_of_mem n (ih (by simpa using hp))
    · rcases (by simpa using hp : p = q ∨ p ∈ fields.filterMap id) with rfl | hp
      · exact hf p rfl ▸ List.mem_cons_self
      · exact List.mem_cons_of_mem n (ih hp)

/-- Under each of several different names stands the one field that has it. -/
theorem filter_eq_of_named (h : List.Forall₂ Named names fields) (hnodup : names.Nodup)
    {n : String} {f : Option (String × Json)} (hmem : (n, f) ∈ names.zip fields) :
    (fields.filterMap id).filter (·.1 == n) = f.toList := by
  induction h with
  | nil => cases hmem
  | @cons n' f' names fields hf hrest ih =>
    obtain ⟨hnew, hnodup⟩ := List.nodup_cons.mp hnodup
    have hothers : (fields.filterMap id).filter (·.1 == n') = [] := by
      rw [List.filter_eq_nil_iff]
      intro p hp hn
      exact hnew (beq_iff_eq.mp hn ▸ name_mem_of_named hrest hp)
    rcases List.mem_cons.mp hmem with hhead | htail
    · cases hhead
      cases f with
      | none => simpa using hothers
      | some p => simpa [hf p rfl] using hothers
    · have hne : n' ≠ n := fun heq => hnew (heq ▸ (List.of_mem_zip htail).1)
      cases f' with
      | none => simpa using ih hnodup htail
      | some p => simpa [hf p rfl, hne] using ih hnodup htail

theorem lookup_eq_head?_filter (n : String) (pairs : List (String × Json)) :
    pairs.lookup n = (pairs.filter (·.1 == n)).head?.map Prod.snd := by
  induction pairs with
  | nil => rfl
  | cons p pairs ih =>
    obtain ⟨name, j⟩ := p
    by_cases hn : name = n
    · simp [hn]
    · rw [List.lookup_cons, beq_false_of_ne (Ne.symm hn), ih,
        List.filter_cons_of_neg (by simpa using hn)]

theorem slot_map_of_mem {es : List (String × Option (String × Json))}
    (hnodup : (es.map Prod.fst).Nodup) {e : String × Option (String × Json)} (he : e ∈ es) :
    Record.slot (es.map fun e => (e.1, slotOf e.2)) e.1 = slotOf e.2 := by
  unfold Record.slot
  induction es with
  | nil => cases he
  | cons e' es ih =>
    obtain ⟨hnew, hnodup⟩ := List.nodup_cons.mp hnodup
    rcases List.mem_cons.mp he with rfl | he
    · simp
    · have hne : e.1 ≠ e'.1 := fun heq => hnew (heq ▸ List.mem_map_of_mem he)
      rw [List.map_cons, List.lookup_cons, beq_false_of_ne hne]
      exact ih hnodup he

/-- What is written under different names is read under them, with a gap for what is left out. -/
theorem record?_object (h : List.Forall₂ Named names fields) (hnodup : names.Nodup) :
    ∃ r, (object fields).record? names = some r ∧
      ∀ e ∈ names.zip fields, Record.slot r e.1 = slotOf e.2 := by
  have hnames : (names.zip fields).map Prod.fst = names := List.map_fst_zip h.length_eq.le
  -- no name stands twice, so the record is not refused
  have hone : (names.any fun n =>
      decide (((fields.filterMap id).filter (·.1 == n)).length > 1)) = false := by
    rw [← hnames, List.any_map, List.any_eq_false]
    rintro ⟨n, f⟩ hmem
    rw [Function.comp_apply, filter_eq_of_named h hnodup hmem]
    cases f <;> simp
  refine ⟨(names.zip fields).map fun e => (e.1, slotOf e.2), ?_, fun e he =>
    slot_map_of_mem (hnames.symm ▸ hnodup) he⟩
  rw [record?, object, stored?, Option.bind_some, Stored.record?, hone, if_neg Bool.false_ne_true]
  nth_rewrite 1 [← hnames]
  rw [List.map_map]
  refine congrArg some (List.map_congr_left ?_)
  rintro ⟨n, f⟩ hmem
  rw [Function.comp_apply, lookup_eq_head?_filter, filter_eq_of_named h hnodup hmem]
  cases f <;> rfl

end

end SchemaChart.Data.Json

namespace SchemaChart.Data.Record

open Json

variable {r : Record Json} {n : String} {α : Type}

/-- One part of a record after the other is read. -/
theorem bind_read {α β : Type} {x : Option α} {a : α} {f : α → Option β} {b : Option β}
    (hx : x = some a) (hf : f a = b) : (x >>= f) = b := by
  rw [hx]
  exact hf

theorem required_always {read : Json → Option α} {j : Json} {a : α}
    (hslot : r.slot n = slotOf (always n j)) (h : read j = some a) :
    r.required n read = some a := by
  rw [required, hslot]
  exact h

theorem defaulted_always {read : Json → Option α} {j : Json} {a default : α}
    (hslot : r.slot n = slotOf (always n j)) (h : read j = some a) :
    r.defaulted n read default = some a := by
  rw [defaulted, hslot]
  exact h

section

variable {read : Json → Option (Option α)} {write : α → Json} {a : Option α}

theorem optional_ifSome (hslot : r.slot n = slotOf (ifSome n write a))
    (h : ∀ x ∈ a, read (write x) = some (some x)) : r.optional n read = some a := by
  rw [optional, hslot]
  cases a with
  | none => rfl
  | some x => exact h x rfl

theorem defaulted_ifSome (hslot : r.slot n = slotOf (ifSome n write a))
    (h : ∀ x ∈ a, read (write x) = some (some x)) : r.defaulted n read none = some a := by
  rw [defaulted, hslot]
  cases a with
  | none => rfl
  | some x => exact h x rfl

end

/-- A record of two texts. -/
theorem record?_texts {m n : String} (h : m ≠ n) (s t : String) :
    ∃ r, (obj [(m, str s), (n, str t)]).record? [m, n] = some r ∧
      required r m string? = some s ∧ required r n string? = some t := by
  have hnamed : List.Forall₂ Named [m, n] [always m (str s), always n (str t)] := by simp
  obtain ⟨r, hrecord, hslots⟩ := record?_object hnamed (by simpa using h)
  simp only [List.zip_cons_cons, List.zip_nil_right, List.forall_mem_cons] at hslots
  obtain ⟨hm, hn, -⟩ := hslots
  exact ⟨r, hrecord, required_always hm (string?_str s),
    required_always hn (string?_str t)⟩

end SchemaChart.Data.Record

namespace SchemaChart

open Data Json Record

/-! ## Shared parts -/

theorem Dialect.ofJson?_toJson (d : Dialect) : Dialect.ofJson? d.toJson = some d := by
  cases d <;> decide +kernel

theorem Schema.TypeKind.ofName?_name (k : TypeKind) : ofName? k.name = some k := by
  cases k <;> rfl

theorem DataType.legible_toJson (t : DataType) : Legible t.toJson :=
  .obj (by simp)

theorem DataType.ofJson?_toJson (t : DataType) : DataType.ofJson? t.toJson = some t := by
  obtain ⟨r, hrecord, hid, hname⟩ := record?_texts (by decide : "id" ≠ "name") t.id t.name
  unfold DataType.ofJson?
  apply bind_read hrecord
  apply bind_read hid
  apply bind_read hname
  rfl

namespace Diagram

theorem Cardinality.ofName?_name (c : Cardinality) : ofName? c.name = some c := by
  cases c <;> rfl

/-- The moments that can be stored, in milliseconds. -/
def IsMoment (n : Int) : Prop := -9223372036854775808 ≤ n ∧ n < 9223372036854775808

instance (n : Int) : Decidable (IsMoment n) := inferInstanceAs (Decidable (_ ∧ _))

theorem moment?_ofInt {n : Int} (h : IsMoment n) : moment? (.ofInt n) = some n :=
  integer?_ofInt h

theorem text?_str (s : String) : text? (.str s) = some (some s) := rfl

theorem flag?_bool (b : Bool) : flag? (.bool b) = some (some b) := rfl

theorem size?_ofNat {n : Nat} (h : n < Nat.pow 2 32) : size? (.ofNat n) = some (some n) :=
  nullable?_ofNat h

theorem instant?_str {t : Instant} (h : Instant.parse? t.render = some t) :
    instant? (.str t.render) = some t := by
  rw [instant?, string?_str, Option.bind_some, h]

/-! ## Fields, indexes, tables -/

/-- The numbers of a field are in the ranges of their kinds. -/
@[mk_iff]
structure Field.Storable (f : Field) : Prop where
  createdAt : IsMoment f.createdAt
  precision : ∀ n ∈ f.precision, n < Nat.pow 2 32
  scale : ∀ n ∈ f.scale, n < Nat.pow 2 32

instance (f : Field) : Decidable f.Storable := decidable_of_iff' _ (Field.storable_iff f)

theorem Field.legible_toJson {f : Field} (h : f.Storable) : Legible f.toJson := by
  have hprecision := legible_naturals h.precision (by decide)
  have hscale := legible_naturals h.scale (by decide)
  apply legible_object
  simp +contextual [DataType.legible_toJson, legible_ofInt h.createdAt, hprecision, hscale]

theorem Field.ofJson?_toJson {f : Field} (h : f.Storable) : ofJson? f.toJson = some f := by
  obtain ⟨r, hrecord, hslots⟩ : ∃ r, f.toJson.record? names = some r ∧ _ :=
    record?_object (by simp [names]) (by decide)
  -- one fact for each name, in the order in which the names are written
  simp only [names, List.zip_cons_cons, List.zip_nil_right, List.forall_mem_cons] at hslots
  obtain ⟨hid, hname, htype, hprimaryKey, hunique, hnullable, hincrement, hisArray, hcreatedAt,
    hlength, hprecision, hscale, hdefault, hcollation, hcomments, honUpdate, -⟩ := hslots
  unfold ofJson?
  apply bind_read hrecord
  apply bind_read (required_always hid (string?_str f.id))
  apply bind_read (required_always hname (string?_str f.name))
  apply bind_read (required_always htype f.type.ofJson?_toJson)
  apply bind_read (defaulted_always hprimaryKey (bool?_bool f.primaryKey))
  apply bind_read (defaulted_always hunique (bool?_bool f.unique))
  apply bind_read (defaulted_always hnullable (bool?_bool f.nullable))
  apply bind_read (optional_ifSome hincrement fun b _ => flag?_bool b)
  apply bind_read (optional_ifSome hisArray fun b _ => flag?_bool b)
  apply bind_read (required_always hcreatedAt (moment?_ofInt h.createdAt))
  apply bind_read (optional_ifSome hlength fun s _ => text?_str s)
  apply bind_read (optional_ifSome hprecision fun n hn => size?_ofNat (h.precision n hn))
  apply bind_read (optional_ifSome hscale fun n hn => size?_ofNat (h.scale n hn))
  apply bind_read (optional_ifSome hdefault fun s _ => text?_str s)
  apply bind_read (optional_ifSome hcollation fun s _ => text?_str s)
  apply bind_read (optional_ifSome hcomments fun s _ => text?_str s)
  apply bind_read (defaulted_ifSome honUpdate fun s _ => text?_str s)
  rfl

theorem Index.legible_toJson {i : Index} (h : IsMoment i.createdAt) : Legible i.toJson := by
  apply legible_object
  simp [legible_ofInt h]

theorem Index.ofJson?_toJson {i : Index} (h : IsMoment i.createdAt) :
    ofJson? i.toJson = some i := by
  obtain ⟨r, hrecord, hslots⟩ : ∃ r, i.toJson.record? names = some r ∧ _ :=
    record?_object (by simp [names]) (by decide)
  simp only [names, List.zip_cons_cons, List.zip_nil_right, List.forall_mem_cons] at hslots
  obtain ⟨hid, hname, hunique, hfieldIds, hcreatedAt, hmethod, hprimaryKey, -⟩ := hslots
  unfold ofJson?
  apply bind_read hrecord
  apply bind_read (required_always hid (string?_str i.id))
  apply bind_read (defaulted_always hname (string?_str i.name))
  apply bind_read (defaulted_always hunique (bool?_bool i.unique))
  apply bind_read (required_always hfieldIds (list?_ofStrings i.fieldIds))
  apply bind_read (required_always hcreatedAt (moment?_ofInt h))
  apply bind_read (optional_ifSome hmethod fun s _ => text?_str s)
  apply bind_read (optional_ifSome hprimaryKey fun b _ => flag?_bool b)
  rfl

/-- The numbers of a table are in the ranges of their kinds, and the text of each of its
coordinates is read as the coordinate. -/
@[mk_iff]
structure Table.Storable (t : Table) : Prop where
  x : readsBack t.x = true
  y : readsBack t.y = true
  width : ∀ w ∈ t.width, readsBack w = true
  fields : ∀ f ∈ t.fields, f.Storable
  indexes : ∀ i ∈ t.indexes, IsMoment i.createdAt
  createdAt : IsMoment t.createdAt
  order : ∀ n ∈ t.order, n < Nat.pow 2 64

instance (t : Table) : Decidable t.Storable := decidable_of_iff' _ (Table.storable_iff t)

theorem Table.legible_toJson {t : Table} (h : t.Storable) : Legible t.toJson := by
  have hfields := legible_map fun f hf => Field.legible_toJson (h.fields f hf)
  have hindexes := legible_map fun i hi => Index.legible_toJson (h.indexes i hi)
  have hwidth : ∀ w ∈ t.width, Legible (ofReal w) := fun w hw => .real (h.width w hw)
  have horder := legible_naturals h.order (by decide)
  have hx : Legible (ofReal t.x) := .real h.x
  have hy : Legible (ofReal t.y) := .real h.y
  apply legible_object
  simp +contextual [hx, hy, hfields, hindexes, legible_ofInt h.createdAt, hwidth, horder]

theorem Table.ofJson?_toJson {t : Table} (h : t.Storable) : ofJson? t.toJson = some t := by
  obtain ⟨r, hrecord, hslots⟩ : ∃ r, t.toJson.record? names = some r ∧ _ :=
    record?_object (by simp [names]) (by decide)
  simp only [names, List.zip_cons_cons, List.zip_nil_right, List.forall_mem_cons] at hslots
  obtain ⟨hid, hname, hschema, hx, hy, hfields, hindexes, hcolor, hisView, hisMaterializedView,
    hcreatedAt, hwidth, hcomments, horder, -⟩ := hslots
  unfold ofJson?
  apply bind_read hrecord
  apply bind_read (required_always hid (string?_str t.id))
  apply bind_read (required_always hname (string?_str t.name))
  apply bind_read (optional_ifSome hschema fun s _ => text?_str s)
  apply bind_read (required_always hx (real?_ofReal t.x))
  apply bind_read (required_always hy (real?_ofReal t.y))
  apply bind_read (required_always hfields
    (list?_map fun f hf => Field.ofJson?_toJson (h.fields f hf)))
  apply bind_read (defaulted_always hindexes
    (list?_map fun i hi => Index.ofJson?_toJson (h.indexes i hi)))
  apply bind_read (required_always hcolor (string?_str t.color))
  apply bind_read (defaulted_always hisView (bool?_bool t.isView))
  apply bind_read (optional_ifSome hisMaterializedView fun b _ => flag?_bool b)
  apply bind_read (required_always hcreatedAt (moment?_ofInt h.createdAt))
  apply bind_read (optional_ifSome hwidth fun w _ => nullable?_ofReal w)
  apply bind_read (optional_ifSome hcomments fun s _ => text?_str s)
  apply bind_read (optional_ifSome horder fun n hn => nullable?_ofNat (h.order n hn))
  rfl

/-! ## Relationships and types -/

theorem Relationship.legible_toJson {l : Relationship} (h : IsMoment l.createdAt) :
    Legible l.toJson := by
  apply legible_object
  simp [legible_ofInt h]

theorem Relationship.ofJson?_toJson {l : Relationship} (h : IsMoment l.createdAt) :
    ofJson? l.toJson = some l := by
  obtain ⟨r, hrecord, hslots⟩ : ∃ r, l.toJson.record? names = some r ∧ _ :=
    record?_object (by simp [names]) (by decide)
  simp only [names, List.zip_cons_cons, List.zip_nil_right, List.forall_mem_cons] at hslots
  obtain ⟨hid, hname, hsourceSchema, hsourceTableId, htargetSchema, htargetTableId, hsourceFieldId,
    htargetFieldId, hsourceCardinality, htargetCardinality, hcreatedAt, -⟩ := hslots
  unfold ofJson?
  apply bind_read hrecord
  apply bind_read (required_always hid (string?_str l.id))
  apply bind_read (required_always hname (string?_str l.name))
  apply bind_read (optional_ifSome hsourceSchema fun s _ => text?_str s)
  apply bind_read (required_always hsourceTableId (string?_str l.sourceTableId))
  apply bind_read (optional_ifSome htargetSchema fun s _ => text?_str s)
  apply bind_read (required_always htargetTableId (string?_str l.targetTableId))
  apply bind_read (required_always hsourceFieldId (string?_str l.sourceFieldId))
  apply bind_read (required_always htargetFieldId (string?_str l.targetFieldId))
  apply bind_read (required_always hsourceCardinality (tag?_str l.sourceCardinality.ofName?_name))
  apply bind_read (required_always htargetCardinality (tag?_str l.targetCardinality.ofName?_name))
  apply bind_read (required_always hcreatedAt (moment?_ofInt h))
  rfl

theorem TypeField.legible_toJson (f : TypeField) : Legible f.toJson :=
  .obj (by simp)

theorem TypeField.ofJson?_toJson (f : TypeField) : TypeField.ofJson? f.toJson = some f := by
  obtain ⟨r, hrecord, hfield, htype⟩ :=
    record?_texts (by decide : "field" ≠ "type") f.field f.type
  unfold TypeField.ofJson?
  apply bind_read hrecord
  apply bind_read hfield
  apply bind_read htype
  rfl

theorem CustomType.legible_toJson (t : CustomType) : Legible t.toJson := by
  have hfields : ∀ fs : List TypeField, Legible (.arr (fs.map TypeField.toJson)) :=
    fun fs => legible_map fun f _ => f.legible_toJson
  apply legible_object
  simp [hfields]

theorem CustomType.ofJson?_toJson (t : CustomType) : ofJson? t.toJson = some t := by
  obtain ⟨r, hrecord, hslots⟩ :
      ∃ r, t.toJson.record? ["id", "schema", "name", "kind", "values", "fields"] = some r ∧ _ :=
    record?_object (by simp) (by decide)
  simp only [List.zip_cons_cons, List.zip_nil_right, List.forall_mem_cons] at hslots
  obtain ⟨hid, hschema, hname, hkind, hvalues, hfields, -⟩ := hslots
  unfold ofJson?
  apply bind_read hrecord
  apply bind_read (required_always hid (string?_str t.id))
  apply bind_read (optional_ifSome hschema fun s _ => text?_str s)
  apply bind_read (required_always hname (string?_str t.name))
  apply bind_read (required_always hkind (tag?_str t.kind.ofName?_name))
  apply bind_read (optional_ifSome hvalues fun ss _ => nullable?_map fun s _ => string?_str s)
  apply bind_read (optional_ifSome hfields fun fs _ => nullable?_map fun f _ => f.ofJson?_toJson)
  rfl

/-! ## Diagrams -/

/-- A diagram whose numbers and moments have texts that are read as what was written. -/
@[mk_iff]
structure Storable (d : Diagram) : Prop where
  tables : ∀ t ∈ d.tables, t.Storable
  relationships : ∀ l ∈ d.relationships, IsMoment l.createdAt
  createdAt : Instant.parse? d.createdAt.render = some d.createdAt
  updatedAt : Instant.parse? d.updatedAt.render = some d.updatedAt

instance (d : Diagram) : Decidable d.Storable := decidable_of_iff' _ (storable_iff d)

theorem legible_toJson {d : Diagram} (h : d.Storable) : Legible d.toJson := by
  have htables := legible_map fun t ht => Table.legible_toJson (h.tables t ht)
  have hrelationships := legible_map fun l hl =>
    Relationship.legible_toJson (h.relationships l hl)
  have htypes : ∀ ts : List CustomType, Legible (.arr (ts.map CustomType.toJson)) :=
    fun ts => legible_map fun t _ => t.legible_toJson
  apply legible_object
  simp [Dialect.toJson, htables, hrelationships, htypes]

theorem ofJson?_toJson {d : Diagram} (h : d.Storable) : ofJson? d.toJson = some d := by
  obtain ⟨r, hrecord, hslots⟩ : ∃ r, d.toJson.record? names = some r ∧ _ :=
    record?_object (by simp [names]) (by decide)
  simp only [names, List.zip_cons_cons, List.zip_nil_right, List.forall_mem_cons] at hslots
  obtain ⟨hid, hname, hdialect, htables, hrelationships, htypes, hcreatedAt, hupdatedAt, -⟩ :=
    hslots
  unfold ofJson?
  apply bind_read hrecord
  apply bind_read (required_always hid (string?_str d.id))
  apply bind_read (required_always hname (string?_str d.name))
  apply bind_read (required_always hdialect d.dialect.ofJson?_toJson)
  apply bind_read (defaulted_always htables
    (list?_map fun t ht => Table.ofJson?_toJson (h.tables t ht)))
  apply bind_read (defaulted_always hrelationships
    (list?_map fun l hl => Relationship.ofJson?_toJson (h.relationships l hl)))
  apply bind_read (optional_ifSome htypes fun ts _ => nullable?_map fun t _ => t.ofJson?_toJson)
  apply bind_read (required_always hcreatedAt (instant?_str h.createdAt))
  apply bind_read (required_always hupdatedAt (instant?_str h.updatedAt))
  rfl

/-- The text that a diagram is stored as gives back the diagram: every table, field, index,
relationship and type in its place, and every optional part as it was, a part that is missing
apart from one that is false or empty. -/
theorem stored_diagrams_come_back (d : Diagram) (h : d.Storable) :
    Diagram.parse? d.render = some d := by
  rw [Diagram.parse?, render, parse?_pretty (legible_toJson h)]
  exact ofJson?_toJson h

/-- A diagram whose texts are awkward, with parts that are false, empty or missing. -/
def awkwardDiagram : Diagram where
  id := "d\"1\""
  name := "shop \\ \n\u0001 é"
  dialect := .postgresql
  tables := [
    { id := "t1", name := "order\tlines", schema := some "", x := .ofInt 300,
      y := .finite true 6896136929411072 (-48), width := some (.ofInt 224),
      fields := [
        { id := "f1", name := "\x7b\"id\": 1\x7d", type := ⟨"int", "INT"⟩, increment := some false,
          createdAt := -1, precision := some 4294967295 },
        { id := "f2", name := "", type := ⟨"text", "TEXT"⟩, isArray := some true,
          createdAt := 1700000000000, default := some "", onUpdate := some "now()" }],
      indexes := [{ id := "i1", fieldIds := [], createdAt := 0, primaryKey := some false }],
      color := "#fff", isMaterializedView := some false, createdAt := 9223372036854775807,
      order := some 18446744073709551615 },
    { id := "t2", name := "t2", fields := [], color := "" }]
  relationships := [
    { id := "r1", name := "r", sourceTableId := "t1", targetSchema := some "",
      targetTableId := "t2", sourceFieldId := "f1", targetFieldId := "f9",
      sourceCardinality := .many, createdAt := -9223372036854775808 }]
  customTypes := some [
    { id := "c1", name := "mood", kind := .enum, values := some [] },
    { id := "c2", schema := some "public", name := "pair", kind := .composite,
      fields := some [⟨"a", "INT"⟩, ⟨"b", "TEXT"⟩] }]
  createdAt := ⟨1700000000, 120000000⟩

theorem awkward_diagram_comes_back :
    awkwardDiagram.Storable ∧ Diagram.parse? awkwardDiagram.render = some awkwardDiagram := by
  have hstorable : awkwardDiagram.Storable := by decide +kernel
  exact ⟨hstorable, stored_diagrams_come_back awkwardDiagram hstorable⟩

end Diagram

end SchemaChart
