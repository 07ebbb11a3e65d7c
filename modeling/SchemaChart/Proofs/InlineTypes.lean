-- Enumerations that columns declare in their types. A diagram keeps each of them as a type named
-- for table and column, and a field finds its type again by this name: the first type of the name
-- counts, whoever declared it.
import SchemaChart.Proofs.KeyDirection
import SchemaChart.Proofs.Literals

namespace SchemaChart.Import

open Text
open Export (customTypeText literals typeText)

/-! ## The types of a diagram -/

/-- All types that a schema brings into a diagram: the declared ones, and behind them those that
columns declare. -/
def broughtTypes (s : Schema) (o : Options) : List Schema.CustomType :=
  s.types ++ (included s o).flatMap fun t => t.columns.filterMap (inlineType? t)

/-- The name of the enumeration that a column declares. -/
def inlineName (t : Schema.Table) (c : Schema.Column) : String := t.name ++ "_" ++ c.name

/-- An enumeration in the words of MySQL. -/
def enumText (labels : List String) : String := "enum(" ++ literals "," labels ++ ")"

/-- What stands for a type in a script for MySQL. -/
def writtenType (e : Schema.CustomType) : String :=
  match e.kind with
  | .enum => enumText e.values
  | .composite => "json"

theorem map_renumbered {β : Type} (f : Nat → String) {g : Diagram.CustomType → β}
    (hg : ∀ t id, g { t with id := id } = g t) (ts : List Diagram.CustomType) :
    (ts.mapIdx fun n t => { t with id := f n }).map g = ts.map g := by
  apply List.ext_getElem?
  intro n
  simp only [List.getElem?_map, List.getElem?_mapIdx, Option.map_map]
  rcases ts[n]? with _ | t
  · rfl
  · exact congrArg some (hg t (f n))

/-- The types of a diagram are those that the schema brings, as far as names and labels go. -/
theorem map_customTypes {β : Type} (s : Schema) (source : Dialect) (o : Options)
    {g : Diagram.CustomType → β} (hg : ∀ t id, g { t with id := id } = g t)
    (hschema : ∀ e schema, g (customType e schema) = g (customType e none)) :
    (customTypes s source o).map g = (broughtTypes s o).map fun e => g (customType e none) := by
  unfold customTypes broughtTypes
  rw [map_renumbered _ hg, List.map_append, List.map_append, List.map_flatMap, List.map_flatMap]
  simp only [List.map_map, Function.comp_def, hschema]

theorem customTypeText_customType (always : Bool) (e : Schema.CustomType)
    (schema : Option String) :
    customTypeText ⟨.mysql, always⟩ (customType e schema) = writtenType e := by
  rcases e with ⟨name, eschema, kind, values, fields⟩
  cases kind with
  | enum => rfl
  | composite => rfl

/-- The first type of a name in a diagram is the first one that the schema brings. -/
theorem find?_customTypes (s : Schema) (source : Dialect) (o : Options) (always : Bool)
    (name : String) :
    ((customTypes s source o).find? fun t => sameName t.name name).map
        (customTypeText ⟨.mysql, always⟩) =
      ((broughtTypes s o).find? fun e => sameName e.name name).map writtenType := by
  have hmap := map_customTypes s source o
    (g := fun t => (t.name, customTypeText ⟨.mysql, always⟩ t)) (fun _ _ => rfl)
    (fun e schema => by rw [customTypeText_customType, customTypeText_customType]; rfl)
  have hfind := congrArg (fun ts => (ts.find? fun p => sameName p.1 name).map (·.2)) hmap
  simp only [List.find?_map, Option.map_map] at hfind
  rw [← funext (customTypeText_customType always · none)]
  exact hfind

/-! ## Fields of columns with labels -/

theorem types_finished (s : Schema) (source target : Dialect) (o : Options)
    (tables : List Diagram.Table) :
    (numbered (laidOut s source target o tables).pruned).types = customTypes s source o := by
  show (if (customTypes s source o).isEmpty then none else some (customTypes s source o)).getD []
    = customTypes s source o
  split
  · next hempty => exact (List.isEmpty_iff.mp hempty).symm
  · rfl

/-- The column at a position of a table that is shown has its field at the same position. -/
theorem field_finished {s : Schema} {source : Dialect} (target : Dialect) {o : Options}
    {tables : List Diagram.Table} (htables : tablesFrom s source o 0 (included s o) = .ok tables)
    {i k : Nat} {t : Schema.Table} {c : Schema.Column} (ht : (included s o)[i]? = some t)
    (hc : t.columns[k]? = some c) :
    ∃ u id, (numbered (laidOut s source target o tables).pruned).tables[i]? = some u ∧
      u.fields[k]? = some (field t s.types id c) := by
  obtain ⟨indexes, hplaced⟩ := tablesFrom_getElem? htables i
  rw [ht, Option.map_some] at hplaced
  refine ⟨finishedTable (placedTable s source o (0 + i) t indexes),
    "t" ++ toString (0 + i) ++ "f" ++ toString k, ?_, ?_⟩
  · rw [tables_finished, List.getElem?_map]
    exact congrArg (Option.map finishedTable) hplaced
  · show (fieldsOf s ("t" ++ toString (0 + i)) t)[k]? = _
    rw [fieldsOf_getElem?, hc, Option.map_some]

/-- No type of the catalog is named like the enumeration of a column. -/
theorem inlineName_not_mem (t : Schema.Table) (c : Schema.Column) :
    inlineName t c ∉ Catalog.ids := by
  have hids : ∀ id ∈ Catalog.ids, '_' ∉ id.toList := by decide +kernel
  intro h
  exact hids _ h (by simp [inlineName])

theorem inlineType?_eq_some {t : Schema.Table} {c : Schema.Column} {labels : List String}
    (h : inlineLabels? c.type.toList = some labels) :
    inlineType? t c = some
      { name := inlineName t c, schema := t.schema, kind := .enum, values := labels } := by
  rw [inlineType?, h]
  rfl

/-- The type of a field whose column declares labels is the one that is found by its name. -/
theorem typeText_field {s : Schema} (source : Dialect) {o : Options} {t : Schema.Table}
    {c : Schema.Column} {labels : List String} (hlabels : inlineLabels? c.type.toList = some labels)
    (harray : (Schema.parseType c.type.toList).isArray = false) {e : Schema.CustomType}
    (he : (broughtTypes s o).find? (fun e => sameName e.name (inlineName t c)) = some e)
    (always : Bool) (id : String) :
    typeText ⟨.mysql, always⟩ (customTypes s source o) (field t s.types id c) = writtenType e := by
  have htype : (field t s.types id c).type.id = inlineName t c := by
    simp only [field, inlineType?_eq_some hlabels]
    rfl
  have hlist : (field t s.types id c).isList = false := by
    simp [field, Diagram.Field.isList, harray]
  have hfind := find?_customTypes s source o always (inlineName t c)
  rw [he, Option.map_some] at hfind
  obtain ⟨u, hu, htext⟩ := Option.map_eq_some_iff.mp hfind
  have hcustom : Export.customTypeOf? (customTypes s source o) (field t s.types id c) = some u := by
    rw [Export.customTypeOf?, htype, if_neg, hu]
    simpa using inlineName_not_mem t c
  rw [typeText, hlist, if_neg Bool.false_ne_true, Export.elementType, hcustom]
  exact htext

/-- The enumeration of a column is among the types that the schema brings. -/
theorem mem_broughtTypes {s : Schema} {o : Options} {t : Schema.Table} {c : Schema.Column}
    (ht : t ∈ included s o) (hc : c ∈ t.columns) {labels : List String}
    (hlabels : inlineLabels? c.type.toList = some labels) :
    { name := inlineName t c, schema := t.schema, kind := .enum, values := labels } ∈
      broughtTypes s o :=
  List.mem_append_right _ (List.mem_flatMap.mpr
    ⟨t, ht, List.mem_filterMap.mpr ⟨c, hc, inlineType?_eq_some hlabels⟩⟩)

theorem enumText_inj {labels labels' : List String} (h : enumText labels = enumText labels') :
    labels = labels' := by
  have hlist := congrArg String.toList h
  simp only [enumText, String.toList_append, List.append_assoc, List.append_right_inj] at hlist
  exact Export.literals_inj (String.toList_inj.mp (List.append_left_inj _ |>.mp hlist))

theorem writtenType_eq_iff (e : Schema.CustomType) (labels : List String) :
    writtenType e = enumText labels ↔ e.kind = .enum ∧ e.values = labels := by
  rcases e with ⟨name, schema, kind, values, fields⟩
  cases kind with
  | enum => exact ⟨fun h => ⟨rfl, enumText_inj h⟩, fun h => congrArg enumText h.2⟩
  | composite =>
    refine ⟨fun h => ?_, fun h => nomatch h.1⟩
    -- The word for a record does not even begin like an enumeration.
    have hhead := congrArg (·.toList.head?) h
    simp [writtenType, enumText] at hhead

/-! ## What becomes of the labels -/

/-- A column that declares labels gets a field whose type is, in a script for MySQL, the first type
of the diagram with the name of table and column, letter case aside. So the column's own labels come
out, in their order, exactly if this first type is an enumeration of the same labels. -/
theorem labels_survive_unless_the_name_is_taken {s : Schema} {source target : Dialect} {o : Options}
    {d : Diagram} {said : List String} (h : convert s source target o = .ok (d, said)) {i k : Nat}
    {t : Schema.Table} {c : Schema.Column} (ht : (included s o)[i]? = some t)
    (hc : t.columns[k]? = some c) {labels : List String}
    (hlabels : inlineLabels? c.type.toList = some labels)
    (harray : (Schema.parseType c.type.toList).isArray = false) :
    ∃ u f e, d.tables[i]? = some u ∧ u.fields[k]? = some f ∧
      (broughtTypes s o).find? (fun e => sameName e.name (inlineName t c)) = some e ∧
      ∀ always, typeText ⟨.mysql, always⟩ d.types f = writtenType e ∧
        (typeText ⟨.mysql, always⟩ d.types f = enumText labels ↔
          e.kind = .enum ∧ e.values = labels) := by
  obtain ⟨tables, htables, rfl⟩ := convert_eq_ok h
  obtain ⟨u, id, hu, hf⟩ := field_finished target htables ht hc
  have hown := mem_broughtTypes (List.mem_of_getElem? ht) (List.mem_of_getElem? hc) hlabels
  have hsome : ((broughtTypes s o).find? fun e => sameName e.name (inlineName t c)).isSome :=
    List.find?_isSome.mpr ⟨_, hown, sameName_refl _⟩
  obtain ⟨e, he⟩ := Option.isSome_iff_exists.mp hsome
  refine ⟨u, field t s.types id c, e, hu, hf, he, fun always => ?_⟩
  have htext := typeText_field source hlabels harray he always id
  rw [types_finished, htext]
  exact ⟨rfl, writtenType_eq_iff e labels⟩

/-- An item of an order has a state, and an order has a state of its items. -/
def orderStates : Schema where
  tables := [
    { name := "order_item", schema := none
      columns := [{ name := "state", type := "enum('open')" }] },
    { name := "order", schema := none
      columns := [{ name := "item_state", type := "enum('paid')" }] }]

/-- The names of the two enumerations agree, so the labels of the second are lost. -/
theorem the_labels_of_an_order_are_lost :
    ∃ d said u f, convert orderStates .mysql .mysql {} = .ok (d, said) ∧ d.tables[1]? = some u ∧
      u.fields[0]? = some f ∧ inlineLabels? "enum('paid')".toList = some ["paid"] ∧
      typeText ⟨.mysql, true⟩ d.types f = enumText ["open"] ∧
      typeText ⟨.mysql, true⟩ d.types f ≠ enumText ["paid"] := by
  obtain ⟨⟨d, said⟩, hd⟩ := (convert_eq_ok_iff orderStates .mysql .mysql {}).mpr
    (by simp [orderStates, included])
  have hlabels : inlineLabels? "enum('paid')".toList = some ["paid"] := by decide +kernel
  have hfirst : (broughtTypes orderStates {}).find?
      (fun e => sameName e.name "order_item_state") = some
        { name := "order_item_state", schema := none, kind := .enum, values := ["open"] } := by
    decide +kernel
  obtain ⟨u, f, e, hu, hf, he, htext⟩ :=
    labels_survive_unless_the_name_is_taken hd (i := 1) (k := 0) rfl rfl hlabels (by decide +kernel)
  obtain rfl := Option.some.inj (he.symm.trans hfirst)
  refine ⟨d, said, u, f, hd, hu, hf, hlabels, (htext true).1, ?_⟩
  rw [ne_eq, (htext true).2]
  decide

end SchemaChart.Import
