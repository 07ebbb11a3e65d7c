-- Keys in the lines of a table. There is one line for each field, and the primary key is declared
-- once or not at all: in the line of its column, or in a line of its own behind the fields. A
-- unique field is marked as such unless it is marked as primary key, even where the key has other
-- columns.
import SchemaChart.Proofs.TableRoundTrip

namespace SchemaChart.Export

open Diagram (Field Index Table)

/-! ## The line of a field -/

namespace Style

variable (s : Style) (f : Field) (inlineKey : Bool)

/-- What the line of a field begins with: its name, its type, and whether it needs a value. -/
def fieldHead : String :=
  s.quoting.ident f.name ++ " " ++ s.columnType f
    ++ if !f.nullable || f.primaryKey then " NOT NULL" else ""

/-- Do these words follow in a line behind the name and the type of the field. -/
def hasWords (words line : String) : Bool :=
  (s.fieldHead f ++ " " ++ words).toList.isPrefixOf line.toList

/-- What follows the marks of a column. -/
def laterParts : List String :=
  (s.increment? f inlineKey).toList ++ ((s.default? f).map ("DEFAULT " ++ ·)).toList
    ++ ((s.onUpdate? f).map ("ON UPDATE " ++ ·)).toList

/-- Parts with a blank before each. -/
def spread (parts : List String) : List Char := parts.flatMap fun p => ' ' :: p.toList

theorem spread_append (ps qs : List String) : spread (ps ++ qs) = spread ps ++ spread qs :=
  List.flatMap_append

theorem intercalate_blank (p : String) (ps : List String) :
    (" ".intercalate (p :: ps)).toList = p.toList ++ spread ps := by
  rw [String.toList_intercalate, List.map_cons]
  induction ps generalizing p with
  | nil => simp [spread]
  | cons q ps ih =>
    rw [List.map_cons, List.intercalate_cons_cons, ih q]
    simp [spread]

theorem column_toList :
    (s.column f inlineKey).toList = (s.fieldHead f).toList ++
      spread ((if inlineKey then ["PRIMARY KEY"] else [])
        ++ (if marksUnique f inlineKey then ["UNIQUE"] else []) ++ s.laterParts f inlineKey) := by
  have hvalue : spread (if !f.nullable || f.primaryKey then ["NOT NULL"] else []) =
      (if !f.nullable || f.primaryKey then " NOT NULL" else "").toList := by
    split <;> rfl
  rw [column, columnParts, List.append_assoc, List.append_assoc, List.append_assoc,
    List.append_assoc, List.append_assoc, List.cons_append, List.cons_append, List.nil_append,
    intercalate_blank, fieldHead, laterParts]
  simp only [String.toList_append, ← hvalue, spread_append, List.append_assoc]
  simp [spread]

theorem laterParts_head : ∀ p ∈ s.laterParts f inlineKey,
    ∃ c ∈ p.toList.head?, c ≠ 'P' ∧ c ≠ 'U' := by
  have hincrement : ∀ increment ∈ increments, ∀ p ∈ increment.toList,
      p.toList.head?.any (fun c => c != 'P' && c != 'U') = true := by decide
  intro p hp
  rcases List.mem_append.mp hp with hp | hp
  · rcases List.mem_append.mp hp with hp | hp
    · obtain ⟨c, hc, hne⟩ :=
        (Option.any_eq_true _ _).mp (hincrement _ (increment?_mem s f inlineKey) p hp)
      exact ⟨c, hc, by simpa using hne⟩
    · obtain ⟨v, -, rfl⟩ := Option.map_eq_some_iff.mp (Option.mem_toList.mp hp)
      exact ⟨'D', by rw [String.toList_append]; rfl, by decide⟩
  · obtain ⟨v, -, rfl⟩ := Option.map_eq_some_iff.mp (Option.mem_toList.mp hp)
    exact ⟨'O', by rw [String.toList_append]; rfl, by decide⟩

/-- Words do not stand before parts that begin with another letter. -/
theorem not_prefix_spread {words : String} {c : Char} (hc : c ∈ words.toList.head?)
    {parts : List String} (h : ∀ p ∈ parts, ∃ x ∈ p.toList.head?, x ≠ c) :
    ¬ ' ' :: words.toList <+: spread parts := by
  intro hprefix
  obtain ⟨cs, hwords⟩ := List.head?_eq_some_iff.mp hc
  cases parts with
  | nil => simp [spread] at hprefix
  | cons p ps =>
    obtain ⟨x, hx, hne⟩ := h p List.mem_cons_self
    obtain ⟨xs, hp⟩ := List.head?_eq_some_iff.mp hx
    simp only [spread, List.flatMap_cons, hwords, hp, List.cons_append,
      List.cons_prefix_cons] at hprefix
    exact hne hprefix.2.1.symm

theorem hasWords_column_iff (words : String) :
    s.hasWords f words (s.column f inlineKey) = true ↔ ' ' :: words.toList <+:
      spread ((if inlineKey then ["PRIMARY KEY"] else [])
        ++ (if marksUnique f inlineKey then ["UNIQUE"] else []) ++ s.laterParts f inlineKey) := by
  rw [hasWords, List.isPrefixOf_iff_prefix, column_toList, String.toList_append,
    String.toList_append, List.append_assoc, List.prefix_append_right_inj]
  rfl

theorem hasWords_key : s.hasWords f "PRIMARY KEY" (s.column f inlineKey) = inlineKey := by
  rw [Bool.eq_iff_iff, hasWords_column_iff]
  cases inlineKey with
  | true =>
    rw [if_pos rfl, List.append_assoc, spread_append]
    exact iff_of_true (List.prefix_append _ _) rfl
  | false =>
    refine iff_of_false ?_ Bool.false_ne_true
    refine not_prefix_spread (c := 'P') rfl fun p hp => ?_
    rw [if_neg Bool.false_ne_true, List.nil_append] at hp
    rcases List.mem_append.mp hp with hp | hp
    · split at hp
      · rw [List.mem_singleton.mp hp]
        exact ⟨'U', rfl, by decide⟩
      · cases hp
    · obtain ⟨c, hc, hne, -⟩ := s.laterParts_head f false p hp
      exact ⟨c, hc, hne⟩

theorem hasWords_unique :
    s.hasWords f "UNIQUE" (s.column f inlineKey) = marksUnique f inlineKey := by
  rw [Bool.eq_iff_iff, hasWords_column_iff]
  cases hmarks : marksUnique f inlineKey with
  | true =>
    have hinline : inlineKey = false := by
      simp only [marksUnique, Bool.and_eq_true, Bool.not_eq_true'] at hmarks
      exact hmarks.1.1
    rw [hinline, if_neg Bool.false_ne_true, if_pos rfl, List.nil_append, spread_append]
    exact iff_of_true (List.prefix_append _ _) rfl
  | false =>
    refine iff_of_false ?_ Bool.false_ne_true
    refine not_prefix_spread (c := 'U') rfl fun p hp => ?_
    rw [if_neg Bool.false_ne_true, List.append_nil] at hp
    rcases List.mem_append.mp hp with hp | hp
    · split at hp
      · rw [List.mem_singleton.mp hp]
        exact ⟨'P', rfl, by decide⟩
      · cases hp
    · obtain ⟨c, hc, -, hne⟩ := s.laterParts_head f inlineKey p hp
      exact ⟨c, hc, hne⟩

theorem fieldHead_begins : (s.fieldHead f).toList <+: (s.column f inlineKey).toList := by
  rw [column_toList]
  exact List.prefix_append _ _

end Style

/-! ## The key of a table -/

section Key

variable (t : Table)

/-- Does the first index that is marked as primary key name a field of the table, or is a field
marked as primary key. -/
def HasKey : Prop :=
  (∃ i ∈ t.primaryKeyIndex?, ∃ f ∈ t.fields, f.id ∈ i.fieldIds) ∨
    ∃ f ∈ t.fields, f.primaryKey = true

/-- Are these the columns of the primary key: the fields of its index in their order, if there are
any, or else the marked fields. -/
structure KeyColumns (columns : List Field) : Prop where
  indexed : ∀ i ∈ t.primaryKeyIndex?, indexedFields t i ≠ [] → columns = indexedFields t i
  marked : (∀ i ∈ t.primaryKeyIndex?, indexedFields t i = []) → columns = t.primaryKeyFields

/-- Is this the name of the index of the primary key, if that has one. -/
def KeyName (name : Option String) : Prop :=
  ∀ n, name = some n ↔ n ≠ "" ∧ ∃ i ∈ t.primaryKeyIndex?, i.name = n

theorem keyColumns_keyFields : KeyColumns t (KeyLayout.keyFields t) := by
  constructor
  · intro i hi hne
    rw [KeyLayout.keyFields, Option.mem_def.mp hi, Option.elim_some]
    split
    · next hnil => exact absurd hnil hne
    · rfl
  · intro h
    have hnil : t.primaryKeyIndex?.elim [] (indexedFields t) = [] := by
      cases hi : t.primaryKeyIndex? with
      | none => rfl
      | some i => exact h i hi
    rw [KeyLayout.keyFields, hnil]

theorem keyName_keyName? : KeyName t (KeyLayout.keyName? t) := by
  intro n
  rw [KeyLayout.keyName?, Option.filter_eq_some_iff, Option.map_eq_some_iff]
  simp [and_comm]

theorem indexedFields_eq_nil_iff (i : Index) :
    indexedFields t i = [] ↔ ¬ ∃ f ∈ t.fields, f.id ∈ i.fieldIds := by
  have hlookup : ∀ id, t.fieldById? id = none ↔ ∀ f ∈ t.fields, f.id ≠ id := by
    intro id
    simp [Table.fieldById?]
  rw [indexedFields, List.filterMap_eq_nil_iff]
  simp only [hlookup, not_exists, not_and]
  exact ⟨fun h f hf hid => h _ hid f hf rfl, fun h id hid f hf heq => h f hf (heq ▸ hid)⟩

theorem keyFields_eq_nil_iff : KeyLayout.keyFields t = [] ↔ ¬ HasKey t := by
  have hmarked : t.primaryKeyFields = [] ↔ ¬ ∃ f ∈ t.fields, f.primaryKey = true := by
    simp [Table.primaryKeyFields]
  have hcolumns := keyColumns_keyFields t
  by_cases hindex : ∃ i ∈ t.primaryKeyIndex?, ∃ f ∈ t.fields, f.id ∈ i.fieldIds
  · obtain ⟨i, hi, hf⟩ := hindex
    have hne : indexedFields t i ≠ [] := fun hnil => (indexedFields_eq_nil_iff t i).mp hnil hf
    rw [hcolumns.indexed i hi hne]
    exact iff_of_false hne fun h => h (.inl ⟨i, hi, hf⟩)
  · have hnone : ∀ i ∈ t.primaryKeyIndex?, indexedFields t i = [] := fun i hi =>
      (indexedFields_eq_nil_iff t i).mpr fun hf => hindex ⟨i, hi, hf⟩
    rw [hcolumns.marked hnone, hmarked, HasKey, or_iff_right hindex]

/-- Is a field the only column of the primary key. -/
def IsWholeKey (f : Field) : Prop :=
  KeyLayout.keyFields t ≠ [] ∧ ∀ g ∈ KeyLayout.keyFields t, g = f

end Key

/-! ## Lines of the key -/

/-- The line that declares a primary key by itself. -/
def declarationLine (q : Quoting) (name : Option String) (columns : List Field) : String :=
  name.elim "" (fun n => "CONSTRAINT " ++ q.ident n ++ " ")
    ++ ("PRIMARY KEY (" ++ q.columns (columns.map (·.name)) ++ ")")

theorem line?_ownLine (q : Quoting) (name : Option String) (columns : List Field) :
    (KeyLayout.ownLine name columns).line? q = some (declarationLine q name columns) := by
  cases name with
  | none => simp [KeyLayout.line?, declarationLine]
  | some n => rfl

/-- The three ways to lay out a key: there is none; or it has one column and no name, and stands in
the line of that column; or it has a line of its own. -/
theorem ofTable_cases (t : Table) (allowInline : Bool) :
    (KeyLayout.keyFields t = [] ∧ KeyLayout.ofTable t allowInline = .none) ∨
      (∃ f, KeyLayout.keyFields t = [f] ∧ KeyLayout.keyName? t = none ∧
        KeyLayout.ofTable t allowInline = .inline f) ∨
      KeyLayout.keyFields t ≠ [] ∧ KeyLayout.ofTable t allowInline =
        .ownLine (KeyLayout.keyName? t) (KeyLayout.keyFields t) := by
  unfold KeyLayout.ofTable
  split
  · next hnil => exact .inl ⟨hnil, rfl⟩
  · next f hone hname =>
    rw [hone, hname]
    cases allowInline with
    | true => exact .inr (.inl ⟨f, rfl, rfl, rfl⟩)
    | false => exact .inr (.inr ⟨by simp, rfl⟩)
  · next hne _ => exact .inr (.inr ⟨hne, rfl⟩)

section Lines

variable (s : Style) (t : Table)

/-- The fields whose lines declare them as primary key. -/
def inlineKeys (lines : List String) : List Field :=
  ((t.fields.zip lines).filter fun p => s.hasWords p.1 "PRIMARY KEY" p.2).map (·.1)

/-- The lines behind those of the fields. -/
def otherLines (lines : List String) : List String := lines.drop t.fields.length

/-- Do the lines of a table declare a primary key just once, with this name and these columns: in
the line of one field and nowhere else, or in one line behind all fields. -/
inductive DeclaresKey (lines : List String) : Option String → List Field → Prop
  | inline {f : Field} : inlineKeys s t lines = [f] → otherLines t lines = [] →
      DeclaresKey lines none [f]
  | ownLine {name : Option String} {columns : List Field} : inlineKeys s t lines = [] →
      otherLines t lines = [declarationLine s.quoting name columns] → DeclaresKey lines name columns

variable (allowInline : Bool)

theorem tableLines_getElem? {i : Nat} {f : Field} (h : t.fields[i]? = some f) :
    (s.tableLines t allowInline)[i]? =
      some (s.column f ((KeyLayout.ofTable t allowInline).isInline f)) := by
  have hlt : i < t.fields.length := (List.getElem?_eq_some_iff.mp h).1
  rw [Style.tableLines, List.getElem?_append_left (by simpa using hlt), List.getElem?_map, h]
  rfl

theorem zip_map_append {α β : Type} (g : α → β) (xs : List α) (ys : List β) :
    xs.zip (xs.map g ++ ys) = xs.map fun x => (x, g x) := by
  induction xs with
  | nil => rfl
  | cons x xs ih => simp [ih]

theorem inlineKeys_tableLines :
    inlineKeys s t (s.tableLines t allowInline) =
      t.fields.filter (KeyLayout.ofTable t allowInline).isInline := by
  rw [inlineKeys, Style.tableLines, zip_map_append, List.filter_map, List.map_map]
  simp [Function.comp_def, Style.hasWords_key]

theorem otherLines_tableLines :
    otherLines t (s.tableLines t allowInline) =
      ((KeyLayout.ofTable t allowInline).line? s.quoting).toList := by
  rw [otherLines, Style.tableLines, List.drop_left' (List.length_map _)]

variable {s t allowInline}

theorem eq_of_isInline (hids : (t.fields.map (·.id)).Nodup) {f : Field} (hf : f ∈ t.fields)
    (h : (KeyLayout.ofTable t allowInline).isInline f = true) : KeyLayout.keyFields t = [f] := by
  rcases ofTable_cases t allowInline with ⟨-, hl⟩ | ⟨g, hone, -, hl⟩ | ⟨-, hl⟩
  · rw [hl] at h
    cases h
  · rw [hl] at h
    have hg : g ∈ t.fields := keyFields_subset (hone ▸ List.mem_singleton_self g)
    have hsame : f ∈ t.fields.filter (KeyLayout.inline g).isInline := List.mem_filter.mpr ⟨hf, h⟩
    have hfg : f ∈ [g] := filter_id hids hg ▸ hsame
    rw [hone, List.mem_singleton.mp hfg]
  · rw [hl] at h
    cases h

/-- A key is declared once, wherever it stands. -/
theorem declaresKey_tableLines (hids : (t.fields.map (·.id)).Nodup)
    (hkey : KeyLayout.keyFields t ≠ []) :
    DeclaresKey s t (s.tableLines t allowInline) (KeyLayout.keyName? t)
      (KeyLayout.keyFields t) := by
  have hinline := inlineKeys_tableLines s t allowInline
  have hother := otherLines_tableLines s t allowInline
  rcases ofTable_cases t allowInline with ⟨hnil, -⟩ | ⟨f, hone, hname, hl⟩ | ⟨-, hl⟩
  · exact absurd hnil hkey
  · rw [hl] at hinline hother
    have hf : f ∈ t.fields := keyFields_subset (hone ▸ List.mem_singleton_self f)
    rw [hone, hname]
    exact .inline (hinline.trans (filter_id hids hf)) hother
  · rw [hl] at hinline hother
    rw [line?_ownLine] at hother
    exact .ownLine (hinline.trans (List.filter_eq_nil_iff.mpr fun _ _ => Bool.false_ne_true)) hother

theorem noKey_tableLines (hkey : KeyLayout.keyFields t = []) :
    inlineKeys s t (s.tableLines t allowInline) = [] ∧
      otherLines t (s.tableLines t allowInline) = [] := by
  have hl : KeyLayout.ofTable t allowInline = .none := by
    rcases ofTable_cases t allowInline with ⟨-, hl⟩ | ⟨f, hone, -⟩ | ⟨hne, -⟩
    · exact hl
    · exact absurd (hone ▸ hkey) (by simp)
    · exact absurd hkey hne
  rw [inlineKeys_tableLines, otherLines_tableLines, hl]
  exact ⟨List.filter_eq_nil_iff.mpr fun _ _ => Bool.false_ne_true, rfl⟩

end Lines

/-! ## Primary keys are declared once -/

/-- A table has a line for each field in order and at most one more. Its primary key is declared
just once if its first index of that kind names a field, or if a field is marked, and otherwise not
at all. It has the columns of that index, or else those that are marked, and is named if that
index is. -/
theorem primary_keys_are_declared_once (s : Style) (t : Table)
    (hids : (t.fields.map (·.id)).Nodup) (allowInline : Bool) :
    let lines := s.tableLines t allowInline
    lines.length = t.fields.length + (otherLines t lines).length ∧
      (otherLines t lines).length ≤ 1 ∧
      (∀ (i : Nat) (f : Field), t.fields[i]? = some f →
        ∃ line, lines[i]? = some line ∧ (s.fieldHead f).toList <+: line.toList) ∧
      (HasKey t → ∃ name columns, DeclaresKey s t lines name columns ∧ KeyName t name ∧
        KeyColumns t columns) ∧
      (¬ HasKey t → inlineKeys s t lines = [] ∧ otherLines t lines = []) := by
  have hother := otherLines_tableLines s t allowInline
  refine ⟨?_, ?_, ?_, ?_, ?_⟩
  · rw [hother, Style.tableLines, List.length_append, List.length_map]
  · rw [hother]
    exact Option.length_toList_le
  · intro i f hf
    exact ⟨_, tableLines_getElem? s t allowInline hf, s.fieldHead_begins f _⟩
  · intro hkey
    have hne : KeyLayout.keyFields t ≠ [] := fun hnil => (keyFields_eq_nil_iff t).mp hnil hkey
    exact ⟨_, _, declaresKey_tableLines hids hne, keyName_keyName? t, keyColumns_keyFields t⟩
  · intro hkey
    exact noKey_tableLines ((keyFields_eq_nil_iff t).mpr hkey)

/-- Lines of orders, with a named key over two columns of which one is marked as well. -/
def orderLines : Table :=
  { id := "t"
    name := "order_lines"
    fields :=
      [{ id := "1", name := "order_id", type := .named "integer", nullable := false },
        { id := "2", name := "line_no", type := .named "integer", primaryKey := true },
        { id := "3", name := "note", type := .named "text" }]
    indexes :=
      [{ id := "i", name := "lines_pk", fieldIds := ["2", "gone", "1"], primaryKey := some true }]
    color := "" }

theorem the_key_of_order_lines_is_declared_once :
    (orderLines.fields.map (·.id)).Nodup ∧ HasKey orderLines ∧
      DeclaresKey (Style.ofDialect .mysql default) orderLines
        ((Style.ofDialect .mysql default).tableLines orderLines true)
        (some "lines_pk") (orderLines.fields.take 2).reverse := by
  have hids : (orderLines.fields.map (·.id)).Nodup := by decide
  have hkey : HasKey orderLines := .inr (by decide)
  have hlines :=
    primary_keys_are_declared_once (Style.ofDialect .mysql default) orderLines hids true
  obtain ⟨name, columns, hdeclares, hname, hcolumns⟩ := hlines.2.2.2.1 hkey
  obtain rfl : name = some "lines_pk" := (hname "lines_pk").mpr (by decide)
  obtain rfl : columns = (orderLines.fields.take 2).reverse :=
    (hcolumns.indexed _ rfl (by decide)).trans (by decide)
  exact ⟨hids, hkey, hdeclares⟩

/-- A table with two indexes that are marked as primary key, of which the first names no field. -/
def twiceIndexedTable : Table :=
  { id := "t"
    name := "t"
    fields := [{ id := "a", name := "a", type := .named "integer", nullable := false }]
    indexes :=
      [{ id := "i", fieldIds := ["gone"], primaryKey := some true },
        { id := "j", fieldIds := ["a"], primaryKey := some true }]
    color := "" }

/-- A table whose primary key is named, but has no columns. -/
def emptyKeyTable : Table :=
  { twiceIndexedTable with
    indexes := [{ id := "i", name := "t_pk", fieldIds := ["gone"], primaryKey := some true }] }

/-- Only the first index that is marked as primary key counts: if it names no field and no field is
marked, no key is declared though another index names one, and no name is written though the index
has one. -/
theorem a_key_index_without_fields_declares_nothing :
    (twiceIndexedTable.fields.map (·.id)).Nodup ∧
      (∃ i ∈ twiceIndexedTable.indexes, i.isPrimaryKey = true ∧
        ∃ f ∈ twiceIndexedTable.fields, f.id ∈ i.fieldIds) ∧
      (∀ name columns, ¬ DeclaresKey (Style.ofDialect .postgresql default) twiceIndexedTable
        ((Style.ofDialect .postgresql default).tableLines twiceIndexedTable true) name columns) ∧
      (∃ i ∈ emptyKeyTable.primaryKeyIndex?, i.name = "t_pk") ∧
      (Style.ofDialect .postgresql default).tableLines emptyKeyTable true =
        ["\"a\" integer NOT NULL"] := by
  have hinline : inlineKeys (Style.ofDialect .postgresql default) twiceIndexedTable
      ((Style.ofDialect .postgresql default).tableLines twiceIndexedTable true) = [] := by
    decide +kernel
  have hother : otherLines twiceIndexedTable
      ((Style.ofDialect .postgresql default).tableLines twiceIndexedTable true) = [] := by
    decide +kernel
  refine ⟨by decide, by decide, ?_, by decide, by decide +kernel⟩
  rintro name columns (⟨hone, -⟩ | ⟨-, hone⟩)
  · rw [hinline] at hone
    cases hone
  · rw [hother] at hone
    cases hone

/-! ## Unique fields -/

/-- The line of a unique field says so, or declares the field as primary key, or the field is the
only column of the primary key, just if this last is so or the field is not marked as primary key.
So a unique field that is one of several columns of the key loses its mark. -/
theorem unique_fields_are_marked_outside_of_wider_keys (s : Style) (t : Table)
    (hids : (t.fields.map (·.id)).Nodup) (allowInline : Bool) {i : Nat} {f : Field}
    (hf : t.fields[i]? = some f) (hunique : f.unique = true) :
    ∃ line, (s.tableLines t allowInline)[i]? = some line ∧
      (s.hasWords f "UNIQUE" line = true ∨ s.hasWords f "PRIMARY KEY" line = true ∨ IsWholeKey t f ↔
        f.primaryKey = false ∨ IsWholeKey t f) := by
  refine ⟨_, tableLines_getElem? s t allowInline hf, ?_⟩
  rw [Style.hasWords_unique, Style.hasWords_key]
  have hwhole : (KeyLayout.ofTable t allowInline).isInline f = true → IsWholeKey t f := by
    intro hinline
    have hone := eq_of_isInline hids (List.mem_of_getElem? hf) hinline
    exact ⟨by simp [hone], by simp [hone]⟩
  cases hinline : (KeyLayout.ofTable t allowInline).isInline f with
  | true => exact iff_of_true (.inr (.inl rfl)) (.inr (hwhole hinline))
  | false => simp [Style.marksUnique, hunique]

/-- A code that is unique in a key of two columns. -/
def codesTable : Table :=
  { id := "t"
    name := "codes"
    fields :=
      [{ id := "a", name := "code", type := .named "integer", primaryKey := true, unique := true,
         nullable := false },
        { id := "b", name := "region", type := .named "integer", primaryKey := true,
          nullable := false }]
    indexes := [{ id := "i", unique := true, fieldIds := ["a", "b"], primaryKey := some true }]
    color := "" }

theorem the_code_of_a_region_is_no_longer_unique :
    (codesTable.fields.map (·.id)).Nodup ∧
      ∃ f line, codesTable.fields[0]? = some f ∧ f.unique = true ∧
        ((Style.ofDialect .postgresql default).tableLines codesTable true)[0]? = some line ∧
        ¬ ((Style.ofDialect .postgresql default).hasWords f "UNIQUE" line = true ∨
          (Style.ofDialect .postgresql default).hasWords f "PRIMARY KEY" line = true ∨
          IsWholeKey codesTable f) := by
  have hids : (codesTable.fields.map (·.id)).Nodup := by decide
  obtain ⟨line, hline, hmarks⟩ := unique_fields_are_marked_outside_of_wider_keys
    (Style.ofDialect .postgresql default) codesTable hids true (i := 0) rfl rfl
  refine ⟨hids, _, line, rfl, rfl, hline, fun h => ?_⟩
  rcases hmarks.mp h with hmarked | ⟨-, hwhole⟩
  · cases hmarked
  · exact absurd hwhole (by decide +kernel)

end SchemaChart.Export
