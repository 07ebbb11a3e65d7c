-- Tables as scripts create them are read back: one table with the same name, schema and columns,
-- the same primary key, and the same unique columns.
import SchemaChart.Proofs.IndexColumns
import SchemaChart.Proofs.WrittenKeys

namespace SchemaChart.Schema

/-! ## Primary keys of new tables -/

/-- The item at the position of an exact name has that name exactly. -/
theorem positionByName?_exact {nameOf : α → String} {name : String} {items : List α}
    (h : ∃ x ∈ items, nameOf x = name) :
    ∃ i x, positionByName? nameOf name items = some i ∧ items[i]? = some x ∧ nameOf x = name := by
  have hsome : (items.findIdx? (nameOf · == name)).isSome = true := by
    obtain ⟨x, hx, hname⟩ := h
    rw [List.findIdx?_isSome, List.any_eq_true]
    exact ⟨x, hx, by simp [hname]⟩
  obtain ⟨i, hi⟩ := Option.isSome_iff_exists.mp hsome
  obtain ⟨hlt, hname, -⟩ := List.findIdx?_eq_some_iff_getElem.mp hi
  refine ⟨i, items[i], ?_, List.getElem?_eq_getElem hlt, by simpa using hname⟩
  rw [positionByName?, hi]
  rfl

/-- Where nothing is picked, a change that makes one item picked leaves just that one. -/
theorem filter_modify {p : α → Bool} {f : α → α} {x : α} : ∀ {l : List α} {i : Nat},
    (∀ y ∈ l, p y = false) → l[i]? = some x → p (f x) = true →
      (l.modify i f).filter p = [f x]
  | y :: l, 0, h, hx, hp => by
    cases hx
    have hl : l.filter p = [] := by
      simpa using fun z hz => h z (List.mem_cons_of_mem x hz)
    simp [hp, hl]
  | y :: l, i + 1, h, hx, hp => by
    have hy : p y = false := h y List.mem_cons_self
    simpa [hy] using filter_modify (fun z hz => h z (List.mem_cons_of_mem y hz)) hx hp

/-- A key over columns of a table without key is the key of the table. -/
theorem primaryKeyColumns_withPrimaryKey {t : Table} (name : Option String)
    {names : List String} (hindexes : t.indexes = [])
    (hcolumns : ∀ c ∈ t.columns, c.primaryKey = false) (hne : names ≠ [])
    (hnames : ∀ n ∈ names, ∃ c ∈ t.columns, c.name = n) :
    (Builder.withPrimaryKey name names t).primaryKeyColumns = names := by
  rw [Table.primaryKeyColumns, Builder.withPrimaryKey, hindexes]
  by_cases hindex : (!(name.getD "").isEmpty || names.length > 1) = true
  · simp [Builder.primaryKeyIndex?, hindex]
  · -- Without an index the key is one column, and this column alone is marked.
    have hnone : Builder.primaryKeyIndex? name names = none := by
      rw [Builder.primaryKeyIndex?, if_neg hindex]
    obtain ⟨n, rfl⟩ : ∃ n, names = [n] := by
      simp only [Bool.or_eq_true, decide_eq_true_eq, not_or, Nat.not_lt] at hindex
      exact List.length_eq_one_iff.mp (Nat.le_antisymm hindex.2 (List.length_pos_iff.mpr hne))
    obtain ⟨i, c, hi, hc, hname⟩ := positionByName?_exact (hnames n List.mem_cons_self)
    have hposition : t.position? n = some i := hi
    have hmarked : (t.modifyColumn n Builder.keyColumn).columns
        = t.columns.modify i Builder.keyColumn := by
      rw [Table.modifyColumn, hposition]
    have hfilter := filter_modify (p := (·.primaryKey)) (f := Builder.keyColumn) hcolumns hc rfl
    simp [hnone, hmarked, hfilter, Builder.keyColumn, hname]

/-- A key leaves the uniqueness of columns alone. -/
theorem withPrimaryKey_unique (name : Option String) (names : List String) (t : Table) :
    (Builder.withPrimaryKey name names t).columns.map (·.unique) = t.columns.map (·.unique) := by
  show (names.foldl _ t).columns.map _ = _
  induction names generalizing t with
  | nil => rfl
  | cons n names ih =>
    rw [List.foldl_cons, ih]
    unfold Table.modifyColumn
    split
    · exact map_modify_of_eq (f := Builder.keyColumn) fun _ => rfl
    · rfl

/-- The first table of a schema, as it is added. -/
def Table.first (t : Table) : Table := { t with id := "t" ++ toString 0, order := 0 }

theorem declare_first (dialect : Dialect) (t : Table) (facts : List Fact) :
    ({ dialect := dialect } : Builder).declare (.table t facts [])
      = ({ dialect := dialect, tables := [t.first] } : Builder).applyAll 0 facts := rfl

/-- A first table with a key over its columns is added with this key, and nothing else happens. -/
theorem declare_first_key (dialect : Dialect) (t : Table) (name : Option String)
    {names : List String} (hnames : ∀ n ∈ names, t.HasColumn n) :
    ({ dialect := dialect } : Builder).declare (.table t [.primaryKey name names] [])
      = { dialect := dialect, tables := [Builder.withPrimaryKey name names t.first] } := by
  have hwarnings : Builder.keyWarnings t.first names = [] := by
    rw [Builder.keyWarnings, List.map_eq_nil_iff, List.filter_eq_nil_iff]
    intro n hn
    rw [Table.column?_isNone]
    exact not_not_intro (hnames n hn)
  rw [declare_first]
  show Builder.setPrimaryKey { dialect := dialect, tables := [t.first] } 0 name names = _
  rw [Builder.setPrimaryKey_eq name names rfl, hwarnings]
  rfl

end SchemaChart.Schema

namespace SchemaChart.Export

open Text
open Diagram (Field)
open Schema (Fact)

/-! ## The lines of a table -/

/-- A field with a plain line: a name that needs no quotes, a type of the catalog with a length
that can be written, and nothing but marks behind the type. -/
structure WritableField (f : Field) : Prop where
  name : needsQuotes f.name = false
  type : f.type.id ∈ Catalog.ids
  length : ∀ l ∈ f.length, IsLength l
  default : f.default = none
  onUpdate : f.onUpdate = none

instance (f : Field) : Decidable (WritableField f) :=
  decidable_of_iff (needsQuotes f.name = false ∧ f.type.id ∈ Catalog.ids ∧
      (∀ l ∈ f.length, IsLength l) ∧ f.default = none ∧ f.onUpdate = none)
    ⟨fun ⟨hn, ht, hl, hd, hu⟩ => ⟨hn, ht, hl, hd, hu⟩,
      fun h => ⟨h.name, h.type, h.length, h.default, h.onUpdate⟩⟩

theorem columnType_words (s : Source) (d : Diagram) {f : Field} (h : WritableField f) :
    ∃ ws tail, TypeWords ((Style.ofDialect s.dialect d).columnType f).toList ws tail := by
  obtain ⟨type, array, htext, harray, htype⟩ := columnType_text s d h.type h.length
  rw [htype]
  exact htext.words harray

/-- The line of a field. -/
def fieldLine (s : Source) (d : Diagram) (inlineKey : Field → Bool) (f : Field) : List Char :=
  ((Style.ofDialect s.dialect d).column f (inlineKey f)).toList

theorem fieldLine_closed (s : Source) (d : Diagram) (inlineKey : Field → Bool) {f : Field}
    (h : WritableField f) :
    Closed (· == ',') (fieldLine s d inlineKey f) ∧ Trimmed (fieldLine s d inlineKey f) := by
  have hname := bare_of_needsQuotes h.name
  obtain ⟨ws, tail, hwords⟩ := columnType_words s d h
  have hclosed := written_closed (inlineKey f) hwords
  have hunwords : Closed (· == ',') (unwords (ws ++ markWords s d f (inlineKey f))) :=
    closed_unwords rfl fun w hw => (hclosed w hw).1.elements
  rw [fieldLine, column_toList hname h.default h.onUpdate (inlineKey f) hwords]
  exact ⟨(quoted_closed s hname).elements.append (.char (by decide) (by decide) hunwords),
    (trimmed_quoted (quotePair s)).append [' '] (trimmed_unwords (by simp [hwords.ne_nil]) hclosed)⟩

/-- The line of a field is read as a column of its name, with its marks, and as nothing else. -/
theorem add_fieldLine (s : Source) (d : Diagram) (inlineKey : Field → Bool) {f : Field}
    (h : WritableField f) (e : Reading.Elements) :
    ∃ c : Schema.Column,
      e.add s (fieldLine s d inlineKey f) = { e with columns := e.columns ++ [c] } ∧
      c.name = f.name ∧ c.primaryKey = inlineKey f ∧
      c.unique = Style.marksUnique f (inlineKey f) := by
  have hname := bare_of_needsQuotes h.name
  obtain ⟨ws, tail, hwords⟩ := columnType_words s d h
  obtain ⟨c, hc, hcname, hckey, hcunique⟩ := column?_written hname (inlineKey f) hwords
  refine ⟨c, ?_, hcname, hckey, hcunique⟩
  rw [fieldLine, column_toList hname h.default h.onUpdate (inlineKey f) hwords,
    Reading.Elements.add, isConstraint_written, hc]
  simp

/-- The lines of the fields are read as columns, one for each field and in their order. -/
theorem foldl_fieldLines (s : Source) (d : Diagram) (inlineKey : Field → Bool)
    {fields : List Field} (h : ∀ f ∈ fields, WritableField f) (e : Reading.Elements) :
    ∃ cs : List Schema.Column,
      (fields.map (fieldLine s d inlineKey)).foldl (Reading.Elements.add s) e
        = { e with columns := e.columns ++ cs } ∧
      cs.map (·.name) = fields.map (·.name) ∧ cs.map (·.primaryKey) = fields.map inlineKey ∧
      cs.map (·.unique) = fields.map (fun f => Style.marksUnique f (inlineKey f)) := by
  induction fields generalizing e with
  | nil => exact ⟨[], by simp, rfl, rfl, rfl⟩
  | cons f fields ih =>
    obtain ⟨c, hc, hname, hkey, hunique⟩ := add_fieldLine s d inlineKey (h f List.mem_cons_self) e
    obtain ⟨cs, hcs, hnames, hkeys, huniques⟩ :=
      ih (fun g hg => h g (List.mem_cons_of_mem f hg)) { e with columns := e.columns ++ [c] }
    refine ⟨c :: cs, ?_, ?_, ?_, ?_⟩
    · rw [List.map_cons, List.foldl_cons, hc, hcs]
      simp
    · rw [List.map_cons, List.map_cons, hname, hnames]
    · rw [List.map_cons, List.map_cons, hkey, hkeys]
    · rw [List.map_cons, List.map_cons, hunique, huniques]

/-! ## The layout of the key -/

/-- The columns of the primary key, in order. -/
def KeyLayout.fields : KeyLayout → List Field
  | .none => []
  | .inline f => [f]
  | .ownLine _ fs => fs

/-- What the line of the key says, if it has one. -/
def KeyLayout.facts : KeyLayout → List Fact
  | .ownLine name fs => [.primaryKey name (fs.map (·.name))]
  | _ => []

/-- A table of such fields, whose names need no quotes either. -/
structure Writable (t : Diagram.Table) : Prop where
  nonempty : t.fields ≠ []
  ids : (t.fields.map (·.id)).Nodup
  name : needsQuotes t.name = false
  schema : ∀ n ∈ t.schema, needsQuotes n = false
  keyName : ∀ i ∈ t.primaryKeyIndex?, i.name = "" ∨ needsQuotes i.name = false
  fields : ∀ f ∈ t.fields, WritableField f

instance (t : Diagram.Table) : Decidable (Writable t) :=
  decidable_of_iff (t.fields ≠ [] ∧ (t.fields.map (·.id)).Nodup ∧ needsQuotes t.name = false ∧
      (∀ n ∈ t.schema, needsQuotes n = false) ∧
      (∀ i ∈ t.primaryKeyIndex?, i.name = "" ∨ needsQuotes i.name = false) ∧
      ∀ f ∈ t.fields, WritableField f)
    ⟨fun ⟨he, hi, hn, hs, hk, hf⟩ => ⟨he, hi, hn, hs, hk, hf⟩,
      fun h => ⟨h.nonempty, h.ids, h.name, h.schema, h.keyName, h.fields⟩⟩

theorem keyFields_subset {t : Diagram.Table} {f : Field} (h : f ∈ KeyLayout.keyFields t) :
    f ∈ t.fields := by
  unfold KeyLayout.keyFields at h
  split at h
  · exact (List.mem_filter.mp h).1
  · cases hi : t.primaryKeyIndex? with
    | none => simp [hi] at h
    | some i =>
      simp only [hi, Option.elim_some, indexedFields, List.mem_filterMap] at h
      obtain ⟨id, -, hid⟩ := h
      exact List.mem_of_find?_eq_some hid

theorem ofTable_fields (t : Diagram.Table) (allowInline : Bool) :
    (KeyLayout.ofTable t allowInline).fields = KeyLayout.keyFields t := by
  unfold KeyLayout.ofTable
  split
  · next h => rw [h]; rfl
  · next f h _ => rw [h]; split <;> rfl
  · rfl

theorem mem_of_mem_layout {t : Diagram.Table} {allowInline : Bool} {f : Field}
    (h : f ∈ (KeyLayout.ofTable t allowInline).fields) : f ∈ t.fields := by
  rw [ofTable_fields] at h
  exact keyFields_subset h

/-- A key in a line of its own has columns, and its name needs no quotes. -/
theorem ofTable_ownLine {t : Diagram.Table} (ht : Writable t) {allowInline : Bool}
    {name : Option String} {fs : List Field}
    (h : KeyLayout.ofTable t allowInline = .ownLine name fs) :
    fs ≠ [] ∧ ∀ n ∈ name, Bare n.toList := by
  have hkeyName : ∀ n ∈ KeyLayout.keyName? t, Bare n.toList := by
    intro n hn
    obtain ⟨hsome, hne⟩ := Option.filter_eq_some_iff.mp hn
    obtain ⟨i, hi, rfl⟩ := Option.map_eq_some_iff.mp hsome
    rcases ht.keyName i hi with hempty | hbare
    · simp [hempty] at hne
    · exact bare_of_needsQuotes hbare
  unfold KeyLayout.ofTable at h
  split at h
  · cases h
  · split at h
    · cases h
    · cases h
      exact ⟨by simp, by simp⟩
  · next hnil _ =>
    cases h
    exact ⟨hnil, hkeyName⟩

/-- The lines that a layout of the key adds to those of the fields. -/
def keyLines (s : Source) : KeyLayout → List (List Char)
  | .ownLine name fs => [keyLine s name (fs.map (·.name))]
  | _ => []

section Layout

variable (s : Source) {t : Diagram.Table} (ht : Writable t) (allowInline : Bool)
include ht

theorem bare_keyNames :
    ∀ n ∈ (KeyLayout.ofTable t allowInline).fields.map (·.name), Bare n.toList := by
  intro n hn
  obtain ⟨f, hf, rfl⟩ := List.mem_map.mp hn
  exact bare_of_needsQuotes (ht.fields f (mem_of_mem_layout hf)).name

theorem line?_toList :
    ((KeyLayout.ofTable t allowInline).line? ⟨s.dialect, true⟩).toList.map String.toList
      = keyLines s (KeyLayout.ofTable t allowInline) := by
  have hbare := bare_keyNames ht allowInline
  cases hl : KeyLayout.ofTable t allowInline with
  | none => rfl
  | inline f => rfl
  | ownLine name fs =>
    rw [hl, KeyLayout.fields] at hbare
    rw [← Option.toList_map, ownLine_toList s (ofTable_ownLine ht hl).2 hbare]
    rfl

theorem keyLines_closed :
    ∀ l ∈ keyLines s (KeyLayout.ofTable t allowInline), Closed (· == ',') l ∧ Trimmed l := by
  have hbare := bare_keyNames ht allowInline
  cases hl : KeyLayout.ofTable t allowInline with
  | none => simp [keyLines]
  | inline f => simp [keyLines]
  | ownLine name fs =>
    rw [hl, KeyLayout.fields] at hbare
    intro l hmem
    rw [List.mem_singleton.mp hmem]
    exact keyLine_closed s (ofTable_ownLine ht hl).2 hbare

/-- The line of the key is read as the key, and as nothing else. -/
theorem foldl_keyLines (e : Reading.Elements) :
    (keyLines s (KeyLayout.ofTable t allowInline)).foldl (Reading.Elements.add s) e
      = { e with facts := e.facts ++ (KeyLayout.ofTable t allowInline).facts } := by
  have hbare := bare_keyNames ht allowInline
  cases hl : KeyLayout.ofTable t allowInline with
  | none => simp [keyLines, KeyLayout.facts]
  | inline f => simp [keyLines, KeyLayout.facts]
  | ownLine name fs =>
    obtain ⟨hne, hname⟩ := ofTable_ownLine ht hl
    rw [hl, KeyLayout.fields] at hbare
    rw [keyLines, List.foldl_cons, List.foldl_nil, Reading.Elements.add,
      if_pos (isConstraint_keyLine s hname hbare),
      constraint?_keyLine s hname (by simpa using hne) hbare]
    rfl

theorem tableLines_toList (d : Diagram) :
    ((Style.ofDialect s.dialect d).tableLines t allowInline).map String.toList
      = t.fields.map (fieldLine s d (KeyLayout.ofTable t allowInline).isInline)
        ++ keyLines s (KeyLayout.ofTable t allowInline) := by
  rw [← line?_toList s ht, Style.tableLines, List.map_append, List.map_map]
  rfl

theorem tableLines_closed (d : Diagram) :
    ∀ l ∈ ((Style.ofDialect s.dialect d).tableLines t allowInline).map String.toList,
      Closed (· == ',') l ∧ Trimmed l := by
  rw [tableLines_toList s ht]
  intro l hl
  rcases List.mem_append.mp hl with hl | hl
  · obtain ⟨f, hf, rfl⟩ := List.mem_map.mp hl
    exact fieldLine_closed s d _ (ht.fields f hf)
  · exact keyLines_closed s ht allowInline l hl

/-- All lines of a table are read: the columns with their marks, and the key. -/
theorem foldl_tableLines (d : Diagram) :
    ∃ cs : List Schema.Column,
      (((Style.ofDialect s.dialect d).tableLines t allowInline).map String.toList).foldl
        (Reading.Elements.add s) {}
        = { columns := cs, facts := (KeyLayout.ofTable t allowInline).facts, unread := [] } ∧
      cs.map (·.name) = t.fields.map (·.name) ∧
      cs.map (·.primaryKey) = t.fields.map (KeyLayout.ofTable t allowInline).isInline ∧
      cs.map (·.unique) = t.fields.map
        (fun f => Style.marksUnique f ((KeyLayout.ofTable t allowInline).isInline f)) := by
  obtain ⟨cs, hcs, hspec⟩ := foldl_fieldLines s d (KeyLayout.ofTable t allowInline).isInline
    ht.fields {}
  refine ⟨cs, ?_, hspec⟩
  rw [tableLines_toList s ht, List.foldl_append, hcs, foldl_keyLines s ht]
  rfl

end Layout

/-! ## The head of a table -/

/-- The name of a table in quotes, with its schema before it. -/
def tableName (s : Source) (t : Diagram.Table) : List Char :=
  match t.schema with
  | none => quoted s t.name.toList
  | some n => quoted s n.toList ++ '.' :: quoted s t.name.toList

/-- The name of a table and its schema are bare names. -/
structure BareNames (t : Diagram.Table) : Prop where
  name : Bare t.name.toList
  schema : ∀ n ∈ t.schema, Bare n.toList

theorem bareNames_of_needsQuotes {t : Diagram.Table} (hname : needsQuotes t.name = false)
    (hschema : ∀ n ∈ t.schema, needsQuotes n = false) : BareNames t :=
  ⟨bare_of_needsQuotes hname, fun n hn => bare_of_needsQuotes (hschema n hn)⟩

theorem Writable.bareNames {t : Diagram.Table} (ht : Writable t) : BareNames t :=
  bareNames_of_needsQuotes ht.name ht.schema

theorem table_toList (s : Source) {t : Diagram.Table} (ht : BareNames t) :
    (Quoting.table ⟨s.dialect, true⟩ t).toList = tableName s t := by
  have hname := quoteIdentifier_toList s ht.name
  unfold Quoting.table Quoting.qualified tableName
  cases hs : t.schema with
  | none => exact hname
  | some n =>
    have hn := ht.schema n hs
    have hne : n.isEmpty = false := by
      rw [← Bool.not_eq_true, String.isEmpty_iff]
      rintro rfl
      exact hn.1 rfl
    simp only [hne, Bool.false_eq_true, ↓reduceIte]
    show (quoteIdentifier s.dialect n ++ "." ++ quoteIdentifier s.dialect t.name).toList = _
    rw [String.toList_append, String.toList_append, hname, quoteIdentifier_toList s hn,
      List.append_assoc]
    rfl

theorem tableName_head (s : Source) (t : Diagram.Table) (rest : List Char) :
    (tableName s t ++ rest).head? = some (identifierQuotes s.dialect).1 := by
  unfold tableName
  cases t.schema <;> rfl

/-- The words that may stand before the name of a table. -/
def tableHints : List String := ["IF NOT EXISTS ", "IF EXISTS ", "ONLY "]

/-- A name in quotes is not taken for such a word. -/
theorem tableName_differ (s : Source) (t : Diagram.Table) (rest : List Char) :
    ∀ hint ∈ tableHints, Pattern.differ hint.toList (tableName s t ++ rest) = true := by
  obtain ⟨cs, hcs⟩ := List.head?_eq_some_iff.mp (tableName_head s t rest)
  rw [hcs]
  intro hint hhint
  simp only [tableHints, List.mem_cons, List.not_mem_nil, or_false] at hhint
  rcases hhint with rfl | rfl | rfl <;> cases s <;> rfl

theorem parse_tableName (s : Source) {t : Diagram.Table} (ht : BareNames t) :
    Schema.TableRef.parse (tableName s t) = ⟨t.name, t.schema⟩ := by
  have hname := ht.name
  rw [Schema.TableRef.parse, tableName]
  cases hs : t.schema with
  | none =>
    have hsplit : splitQualified (quoted s t.name.toList) = [t.name.toList] :=
      splitQualified_name (quotePair s) hname
    simp [hsplit]
  | some n =>
    have hsplit : splitQualified (quoted s n.toList ++ '.' :: quoted s t.name.toList)
        = [n.toList, t.name.toList] := by
      have hdotted := splitQualified_dotted (quotePair s) (ht.schema n hs) hname
      simpa [quoted] using hdotted
    simp [hsplit]

open Pattern in
theorem tableName_takes (s : Source) {t : Diagram.Table} (ht : BareNames t) {next : Char}
    (hnext : isBlank next = false) (hdot : next ≠ '.') (rest : List Char) :
    Takes qualifiedName (tableName s t) (' ' :: next :: rest) [] := by
  have hq := quotePair s
  have hname := ht.name
  have hident : Takes identifier (quoted s t.name.toList) (' ' :: next :: rest) [] :=
    Takes.identifier hq hname.1 (hname.close_not_mem hq) (by simp)
  -- Behind the name stands a space, and no dot behind it.
  have hdot : Fails (gap ++ lit ".") (' ' :: next :: rest) :=
    Fails.space_seq (Fails.char "." '.' rfl (by simp))
      (Fails.char "." '.' rfl (by simpa using hdot)) (by simpa using hnext)
  unfold tableName
  cases hs : t.schema with
  | none => exact Takes.name hident hdot
  | some n =>
    have hn := ht.schema n hs
    refine Takes.dottedName ?_ hident (fun c hc => Option.some.inj hc ▸ (isBlank_quote hq).1) hdot
    exact Takes.identifier hq hn.1 (hn.close_not_mem hq) (by simp)

/-- The words before the name of a table. -/
def createWord : List Char := ['C', 'R', 'E', 'A', 'T', 'E']

def tableWord : List Char := ['T', 'A', 'B', 'L', 'E']

open Pattern in
/-- The head of a table is found with its name, and its lines stand behind it. -/
theorem tableHead_find? {name rest : List Char}
    (hname : Takes qualifiedName name (' ' :: '(' :: rest) [])
    (hblank : ∀ c ∈ (name ++ ' ' :: '(' :: rest).head?, isBlank c = false)
    (hif : differ "IF NOT EXISTS ".toList (name ++ ' ' :: '(' :: rest) = true) :
    ∃ f, Reading.tableHead.find?
        (createWord ++ [' '] ++ (tableWord ++ [' '] ++ (name ++ ' ' :: '(' :: rest))) = some f ∧
      f.group "name" = name ∧ f.after = rest := by
  generalize hbehind : name ++ ' ' :: '(' :: rest = behind at hblank hif
  have hstart : TakesFirst (textStart ++ gap) []
      (createWord ++ [' '] ++ (tableWord ++ [' '] ++ behind)) [] :=
    TakesFirst.start fun c hc => Option.some.inj hc ▸ rfl
  have hcreate : Takes (phrase "CREATE ") (createWord ++ [' '])
      (tableWord ++ [' '] ++ behind) [] :=
    Takes.phrase (by decide) (by decide) fun _ c hc => Option.some.inj hc ▸ rfl
  have hreplace : Takes (opt (phrase "OR REPLACE ")) [] (tableWord ++ [' '] ++ behind) [] :=
    Takes.skip (Fails.phrase rfl)
  have hglobal : Takes (opt (oneOf ["GLOBAL", "LOCAL"] ++ blanks)) []
      (tableWord ++ [' '] ++ behind) [] :=
    Takes.skip (Fails.alt (Fails.phrase rfl) (Fails.phrase rfl)).seq
  have htemporary : Takes (opt (oneOf ["TEMP", "TEMPORARY", "UNLOGGED"] ++ blanks)) []
      (tableWord ++ [' '] ++ behind) [] :=
    Takes.skip (Fails.alt (Fails.phrase rfl) (Fails.alt (Fails.phrase rfl) (Fails.phrase rfl))).seq
  have htable : Takes (phrase "TABLE ") (tableWord ++ [' ']) behind [] :=
    Takes.phrase (by decide) (by decide) fun _ => hblank
  have hexists : Takes (opt (phrase "IF NOT EXISTS ")) [] behind [] :=
    Takes.skip (Fails.phrase hif)
  have hgroup := Takes.group "name" hname
  have hgap : Takes gap [' '] ('(' :: rest) [] :=
    Takes.run (List.all_eq_true.mp (by decide)) (by simp [isBlank])
  have hparen : Takes (lit "(") ['('] rest [] := Takes.char "(" '(' rfl
  subst hbehind
  have hhead := ((((hstart.seq hcreate).seq (v := []) hreplace).seq (v := []) hglobal).seq (v := [])
    htemporary).seq htable
  have hfind := ((((hhead.seq (v := []) hexists).seq hgroup).seq hgap).seq hparen).find?
  simp only [List.nil_append, List.append_nil, List.append_assoc, List.cons_append] at hfind ⊢
  exact ⟨_, hfind, rfl, rfl⟩

/-! ## Reading a table -/

/-- What stands between the parentheses of a table with these lines. -/
def bodyText (lines : List (List Char)) : List Char :=
  ['\n', ' ', ' '] ++ [',', '\n', ' ', ' '].intercalate lines ++ ['\n']

theorem createTable_toList (s : Source) (d : Diagram) {t : Diagram.Table} (ht : Writable t)
    (lines : List String) :
    ((Style.ofDialect s.dialect d).createTable t lines).toList
      = createWord ++ [' '] ++ (tableWord ++ [' ']
        ++ (tableName s t ++ ' ' :: '(' :: (bodyText (lines.map String.toList) ++ [')']))) := by
  have hcreate : "CREATE TABLE ".toList = createWord ++ [' '] ++ (tableWord ++ [' ']) := by
    decide
  have hopen : " (\n  ".toList = [' ', '(', '\n', ' ', ' '] := by decide
  have hcomma : ",\n  ".toList = [',', '\n', ' ', ' '] := by decide
  have hclose : "\n)".toList = ['\n', ')'] := by decide
  have hname : ((Style.ofDialect s.dialect d).quoting.table t).toList = tableName s t :=
    table_toList s ht.bareNames
  unfold Style.createTable
  simp only [String.toList_append, String.toList_intercalate, hcreate, hopen, hcomma, hclose, hname,
    bodyText, List.append_assoc, List.cons_append, List.nil_append]

theorem bodyText_closed {lines : List (List Char)} (h : ∀ l ∈ lines, Closed (· == ',') l) :
    Closed (fun _ => false) (bodyText lines) := by
  have hlines : Closed (fun _ => false) ([',', '\n', ' ', ' '].intercalate lines) :=
    Closed.intercalate (Closed.of_all (by decide)) fun l hl => (h l hl).inside
  exact ((Closed.of_all (by decide)).append hlines).append (Closed.of_all (by decide))

/-- A table is read back: its name and schema, its columns with their marks, and its key. -/
theorem table_written (s : Source) (d : Diagram) {t : Diagram.Table} (ht : Writable t)
    (allowInline : Bool) :
    ∃ (cs : List Schema.Column) (comment : Option String),
      Reading.tableDeclaration s ((Style.ofDialect s.dialect d).createTable t
        ((Style.ofDialect s.dialect d).tableLines t allowInline)).toList
        = .ok (.table { name := t.name, schema := t.schema, columns := cs, comment := comment }
          (KeyLayout.ofTable t allowInline).facts []) ∧
      cs.map (·.name) = t.fields.map (·.name) ∧
      cs.map (·.primaryKey) = t.fields.map (KeyLayout.ofTable t allowInline).isInline ∧
      cs.map (·.unique) = t.fields.map
        (fun f => Style.marksUnique f ((KeyLayout.ofTable t allowInline).isInline f)) := by
  obtain ⟨cs, hcs, hspec⟩ := foldl_tableLines s ht allowInline d
  have hclosed := tableLines_closed s ht allowInline d
  have hbody := bodyText_closed fun l hl => (hclosed l hl).1
  have hne : ((Style.ofDialect s.dialect d).tableLines t allowInline).map String.toList ≠ [] := by
    simp [tableLines_toList s ht, ht.nonempty]
  have hlines : splitTopLevel ',' (bodyText _) = _ :=
    splitTopLevel_join (by decide) (by decide) (List.all_eq_true.mp (by decide))
      (List.all_eq_true.mp (by decide)) hne hclosed _ (List.all_eq_true.mp (by decide))
  -- The statement starts with its key words and the name of the table.
  have hq := quotePair s
  obtain ⟨f, hfind, hfname, hfafter⟩ := tableHead_find?
    (tableName_takes s ht.bareNames (by decide) (by decide) _)
    (fun c hc => Option.some.inj ((tableName_head s t _).symm.trans hc) ▸ (isBlank_quote hq).1)
    (tableName_differ s t _ _ (by decide))
  have hcolumns : cs.isEmpty = false := by
    rw [← Bool.not_eq_true, List.isEmpty_iff]
    rintro rfl
    exact ht.nonempty (List.map_eq_nil_iff.mp hspec.1.symm)
  refine ⟨cs, Reading.tableComment? [], ?_, hspec⟩
  rw [createTable_toList s d ht, Reading.tableDeclaration, hfind]
  simp only [hfname, hfafter, parse_tableName s ht.bareNames, splitGroup?_closed hbody, hlines, hcs,
    hcolumns]
  rfl

/-! ## The table that comes back -/

/-- Columns that agree with fields on their names and on a mark agree on the names marked. -/
theorem filter_names {p : Field → Bool} {cs : List Schema.Column} {fields : List Field}
    (hnames : cs.map (·.name) = fields.map (·.name))
    (hkeys : cs.map (·.primaryKey) = fields.map p) :
    (cs.filter (·.primaryKey)).map (·.name) = (fields.filter p).map (·.name) := by
  induction cs generalizing fields with
  | nil =>
    cases fields with
    | nil => rfl
    | cons f fields => cases hnames
  | cons c cs ih =>
    cases fields with
    | nil => cases hnames
    | cons f fields =>
      obtain ⟨hname, hnames⟩ : c.name = f.name ∧ _ := List.cons.inj hnames
      obtain ⟨hkey, hkeys⟩ : c.primaryKey = p f ∧ _ := List.cons.inj hkeys
      rw [List.filter_cons, List.filter_cons, hkey]
      split
      · rw [List.map_cons, List.map_cons, hname, ih hnames hkeys]
      · exact ih hnames hkeys

theorem filter_id {f : Field} {fields : List Field} (hnodup : (fields.map (·.id)).Nodup)
    (hmem : f ∈ fields) : fields.filter (fun g => f.id == g.id) = [f] := by
  induction fields with
  | nil => cases hmem
  | cons g fields ih =>
    obtain ⟨hfresh, hnodup⟩ := List.nodup_cons.mp hnodup
    rcases List.mem_cons.mp hmem with rfl | hmem
    · have hrest : fields.filter (fun g => f.id == g.id) = [] := by
        rw [List.filter_eq_nil_iff]
        intro g hg heq
        exact hfresh (List.mem_map.mpr ⟨g, hg, (beq_iff_eq.mp heq).symm⟩)
      simp [hrest]
    · have hne : (f.id == g.id) = false := by
        rw [beq_eq_false_iff_ne]
        intro heq
        exact hfresh (List.mem_map.mpr ⟨f, hmem, heq⟩)
      rw [List.filter_cons, hne]
      exact ih hnodup hmem

/-- The primary key that is read from a layout: the columns its line names, or those marked. -/
def KeyLayout.keyIn (columns : List Schema.Column) : KeyLayout → List String
  | .ownLine _ fs => fs.map (·.name)
  | _ => (columns.filter (·.primaryKey)).map (·.name)

/-- What a table with the key of a layout becomes in an empty schema: the table, with its key. -/
theorem declare_layout (dialect : Dialect) {t : Schema.Table} (hindexes : t.indexes = [])
    {l : KeyLayout} (hown : ∀ name fs, l = .ownLine name fs →
      fs ≠ [] ∧ (∀ c ∈ t.columns, c.primaryKey = false) ∧
        ∀ n ∈ fs.map (·.name), ∃ c ∈ t.columns, c.name = n) :
    ∃ u, ({ dialect := dialect } : Schema.Builder).declare (.table t l.facts [])
        = { dialect := dialect, tables := [u] } ∧
      u.name = t.name ∧ u.schema = t.schema ∧
      u.columns.map (·.name) = t.columns.map (·.name) ∧
      u.columns.map (·.unique) = t.columns.map (·.unique) ∧
      u.primaryKeyColumns = l.keyIn t.columns := by
  cases l with
  | none | inline f =>
    refine ⟨t.first, rfl, rfl, rfl, rfl, rfl, ?_⟩
    simp [Schema.Table.primaryKeyColumns, Schema.Table.first, KeyLayout.keyIn, hindexes]
  | ownLine name fs =>
    obtain ⟨hne, hcolumns, hnames⟩ := hown name fs rfl
    have hknown : ∀ n ∈ fs.map (·.name), t.HasColumn n := by
      intro n hn
      obtain ⟨c, hc, rfl⟩ := hnames n hn
      exact ⟨c, hc, sameName_refl c.name⟩
    have hhead := Schema.markKey_head (fs.map (·.name)) t.first
    have hname := Schema.Table.eq_of_head (·.name) (fun _ => rfl) hhead
    have hschema := Schema.Table.eq_of_head (·.schema) (fun _ => rfl) hhead
    refine ⟨_, Schema.declare_first_key dialect t name hknown, hname, hschema, ?_, ?_, ?_⟩
    · exact Schema.markKey_names (fs.map (·.name)) t.first
    · exact Schema.withPrimaryKey_unique name (fs.map (·.name)) t.first
    · have hkey : fs.map (·.name) ≠ [] := by simpa using hne
      exact Schema.primaryKeyColumns_withPrimaryKey name hindexes hcolumns hkey hnames

/-- Only the mark of a unique column is written as such. -/
theorem contains_unique (s : Source) (d : Diagram) {f : Field} (h : WritableField f)
    (inlineKey : Bool) :
    ((Style.ofDialect s.dialect d).columnParts f inlineKey).contains "UNIQUE"
      = Style.marksUnique f inlineKey := by
  have hname : quoteIdentifier s.dialect f.name ≠ "UNIQUE" := by
    intro heq
    have htext := quoteIdentifier_toList s (bare_of_needsQuotes h.name)
    rw [heq] at htext
    have hquote : "UNIQUE".toList.head? = some (identifierQuotes s.dialect).1 :=
      congrArg List.head? htext
    cases s <;> exact absurd hquote (by decide)
  have htype : (Style.ofDialect s.dialect d).columnType f ≠ "UNIQUE" := by
    intro heq
    obtain ⟨type, array, htext, -, htype⟩ := columnType_text s d h.type h.length
    exact htext.ne_unique array (by rw [← htype, heq])
  have hincrement : ∀ increment ∈ increments, "UNIQUE" ∉ increment.toList := by decide
  have hmem := hincrement _ (increment?_mem (Style.ofDialect s.dialect d) f inlineKey)
  rw [columnParts_eq s d h.default h.onUpdate, Bool.eq_iff_iff, List.contains_iff_mem]
  simp only [List.mem_cons, List.mem_append, hmem, hname.symm, htype.symm, false_or, or_false]
  constructor
  · rintro ((h | h) | h)
    · split at h <;> simp at h
    · split at h <;> simp at h
    · split at h
      · assumption
      · cases h
  · intro h
    rw [if_pos h]
    exact .inr (List.mem_singleton.mpr rfl)

section Columns

variable {t : Diagram.Table} (ht : Writable t) {allowInline : Bool} {cs : List Schema.Column}
  (hnames : cs.map (·.name) = t.fields.map (·.name))
  (hkeys : cs.map (·.primaryKey) = t.fields.map (KeyLayout.ofTable t allowInline).isInline)
include ht hnames hkeys

/-- A key in a line of its own names columns that are read, and none of them is marked. -/
theorem ownLine_names {name : Option String} {fs : List Field}
    (hl : KeyLayout.ofTable t allowInline = .ownLine name fs) :
    fs ≠ [] ∧ (∀ c ∈ cs, c.primaryKey = false) ∧
      ∀ n ∈ fs.map (·.name), ∃ c ∈ cs, c.name = n := by
  refine ⟨(ofTable_ownLine ht hl).1, fun c hc => ?_, fun n hn => ?_⟩
  · have hmark : c.primaryKey ∈ t.fields.map (KeyLayout.ofTable t allowInline).isInline :=
      hkeys ▸ List.mem_map_of_mem (f := (·.primaryKey)) hc
    rw [hl] at hmark
    obtain ⟨f, -, hf⟩ := List.mem_map.mp hmark
    exact hf.symm
  · obtain ⟨f, hf, rfl⟩ := List.mem_map.mp hn
    have hmem : f ∈ (KeyLayout.ofTable t allowInline).fields := by
      rw [hl]
      exact hf
    have hname : f.name ∈ cs.map (·.name) :=
      hnames ▸ List.mem_map_of_mem (mem_of_mem_layout hmem)
    exact List.mem_map.mp hname

/-- The key that is read has the columns of the layout. -/
theorem keyIn_ofTable :
    (KeyLayout.ofTable t allowInline).keyIn cs
      = (KeyLayout.ofTable t allowInline).fields.map (·.name) := by
  have hmarked := filter_names hnames hkeys
  cases hl : KeyLayout.ofTable t allowInline with
  | none =>
    have hnone : t.fields.filter KeyLayout.none.isInline = [] :=
      List.filter_eq_nil_iff.mpr fun f _ => Bool.false_ne_true
    rw [hl, hnone] at hmarked
    exact hmarked
  | inline f =>
    have hmem : f ∈ (KeyLayout.ofTable t allowInline).fields := by
      rw [hl]
      exact List.mem_singleton.mpr rfl
    have hone : t.fields.filter (KeyLayout.inline f).isInline = [f] :=
      filter_id ht.ids (mem_of_mem_layout hmem)
    rw [hl, hone] at hmarked
    exact hmarked
  | ownLine name fs => rfl

end Columns

/-- A table of plain lines is read back from the statement that creates it: one table with the
same name, schema and columns, the primary key of its layout, and the columns unique that are
written so. -/
theorem created_tables_come_back (s : Source) (d : Diagram) (t : Diagram.Table) (ht : Writable t)
    (allowInline : Bool) :
    let style := Style.ofDialect s.dialect d
    let layout := KeyLayout.ofTable t allowInline
    ∃ u, Reading.table s (style.createTable t (style.tableLines t allowInline)).toList
          { dialect := s.dialect }
        = .ok () { dialect := s.dialect, tables := [u] } ∧
      u.name = t.name ∧ u.schema = t.schema ∧
      u.columns.map (·.name) = t.fields.map (·.name) ∧
      u.primaryKeyColumns = layout.fields.map (·.name) ∧
      u.columns.map (·.unique)
        = t.fields.map (fun f => (style.columnParts f (layout.isInline f)).contains "UNIQUE") := by
  intro style layout
  obtain ⟨cs, comment, hread, hnames, hkeys, huniques⟩ := table_written s d ht allowInline
  let table : Schema.Table :=
    { name := t.name, schema := t.schema, columns := cs, comment := comment }
  obtain ⟨u, hu, huname, huschema, hucolumns, huunique, hukey⟩ :=
    declare_layout s.dialect (t := table) rfl fun _ _ hl => ownLine_names ht hnames hkeys hl
  refine ⟨u, ?_, huname, huschema, hucolumns.trans hnames,
    hukey.trans (keyIn_ofTable ht hnames hkeys), ?_⟩
  · rw [Reading.table_eq, Schema.Writing.declaring_ok hread, hu]
  refine (huunique.trans huniques).trans (List.map_congr_left fun f hf => ?_)
  exact (contains_unique s d (ht.fields f hf) _).symm

/-- A table with a named key over two columns, one of them named like a word of the language. -/
def ordersTable : Diagram.Table :=
  { id := "t"
    name := "orders"
    schema := some "shop"
    fields :=
      [{ id := "1", name := "region", type := .varchar, length := some "max", nullable := false },
        { id := "2", name := "fulltext", type := .named "integer", increment := some true },
        { id := "3", name := "code", type := .named "timestamp with time zone", unique := true }]
    indexes := [{ id := "i", name := "orders_pk", fieldIds := ["2", "1"], primaryKey := some true }]
    color := "" }

theorem the_key_of_orders_comes_back :
    ∃ u, Reading.table .sqlServer ((Style.ofDialect .sqlServer default).createTable ordersTable
          ((Style.ofDialect .sqlServer default).tableLines ordersTable true)).toList
          { dialect := .sqlServer }
        = .ok () { dialect := .sqlServer, tables := [u] } ∧
      u.name = "orders" ∧ u.schema = some "shop" ∧
      u.columns.map (·.name) = ["region", "fulltext", "code"] ∧
      u.primaryKeyColumns = ["fulltext", "region"] ∧
      u.columns.map (·.unique) = [false, false, true] := by
  obtain ⟨u, hread, hname, hschema, hnames, hkey, hunique⟩ :=
    created_tables_come_back .sqlServer default ordersTable (by decide) true
  refine ⟨u, hread, hname, hschema, hnames, hkey.trans ?_, hunique.trans ?_⟩
  · decide
  · decide

end SchemaChart.Export
