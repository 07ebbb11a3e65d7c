-- The lines of columns, read back: a column comes back with its name, its type and its marks, but
-- for two words of its line. `with` ends the type, and so a time zone is no part of it; and the
-- `DEFAULT` of a column that counts up is taken for the start of a default.
import SchemaChart.Proofs.TableRoundTrip
import SchemaChart.Proofs.TypeTexts

namespace SchemaChart.Export

open Text
open Diagram (Field)
open Reading (optionStep splitType)
open Schema (SizeArgs SizeText arrayMark isSerial parseType)

/-! ## What is read as the type -/

/-- A type without its time zone. -/
def beforeZone (cs : List Char) : List Char :=
  ((cutAt? " with time zone".toList cs).map Prod.fst).getD cs

/-- The names of types are kept, or cut before their time zone to the name of another type. -/
theorem typeNames_zone : ∀ n ∈ typeNames, ∀ array : Bool,
    ((∀ w ∈ words n.toList, staysInType w = true) ∧
      beforeZone (n.toList ++ arrayMark array) = n.toList ++ arrayMark array) ∨
    ((words n.toList).head?.any staysInType = true ∧
      (words n.toList).tail = ["with".toList, "time".toList, "zone".toList] ∧
      (words n.toList).head? = some (beforeZone (n.toList ++ arrayMark array)) ∧
      (typeNames.any fun m => m.toList == beforeZone (n.toList ++ arrayMark array)
        && !isSerial m) = true ∧ isSerial n = false) := by
  decide +kernel

/-- What is read of the text of a type: the words of the type, and those left to the options. -/
structure ReadType (text : List Char) (type tail : List (List Char)) : Prop where
  words : TypeWords text (type ++ tail) tail
  type_eq : unwords type = beforeZone text

theorem arrayMark_cases (array : Bool) : arrayMark array = [] ∨ arrayMark array = ['[', ']'] := by
  cases array
  · exact .inl rfl
  · exact .inr rfl

theorem readType_name {n : String} (hn : n ∈ typeNames) (array : Bool) :
    ∃ type tail, ReadType (n.toList ++ arrayMark array) type tail ∧
      isSerial (parseType (beforeZone (n.toList ++ arrayMark array))).base = isSerial n := by
  obtain ⟨htext, hne, -⟩ := typeNames_words n hn
  obtain ⟨hclosed, hopening⟩ := arrayMark_closed (arrayMark_cases array)
  rcases typeNames_zone n hn array with ⟨hstay, hwhole⟩ | ⟨hfirst, hzone, hhead, hname, hserial⟩
  · refine ⟨onLast (arrayMark array) (words n.toList), [], ⟨?_, ?_⟩, ?_⟩
    · rw [List.append_nil]
      exact typeWords_whole hn hstay hclosed hopening
    · rw [unwords_onLast _ hne, htext, hwhole]
    · rw [hwhole, Schema.parseType_name hn]
  · have hwords := typeWords_zoned hn hfirst hzone (arrayMark_cases array)
    obtain ⟨w, ws, hws⟩ := List.exists_cons_of_ne_nil hne
    rw [hws] at hwords hzone hhead
    rw [List.tail_cons] at hzone
    rw [hzone] at hwords
    have hw : w = beforeZone (n.toList ++ arrayMark array) := Option.some.inj hhead
    refine ⟨[w], _, ⟨hwords, ?_⟩, ?_⟩
    · rw [unwords_singleton, hw]
    · simp only [List.any_eq_true, Bool.and_eq_true, Bool.not_eq_true', beq_iff_eq] at hname
      obtain ⟨m, hm, hmtext, hmserial⟩ := hname
      have hparts := Schema.parseType_name hm false
      rw [arrayMark, if_neg (by decide), List.append_nil] at hparts
      rw [← hmtext, hparts, hserial]
      exact hmserial

/-- A type is whole without its time zone just if it has none. -/
theorem beforeZone_eq_self_iff {cs : List Char} :
    beforeZone cs = cs ↔ holds cs " with time zone" = false := by
  rw [beforeZone, holds]
  cases hcut : cutAt? " with time zone".toList cs with
  | none => simp
  | some p =>
    obtain ⟨hcs, hpart⟩ := cutAt?_eq_some hcut
    have hne : p.2 ≠ [] := by
      intro hnil
      rw [hnil, List.prefix_nil] at hpart
      exact absurd hpart (by decide)
    have hshort : p.1 ≠ cs := fun heq => hne (List.self_eq_append_right.mp (heq.trans hcs))
    simpa using hshort

theorem beforeZone_of_notMem {cs : List Char} (h : ' ' ∉ cs) : beforeZone cs = cs := by
  rw [beforeZone_eq_self_iff, ← Bool.not_eq_true, holds_iff]
  exact fun hin => h (hin.subset (by decide))

theorem sized_notMem_blank {n : String} (hn : n ∈ sizedNames) {kind : SizeKind} {args : SizeArgs}
    {size : List Char} (h : SizeText kind args size) (array : Bool) :
    ' ' ∉ n.toList ++ '(' :: size ++ [')'] ++ arrayMark array := by
  obtain ⟨-, hletters, -⟩ := Schema.sizedNames_letters n hn
  have hname : ' ' ∉ n.toList := fun hmem =>
    absurd (List.all_eq_true.mp hletters ' ' hmem) (by decide)
  have hsize : ' ' ∉ size := fun hmem =>
    absurd (List.all_eq_true.mp h.all_isSizeChar ' ' hmem) (by decide)
  cases array <;> simp [arrayMark, hname, hsize]

theorem readType_sized {n : String} (hn : n ∈ sizedNames) {kind : SizeKind} {args : SizeArgs}
    {size : List Char} (h : SizeText kind args size) (array : Bool) :
    ∃ type tail, ReadType (n.toList ++ '(' :: size ++ [')'] ++ arrayMark array) type tail ∧
      isSerial (parseType (beforeZone
        (n.toList ++ '(' :: size ++ [')'] ++ arrayMark array))).base = false := by
  have hserial : ∀ m ∈ sizedNames, isSerial m = false := by decide
  have hwhole := beforeZone_of_notMem (sized_notMem_blank hn h array)
  have hplain : ∀ c ∈ size, isPlain c = true := by
    intro c hc
    rcases h.chars c hc with hname | rfl
    · exact (isNameChar_plain hname).1
    · decide
  have hgroup : Closed isBreak ('(' :: size ++ ')' :: arrayMark array) :=
    .group (Closed.of_plain fun c hc => ⟨hplain c hc, rfl⟩)
      (arrayMark_closed (arrayMark_cases array)).1
  have htext : n.toList ++ '(' :: size ++ [')'] ++ arrayMark array
      = n.toList ++ ('(' :: size ++ ')' :: arrayMark array) := by simp
  have hwords := typeWords_whole (sizedNames_subset n hn) (sizedNames_stay n hn) hgroup
    (.inr ⟨'(', by simp, rfl⟩)
  rw [← htext] at hwords
  refine ⟨_, [], ⟨by rwa [List.append_nil], ?_⟩, ?_⟩
  · rw [hwhole, hwords.text_eq]
  · rw [hwhole, Schema.parseType_sized hn h.all_isSizeChar]
    exact hserial n hn

/-- No dialect writes a catalog type by the name of a serial type. -/
theorem keepsName_not_serial (s : Source) {n : String} (h : keepsName s n = true) :
    isSerial n = false := by
  have hserials : ∀ m ∈ Schema.serialNames, keepsName s m = false := by
    cases s <;> decide
  rw [← Bool.not_eq_true]
  intro hserial
  rw [hserials n (List.contains_iff_mem.mp hserial)] at h
  cases h

theorem StableText.readType {s : Source} {kept : SizeArgs} {element : List Char}
    (h : StableText s kept element) (array : Bool) :
    ∃ type tail, ReadType (element ++ arrayMark array) type tail ∧
      isSerial (parseType (beforeZone (element ++ arrayMark array))).base = false := by
  cases h with
  | @name n hkeeps =>
    have hn : n ∈ typeNames := by
      simp only [keepsName, Bool.and_eq_true, List.contains_iff_mem] at hkeeps
      exact hkeeps.1
    have hname := readType_name hn array
    rwa [keepsName_not_serial s hkeeps] at hname
  | @sized n args size hkeeps hsize =>
    have hn : n ∈ sizedNames := by
      simp only [keepsSize, Bool.and_eq_true, List.contains_iff_mem] at hkeeps
      exact hkeeps.1
    exact readType_sized hn hsize array

theorem serialType?_mem {f : Field} {text : String} (h : serialType? f = some text) :
    text ∈ ["bigserial", "smallserial", "serial"] := by
  unfold serialType? at h
  split at h
  · cases h
  · split at h <;> cases h <;> decide

/-- What is read of the type of a column, and that it is serial if it was written so. -/
theorem columnType_read (s : Source) (d : Diagram) {f : Field} (h : WritableField f) :
    let style := Style.ofDialect s.dialect d
    ∃ type tail, ReadType (style.columnType f).toList type tail ∧
      isSerial (parseType (beforeZone (style.columnType f).toList)).base
        = (style.serial? f).isSome := by
  intro style
  cases hserial : style.serial? f with
  | some text =>
    have hmem : text ∈ ["bigserial", "smallserial", "serial"] := by
      unfold Style.serial? at hserial
      split at hserial
      · exact serialType?_mem hserial
      · cases hserial
    have hnames : ∀ n ∈ ["bigserial", "smallserial", "serial"],
        n ∈ typeNames ∧ isSerial n = true := by decide
    obtain ⟨hn, hyes⟩ := hnames text hmem
    have hname := readType_name hn false
    rw [arrayMark, if_neg (by decide), List.append_nil, hyes] at hname
    rwa [Style.columnType, hserial]
  | none =>
    obtain ⟨kept, element, array, hstable, -, -, htext⟩ :=
      typeText_stable s true d.types h.type h.length
    have hcolumn : style.columnType f = typeText ⟨s.dialect, true⟩ d.types f := by
      rw [Style.columnType, hserial]
      rfl
    rw [hcolumn, htext]
    exact hstable.readType array

/-! ## What is read of the marks -/

/-- What makes a column of PostgreSQL count up whose type does not. -/
def identityMark : String := "GENERATED BY DEFAULT AS IDENTITY"

/-- The marks of a column take from it that it may be null, and give it a default if `DEFAULT` is
among their words. -/
theorem foldl_marks {increment : Option String} (hi : increment ∈ increments)
    (notNull key unique : Bool) (c : Schema.Column) :
    (marks notNull key unique increment).flatten.foldl optionStep (c, .plain)
      = ({ c with
            nullable := c.nullable && !notNull
            default := if increment = some identityMark then some "AS" else c.default },
          .plain) := by
  have hnull : ∀ b : Bool, (if b then [["NOT".toList, "NULL".toList]] else []).flatten.foldl
      optionStep (c, .plain) = ({ c with nullable := c.nullable && !b }, .plain) := by
    intro b
    cases b with
    | false => simp
    | true =>
      rw [Bool.not_true, Bool.and_false]
      rfl
  have hkey : ∀ (b : Bool) (c : Schema.Column),
      (if b then [["PRIMARY".toList, "KEY".toList]] else []).flatten.foldl optionStep (c, .plain)
        = (c, .plain) := by
    intro b c
    cases b <;> rfl
  have hunique : ∀ (b : Bool) (c : Schema.Column),
      (if b then [["UNIQUE".toList]] else []).flatten.foldl optionStep (c, .plain)
        = (c, .plain) := by
    intro b c
    cases b <;> rfl
  have hincrement : ∀ c : Schema.Column,
      (increment.map (words ·.toList)).toList.flatten.foldl optionStep (c, .plain)
        = ({ c with default := if increment = some identityMark then some "AS" else c.default },
            .plain) := by
    intro c
    simp only [increments, List.mem_cons, List.not_mem_nil, or_false] at hi
    rcases hi with rfl | rfl | rfl | rfl | rfl <;> rfl
  simp only [marks, List.flatten_append, List.foldl_append, hnull, hkey, hunique, hincrement]

theorem splitType_append (ws : List (List Char)) :
    (splitType ws).1 ++ (splitType ws).2 = ws := by
  induction ws with
  | nil => rfl
  | cons w ws ih =>
    rw [splitType]
    split
    · rfl
    · rw [List.cons_append, ih]

/-- The words of a written column fall apart into the type that is read, and the options. -/
theorem splitType_written {text : List Char} {type tail flags : List (List Char)}
    (h : ReadType text type tail) (hflags : splitType flags = ([], flags)) :
    splitType (type ++ tail ++ flags) = (type, tail ++ flags) := by
  have hoptions := h.words.options flags hflags
  have hwhole := splitType_append (type ++ tail ++ flags)
  rw [hoptions, ← List.append_assoc, List.append_left_inj, List.append_left_inj] at hwhole
  exact Prod.ext hwhole hoptions

/-- The type, the default and whether a column may be null, as far as its options tell. -/
theorem column?_options (s : Source) {cs : List Char} {found : Pattern.Found} {c : Schema.Column}
    {facts : List Schema.Fact} (hfind : Reading.columnHead.find? cs = some found)
    (hc : Reading.column? s cs = some (c, facts)) :
    let parts := splitType (splitWords (found.group "rest"))
    let read := (parts.2.foldl optionStep
      ({ name := String.ofList (s.unquote (found.group "name")),
          type := String.ofList (unwords parts.1) }, .plain)).1
    c.type = read.type ∧
      c.default = read.default.filter (fun d => !eqIgnoringCase (trim d.toList) "NULL".toList) ∧
      c.nullable =
        (read.nullable && !c.primaryKey && !isSerial (parseType c.type.toList).base) := by
  rw [Reading.column?, hfind] at hc
  cases hc
  have htwice : ∀ a k x : Bool, ((a && !k) && !x && !k) = (a && !k && !x) := by decide
  exact ⟨rfl, rfl, htwice _ _ _⟩

/-- Only PostgreSQL counts up by an identity, where the type of the column is not serial. -/
theorem increment?_eq_identity_iff (s : Source) (d : Diagram) {f : Field} (h : f.default = none)
    (inlineKey : Bool) :
    (Style.ofDialect s.dialect d).increment? f inlineKey = some identityMark ↔
      s = .postgresql ∧ f.increments = true ∧ serialType? f = none := by
  unfold Style.increment?
  cases hcounts : f.increments with
  | false => simp
  | true =>
    cases s with
    | postgresql =>
      simp [Style.ofDialect, Style.dialect, Style.isPostgresql, Style.usesSequence, h, identityMark,
        Source.dialect]
    | mysql | mariadb | sqlServer =>
      simp [Style.ofDialect, Style.dialect, identityMark, Source.dialect]
    | sqlite =>
      have hne : ∀ b : Bool, (if b then some "AUTOINCREMENT" else none) ≠ some identityMark := by
        decide
      exact iff_of_false (hne _) (by simp)

/-! ## Lines -/

/-- A column comes back from its line with its name, its key and its marks. Its type comes back
whole just if it has no time zone, and it comes back without a default just if it does not count up
by an identity. -/
theorem lines_come_back_but_for_zones_and_identities (s : Source) (d : Diagram) {f : Field}
    (h : WritableField f) (inlineKey : Bool) :
    let style := Style.ofDialect s.dialect d
    ∃ c : Schema.Column,
      Reading.column? s (style.column f inlineKey).toList = some (c, []) ∧
      c.name = f.name ∧
      c.type.toList = beforeZone (style.columnType f).toList ∧
      (c.type = style.columnType f ↔
        holds (style.columnType f).toList " with time zone" = false) ∧
      c.nullable
        = (f.nullable && !f.primaryKey && !inlineKey && (style.serial? f).isNone) ∧
      c.primaryKey = inlineKey ∧
      c.unique = (f.unique && !f.primaryKey && !inlineKey) ∧
      c.default
        = if s = .postgresql ∧ f.increments = true ∧ serialType? f = none then some "AS"
          else none := by
  intro style
  have hbare : Bare f.name.toList := bare_of_needsQuotes h.name
  have hmem := increment?_mem (Style.ofDialect s.dialect d) f inlineKey
  obtain ⟨type, tail, hread, hserial⟩ := columnType_read s d h
  obtain ⟨c, hc, hname, hkey, hunique⟩ := column?_written hbare inlineKey hread.words
  obtain ⟨found, hfind, -, hfwords⟩ := columnHead_written hbare inlineKey hread.words
  have hparts : splitType (splitWords (found.group "rest"))
      = (type, tail ++ markWords s d f inlineKey) := by
    rw [hfwords]
    exact splitType_written hread (splitType_marks _ hmem _ _ _)
  have hoptions := column?_options s hfind hc
  simp only [hparts, List.foldl_append, Reading.foldl_typeTail tail hread.words.tail_mem, markWords,
    foldl_marks hmem] at hoptions
  obtain ⟨htype, hdefault, hnullable⟩ := hoptions
  have htext : c.type.toList = beforeZone (style.columnType f).toList := by
    rw [htype, String.toList_ofList, hread.type_eq]
  refine ⟨c, ?_, hname, htext, ?_, ?_, hkey, ?_, ?_⟩
  · rw [column_toList hbare h.default h.onUpdate inlineKey hread.words]
    exact hc
  · rw [← beforeZone_eq_self_iff, ← htext, String.toList_inj]
  · rw [hnullable, hkey, htext, hserial]
    simp only [writesNotNull, Bool.true_and]
    cases f.nullable <;> cases f.primaryKey <;> simp [style]
  · rw [hunique, Style.marksUnique]
    cases inlineKey <;> simp
  · simp only [hdefault, increment?_eq_identity_iff s d h.default]
    split
    · rfl
    · rfl

/-- A moment that keeps its time zone. -/
def seenAt : Field :=
  { id := "f0", name := "seen_at", type := .named "timestamp with time zone", nullable := false }

/-- A number that counts up, of a type that has no serial form. -/
def ticketNumber : Field :=
  { id := "f1", name := "ticket", type := .named "decimal", precision := some 8, unique := true,
    increment := some true }

theorem a_zone_is_lost_and_a_default_is_found :
    WritableField seenAt ∧ WritableField ticketNumber ∧
      (∃ c, Reading.column? .postgresql "\"seen_at\" timestamp with time zone NOT NULL".toList
          = some (c, []) ∧
        c.type.toList = "timestamp".toList ∧ c.nullable = false ∧ c.default = none) ∧
      ∃ c, Reading.column? .postgresql
            "\"ticket\" decimal(8) UNIQUE GENERATED BY DEFAULT AS IDENTITY".toList
          = some (c, []) ∧
        c.type = "decimal(8)" ∧ c.unique = true ∧ c.default = some "AS" := by
  have hseen : WritableField seenAt := by decide
  have hticket : WritableField ticketNumber := by decide
  have hseenLine : ((Style.ofDialect .postgresql default).column seenAt false).toList
      = "\"seen_at\" timestamp with time zone NOT NULL".toList := by decide
  have hticketLine : ((Style.ofDialect .postgresql default).column ticketNumber false).toList
      = "\"ticket\" decimal(8) UNIQUE GENERATED BY DEFAULT AS IDENTITY".toList := by
    decide
  obtain ⟨c, hc, -, hctype, -, hcnull, -, -, hcdefault⟩ :=
    lines_come_back_but_for_zones_and_identities .postgresql default hseen false
  obtain ⟨e, he, -, -, hetype, -, -, heunique, hedefault⟩ :=
    lines_come_back_but_for_zones_and_identities .postgresql default hticket false
  refine ⟨hseen, hticket, ⟨c, by rw [← hseenLine]; exact hc, ?_, hcnull, ?_⟩,
    e, by rw [← hticketLine]; exact he, ?_, heunique, ?_⟩
  · rw [hctype]
    decide
  · rw [hcdefault]
    decide
  · rw [hetype.mpr (by decide)]
    decide
  · rw [hedefault]
    decide

end SchemaChart.Export
