-- Columns that a statement changes under a new name. The old name is read over, so that the new
-- definition meets no column: it is added behind the others, and the old column stays as it was.
import SchemaChart.Proofs.CommentStatements
import SchemaChart.Proofs.KeyStatements

namespace SchemaChart.Text

/-! ## Key words before names -/

theorem eq_toLower_of_sameLetter {k c : Char} (hc : isNameChar c = true)
    (h : sameLetter k c = true) : c = k.toLower := by
  have hascii := isNameChar_ascii hc
  simp only [sameLetter, Bool.or_eq_true, Bool.and_eq_true, beq_iff_eq] at h
  rcases h with (h | ⟨-, h⟩) | ⟨-, h⟩
  · rw [← h, toLower_of_isNameChar hc]
  · omega
  · omega

namespace Pattern

/-- Key words fail before a name that is not their first word, and before one that is if the rest of
them fails behind it. -/
theorem fails_phrase_bare {s word more : String} (hs : s.toList = word.toList ++ ' ' :: more.toList)
    (hword : word.toList.all (!sameLetter · ' ') = true) {name text : List Char}
    (hname : ∀ c ∈ name, isNameChar c = true) (htext : ∀ c ∈ text.head?, isBlank c = false)
    (h : name = word.toList.map Char.toLower → Fails (phrase more) text) :
    Fails (phrase s) (name ++ ' ' :: text) := by
  rw [phrase, hs]
  generalize word.toList = ks at hword h
  clear hs
  induction ks generalizing name with
  | nil =>
    cases name with
    | nil => exact Fails.assoc (Fails.seq_one (Fails.gap_seq (h rfl) htext))
    | cons c cs =>
      have hblank := isBlank_of_isNameChar (hname c List.mem_cons_self)
      exact (Fails.one fun x hx => Option.some.inj hx ▸ hblank).seq.seq
  | cons k ks ih =>
    rw [List.all_cons, Bool.and_eq_true, Bool.not_eq_true'] at hword
    have hspace : ¬ (k == ' ') = true := by
      rw [beq_iff_eq]
      rintro rfl
      exact absurd hword.1 (by decide)
    rw [List.cons_append, List.foldr_cons, if_neg hspace]
    cases name with
    | nil => exact (Fails.one fun x hx => Option.some.inj hx ▸ hword.1).seq
    | cons c cs =>
      have hc := hname c List.mem_cons_self
      -- the letters of a name have one spelling, so that they tell the letter of the key word
      by_cases hsame : sameLetter k c = true
      · refine Fails.seq_one (ih (fun x hx => hname x (List.mem_cons_of_mem c hx)) hword.2 ?_)
        rintro rfl
        refine h ?_
        rw [List.map_cons, eq_toLower_of_sameLetter hc hsame]
      · exact (Fails.one fun x hx => Option.some.inj hx ▸ by simpa using hsame).seq

end Pattern

end SchemaChart.Text

namespace SchemaChart.Schema.Builder

variable {b : Builder} {i : Nat} {t : Table}

/-- A definition that meets no column of its name is added behind the others. -/
theorem alter_modifyColumn_new {r : TableRef} (hmeant : (b.resolve r).1 = some i)
    (ht : b.tables[i]? = some t) {c : Column} (hnone : ¬ t.HasColumn c.name) :
    b.alter r (.modifyColumn c) =
      (b.resolve r).2.modifyTable i fun t => { t with columns := t.columns ++ [c] } := by
  have hresolve : b.resolve r = (some i, (b.resolve r).2) := by rw [← hmeant]
  have hmissing : t.column? c.name = none :=
    Option.isNone_iff_eq_none.mp ((t.column?_isNone c.name).mpr hnone)
  have htables : (b.resolve r).2.tables[i]? = some t := by rwa [resolve_tables]
  rw [alter, hresolve]
  simp only [alterAt, modifyColumn, modifyTable]
  congr 1
  apply modify_eq_of_getElem? htables
  rw [hmissing]

end SchemaChart.Schema.Builder

namespace SchemaChart.Reading

open Text
open Export (needsQuotes alterWord tableWord)
open Schema (Builder Column Table TableRef)

/-! ## Columns of the catalog -/

/-- A column with nothing but a name and a type. -/
def typedColumn (name : String) (type : List Char) : Column :=
  Source.settle
    { name := name, type := String.ofList (unwords (splitType (splitWords type)).1) }

/-- What may be left of a type among the options marks nothing. -/
theorem typeTails_unmarked : ∀ tail ∈ Export.typeTails,
    Marks.read (unwords tail) = ⟨false, false, false, none, none⟩ := by
  decide +kernel

theorem column?_typed (s : Source) {name : String} (hname : Bare name.toList) {type : List Char}
    (htype : CatalogText type) :
    column? s (name.toList ++ ' ' :: type) = some (typedColumn name type, []) := by
  obtain ⟨ws, rfl, hne, hclosed, htail⟩ := htype.words
  have hwords : splitWords (unwords ws) = ws :=
    splitWords_unwords fun w hw => ⟨(hclosed w hw).1.words, (hclosed w hw).2⟩
  have hstart : ∀ c ∈ (unwords ws).head?, isBlank c = false := by
    obtain ⟨⟨x, hx, hblank⟩, -⟩ := trimmed_unwords hne hclosed
    intro c hc
    rw [Option.mem_def.mp hx] at hc
    exact Option.some.inj hc ▸ hblank
  obtain ⟨f, hfind, hfname, hfrest⟩ := columnHead_find?_bare hname hstart
  have hmarks := typeTails_unmarked _ htail
  have hkey : holds (upper (unwords (splitType ws).2)) "PRIMARY KEY" = false :=
    congrArg Marks.key hmarks
  have hunique : (Text.words (upper (unwords (splitType ws).2))).contains "UNIQUE".toList = false :=
    congrArg Marks.unique hmarks
  have hincrement : incrementMark.occursIn (unwords (splitType ws).2) = false :=
    congrArg Marks.increment hmarks
  have hupdate : updateValue? (unwords (splitType ws).2) = none := congrArg Marks.onUpdate hmarks
  have hreference : reference? (unwords (splitType ws).2) = none :=
    congrArg Marks.reference hmarks
  rw [column?, hfind, Option.map_some]
  simp only [hfname, hfrest, hwords, foldl_typeTail _ htail, hkey, hunique, hincrement, hupdate,
    hreference, unquote_bare s hname, String.ofList_toList, typedColumn]
  rfl

/-! ## The clause -/

def changeWord : List Char := ['C', 'H', 'A', 'N', 'G', 'E']

def columnWord : List Char := ['C', 'O', 'L', 'U', 'M', 'N']

/-- The words of the clause that changes a column, from behind its first. -/
def changedWords (old new : String) (ws : List (List Char)) : List (List Char) :=
  columnWord :: old.toList :: new.toList :: ws

section

variable {old new : String} (hold : Bare old.toList) (hnew : Bare new.toList)
  {ws : List (List Char)} (hws : ∀ w ∈ ws, Closed isBreak w ∧ w ≠ [])

include hold hnew hws

theorem changedWords_closed : ∀ w ∈ changedWords old new ws, Closed isBreak w ∧ w ≠ [] := by
  simp only [changedWords, List.forall_mem_cons]
  exact ⟨⟨Closed.of_all (by decide), by decide⟩, ⟨hold.whole, hold.1⟩, ⟨hnew.whole, hnew.1⟩, hws⟩

theorem changeWords_closed :
    ∀ w ∈ changeWord :: changedWords old new ws, Closed isBreak w ∧ w ≠ [] :=
  List.forall_mem_cons.mpr
    ⟨⟨Closed.of_all (by decide), by decide⟩, changedWords_closed hold hnew hws⟩

/-- The clause defines the new column anew; the old name is not kept. -/
theorem alteration?_change (s : Source) (hne : ws ≠ []) (htype : CatalogText (unwords ws)) :
    alteration? s (unwords (changeWord :: changedWords old new ws)) =
      some (.modifyColumn (typedColumn new (unwords ws))) := by
  have hsplit : splitWords (unwords (changeWord :: changedWords old new ws)) =
      changeWord :: changedWords old new ws :=
    splitWords_unwords fun w hw => (changeWords_closed hold hnew hws w hw).imp_left Closed.words
  have hmode : dropCheckMode (changeWord :: changedWords old new ws) =
      changeWord :: changedWords old new ws := rfl
  have hchange : String.ofList (upper changeWord) = "CHANGE" := by decide
  have hcolumn : dropKey "COLUMN" (changedWords old new ws) = old.toList :: new.toList :: ws := rfl
  rw [alteration?, hsplit, hmode]
  simp only [hchange, hcolumn, redefinition?, List.drop_one, List.tail_cons, unwords_cons _ hne,
    column?_typed s hnew htype, Option.map_some]

/-- Without its first word the clause changes nothing. -/
theorem alteration?_column (s : Source) :
    alteration? s (unwords (changedWords old new ws)) = none := by
  have hsplit : splitWords (unwords (changedWords old new ws)) = changedWords old new ws :=
    splitWords_unwords fun w hw => (changedWords_closed hold hnew hws w hw).imp_left Closed.words
  have hmode : dropCheckMode (changedWords old new ws) = changedWords old new ws := rfl
  have hcolumn : String.ofList (upper columnWord) = "COLUMN" := by decide
  rw [alteration?, hsplit, hmode, changedWords]
  simp only [hcolumn]
  rfl

end

/-! ## The statement -/

/-- The statement that changes a column under a new name. -/
def changeText (table old new : String) (type : List Char) : List Char :=
  ("ALTER TABLE " ++ table ++ " CHANGE COLUMN " ++ old ++ " " ++ new ++ " ").toList ++ type

theorem changeText_unwords (table old new : String) {ws : List (List Char)} (hne : ws ≠ []) :
    changeText table old new (unwords ws) = alterWord ++ ' ' :: (tableWord ++ ' ' ::
      (table.toList ++ ' ' :: unwords (changeWord :: changedWords old new ws))) := by
  have hwords : unwords (changeWord :: changedWords old new ws) = changeWord ++ ' ' ::
      (columnWord ++ ' ' :: (old.toList ++ ' ' :: (new.toList ++ ' ' :: unwords ws))) := by
    rw [changedWords, unwords_cons _ (by simp), unwords_cons _ (by simp), unwords_cons _ (by simp),
      unwords_cons _ hne]
  have halter : "ALTER TABLE ".toList = alterWord ++ ' ' :: (tableWord ++ [' ']) := by decide
  have hchange : " CHANGE COLUMN ".toList =
      ' ' :: (changeWord ++ ' ' :: (columnWord ++ [' '])) := by decide
  have hspace : " ".toList = [' '] := by decide
  rw [changeText, hwords]
  simp only [String.toList_append, halter, hchange, hspace, List.append_assoc, List.cons_append,
    List.nil_append]

open Pattern in
/-- A word is the name of a table as it is, if no dot follows. -/
theorem takes_tableWord {name text : List Char} (hne : name ≠ [])
    (hword : ∀ c ∈ name, isWordChar c = true) (hblank : ∀ c ∈ text.head?, isBlank c = false)
    (hdot : text.head? ≠ some '.') : Takes qualifiedName name (' ' :: text) [] :=
  (takes_word hne hword text).name
    (Fails.space_seq (Fails.char "." '.' rfl (by simp)) (Fails.char "." '.' rfl hdot) hblank)

open Pattern in
theorem takes_only {rest : List Char} (hrest : ∀ c ∈ rest.head?, isBlank c = false) :
    Takes (opt (phrase "ONLY ")) ['o', 'n', 'l', 'y', ' '] rest [] := by
  have hphrase : phrase "ONLY " = one (sameLetter 'O') ++ (one (sameLetter 'N') ++
      (one (sameLetter 'L') ++ (one (sameLetter 'Y') ++ (blanks ++ empty)))) := rfl
  have hletter : ∀ {k d : Char} {text : List Char}, sameLetter k d = true →
      Takes (one (sameLetter k)) [d] text [] := Takes.one _
  rw [hphrase]
  exact ((hletter (k := 'O') (d := 'o') rfl).seq ((hletter (k := 'N') (d := 'n') rfl).seq
    ((hletter (k := 'L') (d := 'l') rfl).seq ((hletter (k := 'Y') (d := 'y') rfl).seq
      ((Takes.space hrest).seq Takes.empty))))).opt

theorem parse_bare {name : String} (h : Bare name.toList) :
    TableRef.parse name.toList = ⟨name, none⟩ := by
  rw [TableRef.parse, h.splitQualified_eq]
  simp

section

variable {old new : String} (hold : Bare old.toList) (hnew : Bare new.toList)
  {ws : List (List Char)} (hws : ∀ w ∈ ws, Closed isBreak w ∧ w ≠ [])

theorem unwords_change (old new : String) (ws : List (List Char)) :
    unwords (changeWord :: changedWords old new ws) =
      changeWord ++ ' ' :: unwords (changedWords old new ws) :=
  unwords_cons _ (by simp [changedWords])

theorem unwords_changed (old new : String) (ws : List (List Char)) :
    unwords (changedWords old new ws) =
      columnWord ++ ' ' :: unwords (old.toList :: new.toList :: ws) :=
  unwords_cons _ (by simp)

include hold hnew hws

open Pattern in
/-- The statement is read as one new definition in its table. -/
theorem alterTable_change (s : Source) {table : String} (htable : Bare table.toList)
    (honly : table ≠ "only") (hne : ws ≠ []) (htype : CatalogText (unwords ws)) :
    alterTable s (changeText table old new (unwords ws)) =
      .ok (⟨table, none⟩, [.modifyColumn (typedColumn new (unwords ws))]) := by
  have hclause := unwords_change old new ws
  have hblank : ∀ c ∈ (unwords (changeWord :: changedWords old new ws)).head?,
      isBlank c = false := by
    rw [hclause]
    exact fun c hc => Option.some.inj hc ▸ rfl
  have hexists : Fails (phrase "IF EXISTS ")
      (table.toList ++ ' ' :: unwords (changeWord :: changedWords old new ws)) := by
    have hwords : "IF EXISTS ".toList = "IF".toList ++ ' ' :: "EXISTS ".toList := by decide
    -- a table may be called `if`, but the key word behind it is another
    refine fails_phrase_bare hwords (by decide) htable.2 hblank fun _ => ?_
    rw [hclause]
    exact Fails.phrase rfl
  have hhint : Takes (opt (phrase "ONLY ")) []
      (table.toList ++ ' ' :: unwords (changeWord :: changedWords old new ws)) [] := by
    have hword : "ONLY ".toList = "ONLY".toList ++ ' ' :: "".toList := by decide
    refine Takes.skip (fails_phrase_bare hword (by decide) htable.2 hblank fun heq => ?_)
    exact absurd (String.toList_inj.mp heq) honly
  have hname : Takes qualifiedName table.toList
      (' ' :: unwords (changeWord :: changedWords old new ws)) [] := by
    refine takes_tableWord htable.1 (fun c hc => isNameChar_word (htable.2 c hc)) hblank ?_
    rw [hclause]
    exact fun h => absurd (Option.some.inj h) (by decide)
  have hfirst : ∀ c ∈ ([] ++ (table.toList ++
      ' ' :: unwords (changeWord :: changedWords old new ws))).head?, isBlank c = false := by
    obtain ⟨x, xs, hxs⟩ := List.exists_cons_of_ne_nil htable.1
    have hx := isBlank_of_isNameChar (htable.2 x (hxs ▸ List.mem_cons_self))
    rw [hxs]
    exact fun c hc => Option.some.inj hc ▸ hx
  obtain ⟨f, hfind, hftable, hfrest⟩ := Export.alterHead_find? hexists hhint hname hfirst hblank
  have hsplit := splitTopLevel_unwords (by simp) (changeWords_closed hold hnew hws)
  rw [List.nil_append] at hfind
  rw [changeText_unwords _ _ _ hne, alterTable, hfind]
  simp only [hftable, hfrest, parse_bare htable, hsplit, List.filterMap_cons,
    alteration?_change hold hnew hws s hne htype, List.filterMap_nil]

open Pattern in
/-- Where the table is called `only`, its name is taken for a hint and the key word behind it for
the table, and nothing is changed. -/
theorem alterTable_change_only (s : Source) (hne : ws ≠ []) :
    alterTable s (changeText "only" old new (unwords ws)) = .ok (⟨"CHANGE", none⟩, []) := by
  have htext := unwords_changed old new ws
  have hblank : ∀ c ∈ (unwords (changedWords old new ws)).head?, isBlank c = false := by
    rw [htext]
    exact fun c hc => Option.some.inj hc ▸ rfl
  have hexists : Fails (phrase "IF EXISTS ") (['o', 'n', 'l', 'y', ' '] ++
      (changeWord ++ ' ' :: unwords (changedWords old new ws))) := Fails.phrase rfl
  have hname : Takes qualifiedName changeWord (' ' :: unwords (changedWords old new ws)) [] := by
    refine takes_tableWord (by decide) (List.all_eq_true.mp (by decide)) hblank ?_
    rw [htext]
    exact fun h => absurd (Option.some.inj h) (by decide)
  obtain ⟨f, hfind, hftable, hfrest⟩ := Export.alterHead_find? hexists
    (takes_only fun c hc => Option.some.inj hc ▸ rfl) hname
    (fun c hc => Option.some.inj hc ▸ rfl) hblank
  have hstatement : "only".toList ++ ' ' :: unwords (changeWord :: changedWords old new ws) =
      ['o', 'n', 'l', 'y', ' '] ++ (changeWord ++ ' ' :: unwords (changedWords old new ws)) := by
    rw [unwords_change]
    rfl
  have hsplit := splitTopLevel_unwords (by simp [changedWords]) (changedWords_closed hold hnew hws)
  have hparse : TableRef.parse changeWord = ⟨"CHANGE", none⟩ := by decide +kernel
  rw [changeText_unwords _ _ _ hne, hstatement, alterTable, hfind]
  simp only [hftable, hfrest, hparse, hsplit, List.filterMap_cons,
    alteration?_column hold hnew hws, List.filterMap_nil]

end

/-- A column that is changed under a new name is not renamed. Where a table has no column of the new
name, the statement adds the one that it defines behind all others, without the key marks of the old
one, and the old column stays as it is, with its marks and in its place. A table called `only` is
not changed at all. -/
theorem changed_columns_stay_beside_their_new_definition (s : Source) {b : Builder}
    {table : String} {i : Nat} {t : Table} (hmeant : (b.resolve ⟨table, none⟩).1 = some i)
    (ht : b.tables[i]? = some t) {old new : String}
    (hnames : ∀ n ∈ [table, old, new], needsQuotes n = false) (hnone : ¬ t.HasColumn new)
    {type : List Char} (htype : CatalogText type) :
    ∃ c : Column, column? s (new.toList ++ ' ' :: type) = some (c, []) ∧
      c.name = new ∧ c.primaryKey = false ∧ c.unique = false ∧
      alter s (changeText table old new type) b =
        .ok () (if table = "only" then b
          else (b.resolve ⟨table, none⟩).2.modifyTable i fun t =>
            { t with columns := t.columns ++ [c] }) := by
  have hbare : ∀ n ∈ [table, old, new], Bare n.toList := fun n hn =>
    Export.bare_of_needsQuotes (hnames n hn)
  have htable := hbare table (by simp)
  have hold := hbare old (by simp)
  have hnew := hbare new (by simp)
  refine ⟨typedColumn new type, column?_typed s hnew htype, rfl, rfl, rfl, ?_⟩
  obtain ⟨ws, rfl, hne, hws, -⟩ := htype.words
  by_cases honly : table = "only"
  · subst honly
    rw [alter_eq, alterDeclaration, alterTable_change_only hold hnew hws s hne, if_pos rfl]
    rfl
  · have halter : b.declare (.alter ⟨table, none⟩ [.modifyColumn (typedColumn new (unwords ws))]) =
        (b.resolve ⟨table, none⟩).2.modifyTable i fun t =>
          { t with columns := t.columns ++ [typedColumn new (unwords ws)] } :=
      Builder.alter_modifyColumn_new hmeant ht hnone
    rw [alter_eq, alterDeclaration, alterTable_change hold hnew hws s htable honly hne htype,
      if_neg honly, ← halter]
    rfl

/-- A table whose first column is its key. -/
def keyedTable : Table :=
  { name := "t"
    schema := none
    columns :=
      [{ name := "a", type := "int", primaryKey := true, unique := true, nullable := false },
        { name := "c", type := "int" }] }

def keyedSchema : Builder := (Builder.addTable { dialect := .mysql } keyedTable).2

/-- The key column is there twice afterwards: under its old name as the key, and under the new one
without marks and behind the rest. -/
theorem a_changed_key_column_is_there_twice :
    keyedSchema.Reached ∧ ¬ keyedTable.HasColumn "b" ∧
      ∃ b, alter .mysql "ALTER TABLE t CHANGE COLUMN a b int".toList keyedSchema = .ok () b ∧
        b.tables.map (fun t => t.columns.map fun c => (c.name, c.primaryKey, c.unique)) =
          [[("a", true, true), ("c", false, false), ("b", false, false)]] := by
  have hmeant : (keyedSchema.resolve ⟨"t", none⟩).1 = some 0 := by decide +kernel
  have hnone : ¬ keyedTable.HasColumn "b" := by
    rw [← Table.column?_isNone]
    decide +kernel
  have hnames : ∀ n ∈ ["t", "a", "b"], needsQuotes n = false := by decide +kernel
  have htype : CatalogText "int".toList := .name (by decide +kernel)
  have hstatement : changeText "t" "a" "b" "int".toList =
      "ALTER TABLE t CHANGE COLUMN a b int".toList := by decide +kernel
  obtain ⟨c, -, hname, hkey, hunique, hread⟩ :=
    changed_columns_stay_beside_their_new_definition .mysql hmeant rfl hnames hnone htype
  rw [hstatement, if_neg (by decide)] at hread
  refine ⟨.addTable _ (.start _), hnone, _, hread, ?_⟩
  have hnew : (c.name, c.primaryKey, c.unique) = ("b", false, false) := by
    rw [hname, hkey, hunique]
  exact congrArg (fun x => [[("a", true, true), ("c", false, false), x]]) hnew

end SchemaChart.Reading
