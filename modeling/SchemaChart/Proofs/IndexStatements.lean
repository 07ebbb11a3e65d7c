-- Indexes as scripts create them: the statement of an index is read back as the index over the same
-- columns, without the lengths that some dialects write behind them, and with the name that it was
-- given.
import SchemaChart.Proofs.KeyStatements
import SchemaChart.Proofs.TypeTexts
import SchemaChart.Reading.Index

namespace SchemaChart.Export

open Text
open Diagram (Field)

/-! ## The columns of an index -/

/-- The length of the part of a column that is indexed, if it is not the whole. -/
def lengthText : Option Nat → List Char
  | none => []
  | some n => '(' :: Nat.toDigits 10 n ++ [')']

/-- A column of an index: its name in quotes, with a length behind it if it has one. -/
def indexPart (s : Source) (name : List Char) (length : Option Nat) : List Char :=
  quoted s name ++ lengthText length

theorem isDecimal_of_isDigit {c : Char} (h : c.isDigit = true) : isDecimal c = true :=
  forall_ascii (P := fun c => c.isDigit = true → isDecimal c = true) (by decide)
    (isNameChar_ascii (by simp [isNameChar, h])) h

open Pattern in
/-- A length in parentheses is taken to the end. -/
theorem takes_length (n : Nat) :
    Takes (gap ++ lit "(" ++ (gap ++ some1 isDecimal ++ gap ++ lit ")" ++ textEnd))
      (lengthText (some n)) [] [] := by
  have hbare := Schema.bare_toDigits n
  have hall := List.all_eq_true.mp (Schema.isDigit_toDigits n)
  rw [lengthText]
  obtain ⟨d, ds, hds⟩ := List.exists_cons_of_ne_nil hbare.1
  rw [hds] at hbare hall ⊢
  have hstart : ∀ c ∈ (d :: ds ++ [')']).head?, isBlank c = false := fun c hc =>
    Option.some.inj hc ▸ isBlank_of_isNameChar (hbare.2 d List.mem_cons_self)
  have hnumber : Takes (some1 isDecimal) (d :: ds) [')'] [] :=
    Takes.some1 isDecimal (isDecimal_of_isDigit (hall d List.mem_cons_self))
      (fun c hc => isDecimal_of_isDigit (hall c (List.mem_cons_of_mem d hc)))
      fun c hc => Option.some.inj hc ▸ by decide
  have hopen : Takes (gap ++ lit "(") ['('] (d :: ds ++ [')'] ++ []) [] :=
    (Takes.noGap (by simp [isBlank])).seq (Takes.char "(" '(' rfl)
  have hclose : Takes (gap ++ lit ")" ++ textEnd) [')'] [] [] :=
    ((Takes.noGap (by simp [isBlank])).seq (Takes.char ")" ')' rfl)).seq Takes.textEnd
  exact hopen.seq (((Takes.noGap hstart).seq hnumber).seq hclose)

open Pattern in
/-- A name with a length is found as the name, with its quotes. -/
theorem prefixedColumn_indexPart (s : Source) {name : List Char} (hname : Bare name) (n : Nat) :
    ∃ f, Reading.prefixedColumn.find? (indexPart s name (some n)) = some f ∧
      f.group "column" = quoted s name := by
  have hq := quotePair s
  rw [indexPart, quoted]
  generalize (identifierQuotes s.dialect).1 = l at hq
  generalize (identifierQuotes s.dialect).2 = r at hq
  have hinner : ∀ c ∈ l :: name ++ [r], isBlank c = false ∧ c ≠ '(' := by
    intro c hc
    have hquotes : l ≠ '(' ∧ r ≠ '(' := by
      rcases hq.cases with ⟨rfl, rfl⟩ | ⟨rfl, rfl⟩ | ⟨rfl, rfl⟩ <;> decide
    rw [List.cons_append, List.mem_cons, List.mem_append, List.mem_singleton] at hc
    rcases hc with rfl | hc | rfl
    · exact ⟨(isBlank_quote hq).1, hquotes.1⟩
    · refine ⟨isBlank_of_isNameChar (hname.2 c hc), ?_⟩
      rintro rfl
      exact absurd (hname.plain '(' hc) (by decide)
    · exact ⟨(isBlank_quote hq).2, hquotes.2⟩
  have hline : ∀ c ∈ l :: name ++ [r], (c != '\n') = true := by
    intro c hc
    rw [bne_iff_ne]
    rintro rfl
    exact absurd (hinner '\n' hc).1 (by decide)
  have hfirst : Takes (one (· != '\n')) [l] (name ++ [r] ++ (lengthText (some n) ++ [])) [] :=
    Takes.one _ (hline l List.mem_cons_self)
  have hcolumn := Takes.lazyGroup "column" hfirst
    (fun c hc => hline c (List.mem_cons_of_mem l hc)) (takes_length n) fun x hx hne => ?_
  · have htakes : TakesFirst Reading.prefixedColumn (l :: name ++ [r] ++ lengthText (some n)) []
        [("column", l :: name ++ [r])] := TakesFirst.textStart.seq hcolumn
    have hfind := htakes.find?
    rw [List.append_nil] at hfind
    exact ⟨_, hfind, rfl⟩
  · obtain ⟨c, cs, rfl⟩ := List.exists_cons_of_ne_nil hne
    obtain ⟨hblank, hparen⟩ := hinner c (List.mem_cons_of_mem l (hx.subset List.mem_cons_self))
    exact (Fails.gap_seq (Fails.char "(" '(' rfl (by simpa using hparen))
      (by simpa using hblank)).seq

theorem lengthText_closed (length : Option Nat) : Closed isBreak (lengthText length) := by
  cases length with
  | none => exact .nil
  | some n =>
    exact .group (Closed.of_plain fun c hc => ⟨(Schema.bare_toDigits n).plain c hc, rfl⟩) .nil

theorem lengthText_not_break (length : Option Nat) :
    ∀ c ∈ lengthText length, isBreak c = false := by
  intro c hc
  cases length with
  | none => cases hc
  | some n =>
    rw [lengthText, List.cons_append, List.mem_cons, List.mem_append, List.mem_singleton] at hc
    rcases hc with rfl | hc | rfl
    · decide
    · exact (isNameChar_plain ((Schema.bare_toDigits n).2 c hc)).2
    · decide

/-- A column of an index holds neither blanks nor commas, and nothing in it stays open. -/
theorem indexPart_whole (s : Source) {name : List Char} (hname : Bare name)
    (length : Option Nat) :
    Closed isBreak (indexPart s name length) ∧ Trimmed (indexPart s name length) ∧
      ∀ c ∈ indexPart s name length, isBreak c = false := by
  refine ⟨(quoted_closed s hname).append (lengthText_closed length), ?_, ?_⟩
  · cases length with
    | none =>
      rw [indexPart, lengthText, List.append_nil]
      exact trimmed_quoted (quotePair s)
    | some n =>
      refine ⟨⟨(identifierQuotes s.dialect).1, rfl, (isBlank_quote (quotePair s)).1⟩, ')', ?_, rfl⟩
      rw [indexPart, lengthText, ← List.append_assoc]
      exact List.getLast?_concat
  · intro c hc
    rcases List.mem_append.mp hc with hc | hc
    · exact hname.quoted_not_break (quotePair s) c hc
    · exact lengthText_not_break length c hc

theorem unquoteIdentifier_indexPart (s : Source) {name : List Char} (hname : Bare name)
    (length : Option Nat) :
    unquoteIdentifier (indexPart s name length)
      = if length.isSome then indexPart s name length else name := by
  cases length with
  | none =>
    rw [indexPart, lengthText, List.append_nil]
    exact hname.unquoteIdentifier_quoted (quotePair s)
  | some n =>
    have hlast : (indexPart s name (some n)).getLast? = some ')' := by
      rw [indexPart, lengthText, ← List.append_assoc, List.getLast?_concat]
    exact unquoteIdentifier_eq_self (indexPart_whole s hname (some n)).2.1 hlast (by simp)

/-- The columns of an index are read back by their names, with or without lengths. -/
theorem keyColumns_indexParts (s : Source) {columns : List (String × Option Nat)}
    (hne : columns ≠ []) (h : ∀ c ∈ columns, Bare c.1.toList) :
    Reading.keyColumns ([',', ' '].intercalate (columns.map fun c => indexPart s c.1.toList c.2))
      = columns.map (·.1) := by
  have hparts : ∀ p ∈ columns.map fun c => indexPart s c.1.toList c.2,
      Closed isBreak p ∧ Trimmed p ∧ (∀ c ∈ p, isBreak c = false) ∧ unquoteIdentifier p ≠ [] := by
    intro p hp
    obtain ⟨c, hc, rfl⟩ := List.mem_map.mp hp
    obtain ⟨hclosed, htrimmed, hbreak⟩ := indexPart_whole s (h c hc) c.2
    refine ⟨hclosed, htrimmed, hbreak, ?_⟩
    rw [unquoteIdentifier_indexPart s (h c hc)]
    split
    · exact htrimmed.ne_nil
    · exact (h c hc).1
  rw [Reading.keyColumns, splitIdentifiers_parts (by simpa using hne) hparts, List.map_map,
    List.map_map]
  refine List.map_congr_left fun c hc => ?_
  have hbare := h c hc
  have hunquoted := unquoteIdentifier_indexPart s hbare c.2
  cases hlength : c.2 with
  | none =>
    rw [hlength] at hunquoted
    simp [Function.comp, hunquoted, hlength, prefixedColumn_find? hbare]
  | some n =>
    rw [hlength] at hunquoted
    obtain ⟨f, hfind, hcolumn⟩ := prefixedColumn_indexPart s hbare n
    have hname : unquoteIdentifier (quoted s c.1.toList) = c.1.toList :=
      hbare.unquoteIdentifier_quoted (quotePair s)
    simp [Function.comp, hunquoted, hlength, hfind, hcolumn, hname]

/-! ## The head of an index -/

/-- A word in lower case. -/
def IsLowerWord (w : String) : Prop :=
  w.toList ≠ [] ∧ w.toList.all isWordChar = true ∧ lower w.toList = w.toList

instance (w : String) : Decidable (IsLowerWord w) := inferInstanceAs (Decidable (_ ∧ _))

/-- What stands between the table and the columns of an index: its method, if it has one. -/
def methodText : Option String → List Char
  | none => [' ']
  | some m => ' ' :: ("USING ".toList ++ m.toList ++ [' '])

/-- The head of an index: its name, its table and its method. -/
def indexHeadText (s : Source) (t : Diagram.Table) (unique : Bool) (name : String)
    (method : Option String) : List Char :=
  "CREATE ".toList ++ (if unique then "UNIQUE ".toList else []) ++ "INDEX ".toList
    ++ (quoted s name.toList ++ [' ']) ++ "ON ".toList ++ tableName s t
    ++ (methodText method ++ ['('])

/-- The groups that are found in the head of an index. -/
def indexGroups (s : Source) (t : Diagram.Table) (unique : Bool) (name : String)
    (method : Option String) : List (String × List Char) :=
  (method.map fun m => ("using", m.toList)).toList
    ++ [("table", tableName s t), ("name", quoted s name.toList)]
    ++ (if unique then [("unique", "UNIQUE ".toList)] else [])

/-- The codes of the blank characters. -/
def blankCodes : List Nat :=
  List.range' 9 5 ++ List.range' 0x2000 11 ++
    [0x20, 0x85, 0xA0, 0x1680, 0x2028, 0x2029, 0x202F, 0x205F, 0x3000]

/-- No blank is a character of words. -/
theorem isBlank_of_isWordChar {c : Char} (h : isWordChar c = true) : isBlank c = false := by
  have hcodes : ∀ n ∈ blankCodes, isWordChar (Char.ofNat n) = false := by decide +kernel
  rw [← Bool.not_eq_true]
  intro hblank
  have hmem : c.toNat ∈ blankCodes := by
    simp only [isBlank, Bool.or_eq_true, Bool.and_eq_true, beq_iff_eq, decide_eq_true_eq] at hblank
    simp only [blankCodes, List.mem_append, List.mem_range'_1, List.mem_cons, List.not_mem_nil,
      or_false]
    omega
  have hword := hcodes c.toNat hmem
  rw [Char.ofNat_toNat, h] at hword
  cases hword

open Pattern in
/-- Behind the table, the method is taken, and the parenthesis before the columns. -/
theorem takes_methodText {method : Option String} (hmethod : ∀ m ∈ method, IsLowerWord m)
    (rest : List Char) :
    Takes (gap ++ opt (phrase "USING " ++ group "using" (some1 isWordChar) ++ gap) ++ lit "(")
      (methodText method ++ ['(']) rest (method.map fun m => ("using", m.toList)).toList := by
  have hgap : ∀ {text : List Char}, (∀ c ∈ text.head?, isBlank c = false) →
      Takes gap [' '] text [] := fun h => Takes.run (by simp [isBlank]) h
  cases method with
  | none =>
    have hnone : Fails (phrase "USING ") ('(' :: rest) := Fails.phrase rfl
    exact ((hgap (by simp [isBlank])).seq (v := []) (Takes.skip hnone.seq.seq)).seq
      (Takes.char "(" '(' rfl)
  | some m =>
    obtain ⟨hne, hword, -⟩ := hmethod m rfl
    rw [methodText, Option.map_some, Option.toList_some]
    generalize m.toList = word at hne hword
    obtain ⟨c, cs, rfl⟩ := List.exists_cons_of_ne_nil hne
    rw [List.all_eq_true] at hword
    have hphrase : Takes (phrase "USING ") "USING ".toList (c :: cs ++ ([' '] ++ ('(' :: rest)))
        [] :=
      Takes.phrase rfl (by decide) fun _ x hx =>
        Option.some.inj hx ▸ isBlank_of_isWordChar (hword c List.mem_cons_self)
    have hmethod : Takes (group "using" (some1 isWordChar)) (c :: cs) ([' '] ++ ('(' :: rest))
        [("using", c :: cs)] :=
      Takes.group "using" (Takes.some1 isWordChar (hword c List.mem_cons_self)
        (fun x hx => hword x (List.mem_cons_of_mem c hx))
        fun x hx => Option.some.inj hx ▸ by decide)
    have hspace : Takes gap [' '] ('(' :: rest) [] := hgap (by simp [isBlank])
    have hopt : Takes (opt (phrase "USING " ++ group "using" (some1 isWordChar) ++ gap))
        ("USING ".toList ++ (c :: cs) ++ [' ']) ('(' :: rest) [("using", c :: cs)] :=
      ((hphrase.seq hmethod).seq hspace).opt
    have hstart : Takes gap [' '] ("USING ".toList ++ (c :: cs) ++ [' '] ++ ('(' :: rest)) [] :=
      hgap fun x hx => Option.some.inj hx ▸ rfl
    exact (hstart.seq hopt).seq (Takes.char "(" '(' rfl)

section

open Pattern

/-- Quotes are no blanks, and open no word that may stand before a name. -/
theorem quoted_start (s : Source) (name rest : List Char) :
    (∀ c ∈ (quoted s name ++ [' '] ++ rest).head?, isBlank c = false) ∧
      ∀ word ∈ ["CONCURRENTLY ", "IF NOT EXISTS "],
        differ word.toList (quoted s name ++ [' '] ++ rest) = true := by
  refine ⟨fun c hc => Option.some.inj hc ▸ (isBlank_quote (quotePair s)).1, ?_⟩
  intro word hword
  simp only [List.mem_cons, List.not_mem_nil, or_false] at hword
  rcases hword with rfl | rfl <;> cases s <;> rfl

theorem takes_unique (unique : Bool) (rest : List Char) :
    Takes (opt (group "unique" (phrase "UNIQUE "))
        ++ opt (oneOf ["CLUSTERED", "NONCLUSTERED", "FULLTEXT", "SPATIAL"] ++ blanks))
      (if unique then "UNIQUE ".toList else []) ("INDEX ".toList ++ rest)
      (if unique then [("unique", "UNIQUE ".toList)] else []) := by
  have hkind : Takes (opt (oneOf ["CLUSTERED", "NONCLUSTERED", "FULLTEXT", "SPATIAL"] ++ blanks)) []
      ("INDEX ".toList ++ rest) [] := by
    refine Takes.skip (Fails.oneOf (by simp) fun word hword => ?_).seq
    simp only [List.mem_cons, List.not_mem_nil, or_false] at hword
    rcases hword with rfl | rfl | rfl | rfl <;> rfl
  cases unique with
  | false => exact (Takes.skip (Fails.phrase rfl).group).seq hkind
  | true =>
    have hword : Takes (phrase "UNIQUE ") "UNIQUE ".toList ("INDEX ".toList ++ rest) [] :=
      Takes.phrase rfl (by decide) fun _ c hc => Option.some.inj hc ▸ rfl
    exact (hword.group "unique").opt.seq (v := []) hkind

theorem takes_indexWord (s : Source) (name rest : List Char) :
    Takes (phrase "INDEX " ++ opt (phrase "CONCURRENTLY ") ++ opt (phrase "IF NOT EXISTS "))
      "INDEX ".toList (quoted s name ++ [' '] ++ rest) [] := by
  obtain ⟨hblank, hwords⟩ := quoted_start s name rest
  have hindex : Takes (phrase "INDEX ") "INDEX ".toList (quoted s name ++ [' '] ++ rest) [] :=
    Takes.phrase rfl (by decide) fun _ => hblank
  exact (hindex.seq (v := []) (Takes.skip (Fails.phrase (hwords _ (by simp))))).seq (v := [])
    (Takes.skip (Fails.phrase (hwords _ (by simp))))

theorem takes_indexName (s : Source) {name : List Char} (hname : Bare name) (rest : List Char) :
    Takes (opt (group "name" qualifiedName ++ blanks)) (quoted s name ++ [' '])
      ("ON ".toList ++ rest) [("name", quoted s name)] := by
  have hq := quotePair s
  have hident : Takes qualifiedName (quoted s name) ([' '] ++ ("ON ".toList ++ rest)) [] :=
    Takes.name (Takes.identifier hq hname.1 (hname.close_not_mem hq) (by simp))
      (Fails.space_seq (Fails.char "." '.' rfl (by simp)) (Fails.char "." '.' rfl (by simp))
        (by simp [isBlank]))
  exact ((hident.group "name").seq (Takes.space fun c hc => Option.some.inj hc ▸ rfl)).opt

theorem takes_on (s : Source) (t : Diagram.Table) (rest : List Char) :
    Takes (phrase "ON " ++ opt (phrase "ONLY ")) "ON ".toList (tableName s t ++ rest) [] := by
  have hblank : ∀ c ∈ (tableName s t ++ rest).head?, isBlank c = false := fun c hc =>
    Option.some.inj ((tableName_head s t rest).symm.trans hc) ▸ (isBlank_quote (quotePair s)).1
  have hon : Takes (phrase "ON ") "ON ".toList (tableName s t ++ rest) [] :=
    Takes.phrase rfl (by decide) fun _ => hblank
  exact hon.seq (v := []) (Takes.skip (Fails.phrase (tableName_differ s t rest _ (by decide))))

/-- The head of an index is found with its groups, and its columns stand behind it. -/
theorem indexHead_find? (s : Source) {t : Diagram.Table} (ht : BareNames t) (unique : Bool)
    {name : String} (hname : Bare name.toList) {method : Option String}
    (hmethod : ∀ m ∈ method, IsLowerWord m) (rest : List Char) :
    ∃ f, Reading.indexHead.find? (indexHeadText s t unique name method ++ rest) = some f ∧
      f.after = rest ∧ f.groups = indexGroups s t unique name method := by
  have hbehind := takes_methodText hmethod rest
  -- Behind the name of the table stand a space and the method, or a space and the parenthesis.
  have htable : Takes qualifiedName (tableName s t) (methodText method ++ ['('] ++ rest) [] := by
    cases method with
    | none => exact tableName_takes s ht (by decide) (by decide) rest
    | some m => exact tableName_takes s ht (show isBlank 'U' = false by decide) (by decide) _
  have hcreate : ∀ text : List Char, TakesFirst (textStart ++ gap ++ phrase "CREATE ")
      ([] ++ "CREATE ".toList)
      ((if unique then "UNIQUE ".toList else []) ++ ("INDEX ".toList ++ text)) [] := by
    intro text
    have hstart : ∀ c ∈ ((if unique then "UNIQUE ".toList else [])
        ++ ("INDEX ".toList ++ text)).head?, isBlank c = false := by
      cases unique <;> simp [isBlank]
    have hfirst : TakesFirst (textStart ++ gap) [] ("CREATE ".toList
        ++ ((if unique then "UNIQUE ".toList else []) ++ ("INDEX ".toList ++ text))) [] :=
      TakesFirst.start fun c hc => Option.some.inj hc ▸ rfl
    exact hfirst.seq (Takes.phrase rfl (by decide) fun _ => hstart)
  have hnamed := (((hcreate _).seq_two (takes_unique unique _)).seq_three
    (takes_indexWord s name.toList _)).seq
      (takes_indexName s hname (tableName s t ++ (methodText method ++ ['('] ++ rest)))
  have hhead := ((hnamed.seq_two (takes_on s t _)).seq (htable.group "table")).seq_three hbehind
  have hfound : TakesFirst Reading.indexHead (indexHeadText s t unique name method) rest _ := hhead
  exact ⟨_, hfound.find?, rfl, by cases method <;> cases unique <;> rfl⟩

end

/-- The columns of an index, as they stand between its parentheses. -/
def indexColumns (s : Source) (columns : List (String × Option Nat)) : List Char :=
  [',', ' '].intercalate (columns.map fun c => indexPart s c.1.toList c.2)

theorem indexColumns_closed (s : Source) {columns : List (String × Option Nat)}
    (h : ∀ c ∈ columns, Bare c.1.toList) : Closed (fun _ => false) (indexColumns s columns) := by
  refine Closed.intercalate (Closed.of_all (by decide)) fun p hp => ?_
  obtain ⟨c, hc, rfl⟩ := List.mem_map.mp hp
  exact (indexPart_whole s (h c hc) c.2).1.inside

/-- The statement that creates an index is read back, whatever stands behind it. -/
theorem createIndex_read (s : Source) {t : Diagram.Table} (ht : BareNames t) (unique : Bool)
    {name : String} (hname : Bare name.toList) {method : Option String}
    (hmethod : ∀ m ∈ method, IsLowerWord m) {columns : List (String × Option Nat)}
    (hne : columns ≠ []) (hcolumns : ∀ c ∈ columns, Bare c.1.toList) (tail : List Char) :
    Reading.createIndex (indexHeadText s t unique name method
        ++ (indexColumns s columns ++ ')' :: tail))
      = .ok (⟨t.name, t.schema⟩,
          { name := name, columns := columns.map (·.1), unique := unique, method := method }) := by
  obtain ⟨f, hfind, hafter, hgroups⟩ := indexHead_find? s ht unique hname hmethod
    (indexColumns s columns ++ ')' :: tail)
  have htable : f.group "table" = tableName s t := by
    rw [Pattern.Found.group, Pattern.Found.group?, hgroups]
    cases method <;> rfl
  have hindex : f.group? "name" = some (quoted s name.toList) := by
    rw [Pattern.Found.group?, hgroups]
    cases method <;> rfl
  have hunique : (f.group? "unique").isSome = unique := by
    rw [Pattern.Found.group?, hgroups]
    cases method <;> cases unique <;> rfl
  have husing : (f.group? "using").map (fun m => String.ofList (lower m)) = method := by
    rw [Pattern.Found.group?, hgroups]
    cases method with
    | none => cases unique <;> rfl
    | some m =>
      have hlower := (hmethod m rfl).2.2
      show some (String.ofList (lower m.toList)) = some m
      rw [hlower, String.ofList_toList]
  have hsplit : Schema.TableRef.parse (quoted s name.toList) = ⟨name, none⟩ := by
    have hparts : splitQualified (quoted s name.toList) = [name.toList] :=
      splitQualified_name (quotePair s) hname
    simp [Schema.TableRef.parse, hparts]
  have hread := keyColumns_indexParts s hne hcolumns
  rw [← indexColumns] at hread
  have hplain : (columns.map (·.1)).find? (·.contains '(') = none := by
    refine List.find?_eq_none.mpr fun n hn => ?_
    obtain ⟨c, hc, rfl⟩ := List.mem_map.mp hn
    have hparen : '(' ∉ c.1.toList := fun hmem =>
      absurd ((hcolumns c hc).plain '(' hmem) (by decide)
    simp [hparen]
  rw [Reading.createIndex, hfind]
  simp only [hafter, splitGroup?_closed (indexColumns_closed s hcolumns), htable, hindex, hunique,
    husing, hread, hplain, parse_tableName s ht, Option.map_some, hsplit, Option.getD_some]

/-! ## Statements -/

/-- The length that a dialect indexes of a column. -/
def indexedLength (s : Source) (d : Diagram) (f : Field) : Option Nat :=
  if s.dialect.isMysqlFamily && isLongType ((Style.ofDialect s.dialect d).columnType f) then
    some Style.longPrefixLength
  else none

theorem indexColumn_toList (s : Source) (d : Diagram) {f : Field} (h : Bare f.name.toList) :
    ((Style.ofDialect s.dialect d).indexColumn f).toList
      = indexPart s f.name.toList (indexedLength s d f) := by
  have hname : ((Style.ofDialect s.dialect d).quoting.ident f.name).toList
      = quoted s f.name.toList := quoteIdentifier_toList s h
  have hdialect : (Style.ofDialect s.dialect d).dialect = s.dialect := rfl
  unfold Style.indexColumn indexedLength
  rw [hdialect]
  split
  · simp [indexPart, lengthText, hname]
  · simp [indexPart, lengthText, hname]

/-- The method that a dialect writes. -/
def writtenMethod (s : Source) (method : Option String) : Option String :=
  if s = .postgresql then method else none

theorem methodText_written (s : Source) (d : Diagram) (method : Option String) :
    methodText (writtenMethod s method)
      = (if (Style.ofDialect s.dialect d).isPostgresql then
          method.elim "" (" USING " ++ ·) else "").toList ++ [' '] := by
  have hnative : (Style.ofDialect s.dialect d).isPostgresql = decide (s = .postgresql) := by
    cases s <;> rfl
  rw [hnative, writtenMethod]
  by_cases hs : s = .postgresql
  · cases method <;> simp [hs, methodText]
  · simp [hs, methodText]

theorem createIndex_toList (s : Source) (d : Diagram) {t : Diagram.Table} (ht : BareNames t)
    (i : Diagram.Index) {name : String} (hname : Bare name.toList) {fields : List Field}
    (hfields : ∀ f ∈ fields, Bare f.name.toList) :
    ((Style.ofDialect s.dialect d).createIndex t i name fields).toList
      = indexHeadText s t i.unique name (writtenMethod s i.method)
        ++ (indexColumns s (fields.map fun f => (f.name, indexedLength s d f)) ++ [')', ';']) := by
  have hident : ((Style.ofDialect s.dialect d).quoting.ident name).toList = quoted s name.toList :=
    quoteIdentifier_toList s hname
  have htable : ((Style.ofDialect s.dialect d).quoting.table t).toList = tableName s t :=
    table_toList s ht
  have hcolumns : (", ".intercalate (fields.map (Style.ofDialect s.dialect d).indexColumn)).toList
      = indexColumns s (fields.map fun f => (f.name, indexedLength s d f)) := by
    rw [String.toList_intercalate, indexColumns, List.map_map, List.map_map]
    exact congrArg _ (List.map_congr_left fun f hf => indexColumn_toList s d (hfields f hf))
  unfold indexHeadText Style.createIndex
  simp only [String.toList_append, hident, htable, hcolumns, methodText_written s d]
  generalize (if (Style.ofDialect s.dialect d).isPostgresql then
    i.method.elim "" (" USING " ++ ·) else "").toList = method
  generalize quoted s name.toList = head
  generalize tableName s t = table
  cases i.unique <;> simp

/-- The name of an index is made of the characters of names, also where it is made up. -/
theorem indexName_bare {t : Diagram.Table} (ht : BareNames t) {i : Diagram.Index}
    (hindex : i.name ≠ "" → Bare i.name.toList) {fields : List Field}
    (hfields : ∀ f ∈ fields, Bare f.name.toList) : Bare (Style.indexName t i fields).toList := by
  unfold Style.indexName
  split
  · have hnames : ∀ c ∈ ['_'].intercalate ((fields.map (·.name)).map String.toList),
        isNameChar c = true := by
      refine all_intercalate (List.all_eq_true.mp (by decide)) fun w hw => ?_
      simp only [List.map_map, List.mem_map] at hw
      obtain ⟨f, hf, rfl⟩ := hw
      exact (hfields f hf).2
    have hidx : ∀ c ∈ "idx_".toList, isNameChar c = true := List.all_eq_true.mp (by decide)
    have hbetween : ∀ c ∈ "_".toList, isNameChar c = true := List.all_eq_true.mp (by decide)
    refine ⟨by simp, fun c hc => ?_⟩
    simp only [String.toList_append, String.toList_intercalate, List.mem_append] at hc
    rcases hc with ((hc | hc) | hc) | hc
    · exact hidx c hc
    · exact ht.name.2 c hc
    · exact hbetween c hc
    · exact hnames c hc
  · next hempty => exact hindex (by simpa using hempty)

/-- The fields of an index that a dialect writes. -/
def writtenFields (s : Source) (fields : List Field) : List Field :=
  if s = .sqlServer then fields.take Style.maxIndexColumns else fields

theorem writtenFields_ne_nil (s : Source) {fields : List Field} (h : fields ≠ []) :
    writtenFields s fields ≠ [] := by
  unfold writtenFields
  split
  · simpa [Style.maxIndexColumns] using h
  · exact h

theorem mem_of_mem_writtenFields {s : Source} {fields : List Field} {f : Field}
    (h : f ∈ writtenFields s fields) : f ∈ fields := by
  unfold writtenFields at h
  split at h
  · exact List.mem_of_mem_take h
  · exact h

/-- The statements of an index are one that creates it, and remarks before it. -/
theorem indexStatements_eq (s : Source) (d : Diagram) {t : Diagram.Table} {i : Diagram.Index}
    (h : (Style.ofDialect s.dialect d).indexStatements t i ≠ []) :
    indexedFields t i ≠ [] ∧
      ∃ remarks : List String, (∀ r ∈ remarks, startsWith r.toList "--" = true) ∧
        (Style.ofDialect s.dialect d).indexStatements t i
          = remarks ++ [(Style.ofDialect s.dialect d).createIndex t i
              (Style.indexName t i (indexedFields t i)) (writtenFields s (indexedFields t i))] := by
  have hserver : ((Style.ofDialect s.dialect d).dialect == .sqlServer)
      = decide (s = .sqlServer) := by
    cases s <;> rfl
  unfold Style.indexStatements at h ⊢
  dsimp only at h ⊢
  split at h
  · exact absurd rfl h
  · next hkept =>
    rw [if_neg hkept]
    simp only [Bool.or_eq_true, List.isEmpty_iff, not_or] at hkept
    refine ⟨hkept.1, ?_⟩
    rw [hserver]
    unfold writtenFields
    by_cases hs : s = .sqlServer
    · by_cases hmany : (indexedFields t i).length > Style.maxIndexColumns
      · rw [if_pos (by simp [hs, hmany]), if_pos hs]
        refine ⟨[_], ?_, rfl⟩
        intro r hr
        rw [List.mem_singleton.mp hr]
        simp [startsWith, dropHead?]
      · rw [if_neg (by simp [hmany]), if_pos hs, List.take_of_length_le (Nat.le_of_not_gt hmany)]
        exact ⟨[], by simp, rfl⟩
    · rw [if_neg (by simp [hs]), if_neg hs]
      exact ⟨[], by simp, rfl⟩

/-- The statement over these fields ends in a semicolon, and what stands before it is read back. -/
theorem createIndex_back (s : Source) (d : Diagram) {t : Diagram.Table} (ht : BareNames t)
    {i : Diagram.Index} (hmethod : ∀ m ∈ i.method, IsLowerWord m) {name : String}
    (hname : Bare name.toList) {fields : List Field} (hne : fields ≠ [])
    (hfields : ∀ f ∈ fields, Bare f.name.toList) :
    ∃ body : String, (Style.ofDialect s.dialect d).createIndex t i name fields = body ++ ";" ∧
      ∀ tail, Reading.createIndex (body ++ tail).toList
        = .ok (⟨t.name, t.schema⟩,
          { name := name, columns := fields.map (·.name), unique := i.unique,
            method := writtenMethod s i.method }) := by
  let columns := fields.map fun f => (f.name, indexedLength s d f)
  have hmethods : ∀ m ∈ writtenMethod s i.method, IsLowerWord m := by
    unfold writtenMethod
    split
    · exact hmethod
    · exact fun m hm => absurd hm (by simp)
  have hfilled : columns ≠ [] := by simpa [columns] using hne
  have hbare : ∀ c ∈ columns, Bare c.1.toList := by simpa [columns] using hfields
  refine ⟨String.ofList (indexHeadText s t i.unique name (writtenMethod s i.method)
    ++ (indexColumns s columns ++ [')'])), ?_, fun tail => ?_⟩
  · rw [← String.toList_inj, createIndex_toList s d ht i hname hfields]
    simp [columns]
  · have hread := createIndex_read s ht i.unique hname hmethods hfilled hbare tail.toList
    have hnames : columns.map (·.1) = fields.map (·.name) := by simp [columns]
    rw [hnames] at hread
    rw [← hread, String.toList_append, String.toList_ofList]
    simp

/-- Where no name needs quotes, the statement of an index is read back as that index: with the table
and the name that were written, with the columns in order, and with the method where the dialect
writes one. Only remarks stand before the statement. -/
theorem index_statements_are_read_back (s : Source) (d : Diagram) (t : Diagram.Table)
    (i : Diagram.Index) (hi : i ∈ t.indexes) (hkey : i.isPrimaryKey = false)
    (hwritten : (Style.ofDialect s.dialect d).indexStatements t i ≠ [])
    (hname : needsQuotes t.name = false) (hschema : ∀ n ∈ t.schema, needsQuotes n = false)
    (hindex : i.name ≠ "" → needsQuotes i.name = false)
    (hfields : ∀ f ∈ indexedFields t i, needsQuotes f.name = false)
    (hmethod : ∀ m ∈ i.method, IsLowerWord m) :
    ∃ (remarks : List String) (body : String),
      (Style.ofDialect s.dialect d).indexStatements t i = remarks ++ [body ++ ";"] ∧
      (∀ r ∈ remarks, startsWith r.toList "--" = true) ∧
      body ++ ";" ∈ (Style.ofDialect s.dialect d).tableIndexes t ∧
      ∀ tail, Reading.createIndex (body ++ tail).toList
        = .ok (⟨t.name, t.schema⟩,
          { name := if i.name = "" then
              "idx_" ++ t.name ++ "_" ++ "_".intercalate ((indexedFields t i).map (·.name))
              else i.name
            columns := if s = .sqlServer then ((indexedFields t i).map (·.name)).take 32
              else (indexedFields t i).map (·.name)
            unique := i.unique
            method := if s = .postgresql then i.method else none }) := by
  obtain ⟨hne, remarks, hremarks, hstatements⟩ := indexStatements_eq s d hwritten
  have ht : BareNames t := bareNames_of_needsQuotes hname hschema
  have hbare : ∀ f ∈ indexedFields t i, Bare f.name.toList := fun f hf =>
    bare_of_needsQuotes (hfields f hf)
  have hnamed : Style.indexName t i (indexedFields t i) = if i.name = "" then
      "idx_" ++ t.name ++ "_" ++ "_".intercalate ((indexedFields t i).map (·.name))
      else i.name := by
    simp [Style.indexName]
  have hcolumns : (writtenFields s (indexedFields t i)).map (·.name) = if s = .sqlServer then
      ((indexedFields t i).map (·.name)).take 32 else (indexedFields t i).map (·.name) := by
    unfold writtenFields
    split
    · exact List.map_take
    · rfl
  obtain ⟨body, hbody, hread⟩ := createIndex_back s d ht hmethod
    (indexName_bare ht (fun h => bare_of_needsQuotes (hindex h)) hbare)
    (writtenFields_ne_nil s hne) fun f hf => hbare f (mem_of_mem_writtenFields hf)
  rw [hbody] at hstatements
  refine ⟨remarks, body, hstatements, hremarks, ?_, fun tail => ?_⟩
  · refine List.mem_flatMap.mpr ⟨i, by simp [hi, hkey], ?_⟩
    simp [hstatements]
  · rw [hread, hnamed, hcolumns, writtenMethod]

/-- An index without a name, over a long column and a short one. -/
def postIndex : Diagram.Index :=
  { id := "i0", unique := true, fieldIds := ["f1", "f0"], method := some "btree" }

/-- A table with an index over a long column. -/
def posts : Diagram.Table :=
  { id := "t0", name := "posts", schema := some "blog", color := "",
    fields := [{ id := "f0", name := "slug", type := .named "varchar", primaryKey := true },
      { id := "f1", name := "body", type := .named "text" }],
    indexes := [postIndex] }

/-- The statement that creates the index of the table, up to its semicolon. -/
def createPostIndex : String :=
  "CREATE UNIQUE INDEX `idx_posts_body_slug` ON `blog`.`posts` (`body`(255), `slug`)"

theorem indexStatements_posts :
    (Style.ofDialect .mysql default).indexStatements posts postIndex
      = [createPostIndex ++ ";"] := by
  have hsort : ["f1", "f0"].mergeSort (fun a b => !decide (b < a)) = ["f0", "f1"] := by
    rw [List.mergeSort]
    change List.merge (["f1"].mergeSort _) (["f0"].mergeSort _) _ = _
    rw [List.mergeSort_singleton, List.mergeSort_singleton,
      List.cons_merge_cons_neg _ _ _ (by decide), List.merge_right]
  have hids : sorted ((indexedFields posts postIndex).map (·.id)) = ["f0", "f1"] := by
    rw [show (indexedFields posts postIndex).map (·.id) = ["f1", "f0"] by decide, sorted, hsort]
    rfl
  have hkey : (KeyLayout.ofTable posts false).fieldIds = ["f0"] := by
    rw [show (KeyLayout.ofTable posts false).fieldIds = sorted ["f0"] from rfl, sorted,
      List.mergeSort_singleton]
    rfl
  have hcreate : (Style.ofDialect .mysql default).createIndex posts postIndex
      (Style.indexName posts postIndex (indexedFields posts postIndex))
      (indexedFields posts postIndex) = createPostIndex ++ ";" := by decide
  unfold Style.indexStatements
  dsimp only
  rw [hids, hkey, if_neg (by decide), if_neg (by decide), hcreate]

theorem a_length_is_not_read_as_a_column :
    postIndex ∈ posts.indexes ∧ postIndex.isPrimaryKey = false ∧
      (Style.ofDialect .mysql default).indexStatements posts postIndex ≠ [] ∧
      needsQuotes posts.name = false ∧ (∀ n ∈ posts.schema, needsQuotes n = false) ∧
      (∀ f ∈ indexedFields posts postIndex, needsQuotes f.name = false) ∧
      (∀ m ∈ postIndex.method, IsLowerWord m) ∧
      Reading.createIndex createPostIndex.toList
        = .ok (⟨"posts", some "blog"⟩,
          { name := "idx_posts_body_slug", columns := ["body", "slug"], unique := true,
            method := none }) := by
  have hi : postIndex ∈ posts.indexes := by decide
  have hwritten : (Style.ofDialect .mysql default).indexStatements posts postIndex ≠ [] := by
    simp [indexStatements_posts]
  have hname : needsQuotes posts.name = false := by decide
  have hschema : ∀ n ∈ posts.schema, needsQuotes n = false := by decide
  have hfields : ∀ f ∈ indexedFields posts postIndex, needsQuotes f.name = false := by
    decide
  have hmethod : ∀ m ∈ postIndex.method, IsLowerWord m := by decide
  obtain ⟨remarks, body, hbody, -, -, hread⟩ := index_statements_are_read_back .mysql default posts
    postIndex hi rfl hwritten hname hschema (fun h => absurd rfl h) hfields hmethod
  obtain rfl : createPostIndex = body := by
    simpa using congrArg List.getLast? (indexStatements_posts.symm.trans hbody)
  refine ⟨hi, rfl, hwritten, hname, hschema, hfields, hmethod, ?_⟩
  rw [← String.append_empty (s := createPostIndex), hread]
  exact congrArg Except.ok (by decide)

end SchemaChart.Export
