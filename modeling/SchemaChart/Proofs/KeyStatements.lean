-- Statements that add a foreign key. Where the names in it need no quotes, every source reads such
-- a statement back as the one key that it was written from, whatever the quotes are.
import SchemaChart.Proofs.ColumnComments
import SchemaChart.Proofs.KeyBlock
import SchemaChart.Proofs.TableRoundTrip
import SchemaChart.Reading.Alter

namespace SchemaChart.Text

/-- A closed text without blanks at its ends is one element. -/
theorem splitTopLevel_whole {sep : Char} {cs : List Char} (hcs : Closed (· == sep) cs)
    (htrimmed : Trimmed cs) : splitTopLevel sep cs = [cs] := by
  simp [splitTopLevel, Grouping.segments_last (.inl rfl) hcs, htrimmed.trim_eq, htrimmed.ne_nil]

/-- Words that hold no commas outside of groups are one element. -/
theorem splitTopLevel_unwords {ws : List (List Char)} (hne : ws ≠ [])
    (h : ∀ w ∈ ws, Closed isBreak w ∧ w ≠ []) : splitTopLevel ',' (unwords ws) = [unwords ws] :=
  splitTopLevel_whole (closed_unwords rfl fun w hw => (h w hw).1.elements) (trimmed_unwords hne h)

namespace Pattern

section

variable {a b p : Pattern} {w v rest : List Char} {gs hs : List (String × List Char)}

/-- Like `Takes`, where a word starts or ends. -/
def TakesEdge (p : Pattern) (w rest : List Char) (gs : List (String × List Char)) : Prop :=
  ∀ k c e, c.atEdge = true → c.rest = w ++ rest → k (c.beyond w rest gs) = some e →
    p.go k c = some e

theorem TakesEdge.edge : TakesEdge edge [] rest [] := by
  intro k c e hedge hc hk
  rw [Cursor.beyond_nil hc] at hk
  simpa [go, hedge] using hk

theorem TakesEdge.seq (ha : TakesEdge a w (v ++ rest) gs) (hb : Takes b v rest hs) :
    TakesEdge (a ++ b) (w ++ v) rest (hs ++ gs) := by
  intro k c e hedge hc hk
  have hv : go b k (c.beyond w (v ++ rest) gs) = some e := hb k _ e rfl (by rwa [c.beyond_beyond])
  exact ha (go b k) c e hedge (by rw [hc, List.append_assoc]) hv

/-- What a pattern takes behind a space, where a word starts, is what is found there. -/
theorem TakesEdge.find? {ws : List String} (hneeds : Needs p ws) (hws : absent ws none [' '] = true)
    (h : TakesEdge p w rest gs) (hstart : (w ++ rest).head?.any isWordChar = true) :
    p.find? (' ' :: (w ++ rest)) = some ⟨[' '], w, rest, w.getLast?.or (some ' '), gs⟩ := by
  have hedge : Cursor.atEdge ⟨some ' ', w ++ rest, 0, []⟩ = true := by
    rw [Cursor.atEdge, hstart]
    rfl
  have hgo := h some ⟨some ' ', w ++ rest, 0, []⟩ _ hedge rfl rfl
  have hfrom := findFrom_behind hneeds hws [] (w ++ rest)
  rw [List.singleton_append] at hfrom
  rw [Pattern.find?, hfrom]
  show p.findFrom (some ' ') [' '] (w ++ rest) = _
  rw [findFrom.eq_def, hgo]
  simp [Cursor.beyond]

end

end Pattern

end SchemaChart.Text

namespace SchemaChart.Export

open Text

/-! ## References -/

def referencesWord : List Char := ['R', 'E', 'F', 'E', 'R', 'E', 'N', 'C', 'E', 'S']

open Pattern in
/-- A reference clause is found behind a space, with its table, its columns and what follows. -/
theorem referenceClause_find? {name columns tail : List Char}
    (hname : Takes qualifiedName name (' ' :: '(' :: (columns ++ ')' :: tail)) [])
    (hblank : ∀ c ∈ (name ++ ' ' :: '(' :: (columns ++ ')' :: tail)).head?, isBlank c = false)
    (hcolumns : ')' ∉ columns) :
    ∃ f, Reading.referenceClause.find?
        (' ' :: (referencesWord ++ ' ' :: (name ++ ' ' :: '(' :: (columns ++ ')' :: tail))))
          = some f ∧
      f.group "table" = name ∧ f.group? "columns" = some columns ∧ f.group "tail" = tail := by
  have hword : Takes (phrase "REFERENCES ") (referencesWord ++ [' '])
      (name ++ ' ' :: '(' :: (columns ++ ')' :: tail)) [] :=
    Takes.phrase (by decide) (by decide) fun _ => hblank
  have hgap : Takes gap [' '] ('(' :: (columns ++ ')' :: tail)) [] :=
    Takes.run (List.all_eq_true.mp (by decide)) (by simp [isBlank])
  have hinside : Takes (group "columns" (run true (· != ')'))) columns ([')'] ++ (tail ++ []))
      [("columns", columns)] := by
    refine Takes.group "columns" (Takes.run (fun c hc => ?_) (by simp))
    simpa using fun h : c = ')' => hcolumns (h ▸ hc)
  have hgroup := (((Takes.char "(" '(' rfl).seq hinside).seq (Takes.char ")" ')' rfl)).opt
  have htail : Takes (group "tail" Pattern.rest) tail [] [("tail", tail)] :=
    Takes.group "tail" (Takes.run (by simp) (by simp))
  have hstart : TakesEdge (edge ++ phrase "REFERENCES " ++ group "table" qualifiedName ++ gap)
      (referencesWord ++ [' '] ++ name ++ [' ']) ('(' :: (columns ++ ')' :: tail))
      [("table", name)] :=
    ((TakesEdge.edge.seq hword).seq (Takes.group "table" hname)).seq hgap
  rw [← List.append_nil tail] at hstart
  have hclause := ((TakesEdge.seq (v := '(' :: columns ++ [')'])
    (by simpa using hstart) hgroup).seq htail).seq Takes.textEnd
  have hfind := hclause.find? Reading.referenceClause_needs (by decide) rfl
  simp only [List.append_nil, List.append_assoc, List.cons_append, List.nil_append] at hfind
  exact ⟨_, hfind, rfl, rfl, rfl⟩

/-- What may stand behind a statement: its semicolon or nothing. -/
def IsEnd (tail : List Char) : Prop := tail = [] ∨ tail = [';']

theorem action?_end {tail : List Char} (htail : IsEnd tail) :
    Reading.action? "UPDATE" tail = none ∧ Reading.action? "DELETE" tail = none := by
  rcases htail with rfl | rfl <;> decide

theorem paren_notMem_quoted (s : Source) {name : List Char} (h : Bare name) :
    ')' ∉ quoted s name := by
  intro hmem
  have hquotes : ')' ≠ (identifierQuotes s.dialect).1 ∧ ')' ≠ (identifierQuotes s.dialect).2 := by
    cases s <;> decide
  rcases List.mem_append.mp hmem with hmem | hmem
  · rcases List.mem_cons.mp hmem with hopen | hname
    · exact hquotes.1 hopen
    · exact absurd (h.plain ')' hname) (by decide)
  · exact hquotes.2 (List.mem_singleton.mp hmem)

theorem quotedList_singleton (s : Source) (name : String) :
    quotedList s [name] = quoted s name.toList := by
  rw [quotedList, List.map_singleton, List.intercalate_singleton]

theorem keyColumns_quoted (s : Source) {name : String} (h : Bare name.toList) :
    Reading.keyColumns (quoted s name.toList) = [name] := by
  rw [← quotedList_singleton]
  exact keyColumns_quotedList s (by simp) (by simpa using h)

/-- A reference is read back with its table and its column, and asks for nothing on changes. -/
theorem reference?_written (s : Source) {t : Diagram.Table} (ht : BareNames t) {column : String}
    (hcolumn : Bare column.toList) {tail : List Char} (htail : IsEnd tail) :
    Reading.reference? (' ' :: (referencesWord ++ ' ' :: (tableName s t ++
        ' ' :: '(' :: (quoted s column.toList ++ ')' :: tail))))
      = some ⟨⟨t.name, t.schema⟩, [column], none, none⟩ := by
  have hhead : ∀ c ∈ (tableName s t ++ ' ' :: '(' :: (quoted s column.toList ++ ')' :: tail)).head?,
      isBlank c = false := fun c hc =>
    Option.some.inj ((tableName_head s t _).symm.trans hc) ▸ (isBlank_quote (quotePair s)).1
  obtain ⟨f, hfind, htable, hcolumns, hbehind⟩ := referenceClause_find?
    (tableName_takes s ht (by decide) (by decide) _) hhead (paren_notMem_quoted s hcolumn)
  rw [Reading.reference?, hfind]
  simp only [Option.map_some, htable, hcolumns, hbehind, parse_tableName s ht,
    keyColumns_quoted s hcolumn, (action?_end htail).1, (action?_end htail).2,
    Option.getD_some]

/-! ## Clauses -/

def addWord : List Char := ['A', 'D', 'D']

def foreignWord : List Char := ['F', 'O', 'R', 'E', 'I', 'G', 'N']

def keyWord : List Char := ['K', 'E', 'Y']

/-- The words behind the name of a foreign key. -/
def foreignWords (s : Source) (k : ForeignKey) (tail : List Char) : List (List Char) :=
  [foreignWord, keyWord, '(' :: quoted s k.holding.name.toList ++ [')'], referencesWord,
    tableName s k.referenced, '(' :: quoted s k.target.name.toList ++ ')' :: tail]

/-- The words that declare a foreign key. -/
def clauseWords (s : Source) (k : ForeignKey) (tail : List Char) : List (List Char) :=
  constraintWord :: quoted s k.name.toList :: foreignWords s k tail

/-- The fact that a foreign key is. -/
def ForeignKey.fact (k : ForeignKey) : Schema.Fact :=
  .foreignKey (some k.name) [k.holding.name] ⟨k.referenced.name, k.referenced.schema⟩
    [k.target.name] none none

/-- The names that the statement of a foreign key holds. -/
def ForeignKey.names (k : ForeignKey) : List String :=
  [k.name, k.holder.name, k.holding.name, k.referenced.name, k.target.name]
    ++ k.holder.schema.toList ++ k.referenced.schema.toList

/-- None of the names needs quotes. -/
structure ForeignKey.Plain (k : ForeignKey) : Prop where
  name : Bare k.name.toList
  holder : BareNames k.holder
  holding : Bare k.holding.name.toList
  referenced : BareNames k.referenced
  target : Bare k.target.name.toList

theorem ForeignKey.plain_of_needsQuotes {k : ForeignKey}
    (h : ∀ n ∈ k.names, needsQuotes n = false) : k.Plain where
  name := bare_of_needsQuotes (h _ (by simp [names]))
  holder := bareNames_of_needsQuotes (h _ (by simp [names])) fun n hn => h n (by simp_all [names])
  holding := bare_of_needsQuotes (h _ (by simp [names]))
  referenced := bareNames_of_needsQuotes (h _ (by simp [names])) fun n hn =>
    h n (by simp_all [names])
  target := bare_of_needsQuotes (h _ (by simp [names]))

section

variable (s : Source) {k : ForeignKey} (hk : k.Plain) {tail : List Char} (htail : IsEnd tail)

theorem unwords_foreignWords (k : ForeignKey) (tail : List Char) :
    unwords (foreignWords s k tail) = foreignWord ++ ' ' :: (keyWord ++ [' ']) ++
      ('(' :: quoted s k.holding.name.toList ++ ')' :: (' ' :: (referencesWord ++
        ' ' :: (tableName s k.referenced ++
          ' ' :: '(' :: (quoted s k.target.name.toList ++ ')' :: tail))))) := by
  simp [foreignWords, unwords, List.intercalate_cons_cons, List.intercalate_singleton]

theorem unwords_clauseWords (k : ForeignKey) (tail : List Char) :
    unwords (clauseWords s k tail) = constraintWord ++ [' '] ++
      (quoted s k.name.toList ++ ' ' :: unwords (foreignWords s k tail)) := by
  rw [clauseWords, unwords_cons _ (by simp), unwords_cons _ (by simp [foreignWords])]
  simp

theorem tableName_closed {t : Diagram.Table} (ht : BareNames t) :
    Closed isBreak (tableName s t) := by
  unfold tableName
  cases hs : t.schema with
  | none => exact quoted_closed s ht.name
  | some n =>
    exact (quoted_closed s (ht.schema n hs)).append
      (.char (by decide) (by decide) (quoted_closed s ht.name))

theorem tableName_ne_nil (t : Diagram.Table) : tableName s t ≠ [] := by
  intro h
  have hhead := tableName_head s t []
  rw [h] at hhead
  cases hhead

theorem upper_foreignWords (k : ForeignKey) (tail : List Char) :
    ∃ behind, upper (unwords (foreignWords s k tail)) = "FOREIGN".toList ++ behind := by
  have hword : upper foreignWord = "FOREIGN".toList := by decide
  rw [foreignWords, unwords_cons _ (by simp), upper_append, hword]
  exact ⟨_, rfl⟩

include hk htail

theorem clauseWords_closed : ∀ w ∈ clauseWords s k tail, Closed isBreak w ∧ w ≠ [] := by
  have hend : Closed isBreak tail := by
    rcases htail with rfl | rfl
    · exact .nil
    · exact .char (by decide) (by decide) .nil
  intro w hw
  simp only [clauseWords, foreignWords, List.mem_cons, List.not_mem_nil, or_false] at hw
  rcases hw with rfl | rfl | rfl | rfl | rfl | rfl | rfl | rfl
  · exact ⟨Closed.of_all (by decide), by decide⟩
  · exact ⟨quoted_closed s hk.name, by simp [quoted]⟩
  · exact ⟨Closed.of_all (by decide), by decide⟩
  · exact ⟨Closed.of_all (by decide), by decide⟩
  · exact ⟨.group (quoted_closed s hk.holding).inside .nil, by simp⟩
  · exact ⟨Closed.of_all (by decide), by decide⟩
  · exact ⟨tableName_closed s hk.referenced, tableName_ne_nil s k.referenced⟩
  · exact ⟨.group (quoted_closed s hk.target).inside hend, by simp⟩

theorem additionWords_closed :
    ∀ w ∈ addWord :: clauseWords s k tail, Closed isBreak w ∧ w ≠ [] :=
  List.forall_mem_cons.mpr
    ⟨⟨Closed.of_all (by decide), by decide⟩, clauseWords_closed s hk htail⟩

/-- The key behind its name is read back. -/
theorem foreignKey?_written :
    Reading.foreignKey? (some k.name) (unwords (foreignWords s k tail)) = some k.fact := by
  rw [unwords_foreignWords, Reading.foreignKey?,
    firstGroup?_closed (by decide) (quoted_closed s hk.holding)]
  simp only [Option.bind_eq_bind, Option.bind_some,
    reference?_written s hk.referenced hk.target htail, keyColumns_quoted s hk.holding]
  rfl

/-- The clause of a key is read back as the key. -/
theorem constraint?_written :
    Reading.constraint? (unwords (clauseWords s k tail)) = some k.fact := by
  obtain ⟨behind, hupper⟩ := upper_foreignWords s k tail
  have hhead : ∀ c ∈ (unwords (foreignWords s k tail)).head?, isBlank c = false := by
    rw [unwords_foreignWords]
    exact fun c hc => Option.some.inj hc ▸ rfl
  obtain ⟨f, hfind, hfname, hfrest⟩ := namedConstraint_named s hk.name hhead
  have hunquote : unquoteIdentifier (quoted s k.name.toList) = k.name.toList :=
    hk.name.unquoteIdentifier_quoted (quotePair s)
  have hprimary : startsWith ("FOREIGN".toList ++ behind) "PRIMARY" = false := rfl
  have hunique : startsWith ("FOREIGN".toList ++ behind) "UNIQUE" = false := rfl
  have hforeign : startsWith ("FOREIGN".toList ++ behind) "FOREIGN" = true := by
    rw [startsWith, dropHead?_append]
    rfl
  rw [unwords_clauseWords]
  simp only [Reading.constraint?, hfind, hfname, hfrest, hunquote, hupper, hprimary, hunique,
    hforeign, Bool.false_eq_true, ↓reduceIte, String.ofList_toList]
  exact foreignKey?_written s hk htail

/-- The clause that adds a key is read back as that. -/
theorem alteration?_written (reader : Source) :
    Reading.alteration? reader (unwords (addWord :: clauseWords s k tail))
      = some (.addConstraint k.fact) := by
  have hsplit : splitWords (unwords (addWord :: clauseWords s k tail))
      = addWord :: clauseWords s k tail :=
    splitWords_unwords fun w hw =>
      (additionWords_closed s hk htail w hw).imp_left Closed.words
  have hmode : Reading.dropCheckMode (addWord :: clauseWords s k tail)
      = addWord :: clauseWords s k tail := rfl
  have hadd : String.ofList (upper addWord) = "ADD" := by decide
  have hconstraint : Reading.isConstraint (unwords (clauseWords s k tail)) = true := by
    have htrimmed := trimmed_unwords (by simp [clauseWords]) (clauseWords_closed s hk htail)
    rw [unwords_clauseWords] at htrimmed ⊢
    exact isConstraint_named htrimmed
  rw [Reading.alteration?, hsplit, hmode]
  simp only [hadd, Reading.addition?, hconstraint, constraint?_written s hk htail, if_true,
    Option.map_some]

end

/-! ## Statements -/

def alterWord : List Char := ['A', 'L', 'T', 'E', 'R']

open Pattern in
/-- The head of an alteration is found with its table, and its clauses stand behind it. A hint may
stand before the table. -/
theorem alterHead_find? {hint name text : List Char}
    (hexists : Fails (phrase "IF EXISTS ") (hint ++ (name ++ ' ' :: text)))
    (hhint : Takes (opt (phrase "ONLY ")) hint (name ++ ' ' :: text) [])
    (hname : Takes qualifiedName name (' ' :: text) [])
    (hblank : ∀ c ∈ (hint ++ (name ++ ' ' :: text)).head?, isBlank c = false)
    (htext : ∀ c ∈ text.head?, isBlank c = false) :
    ∃ f, Reading.alterHead.find?
        (alterWord ++ ' ' :: (tableWord ++ ' ' :: (hint ++ (name ++ ' ' :: text)))) = some f ∧
      f.group "table" = name ∧ f.group "rest" = text := by
  have hstart : TakesFirst (textStart ++ gap) []
      (alterWord ++ ' ' :: (tableWord ++ [' ']) ++ (hint ++ (name ++ ' ' :: text))) [] :=
    TakesFirst.start fun c hc => Option.some.inj hc ▸ rfl
  have hwords : Takes (phrase "ALTER TABLE ") (alterWord ++ ' ' :: (tableWord ++ [' ']))
      (hint ++ (name ++ ' ' :: text)) [] :=
    Takes.phrase (by decide) (by decide) fun _ => hblank
  have hspace : Takes blanks [' '] (text ++ []) [] := Takes.space (by simpa using htext)
  have hrest : Takes (group "rest" rest) text [] [("rest", text)] :=
    Takes.group "rest" (Takes.run (by simp) (by simp))
  have hhead : TakesFirst (textStart ++ gap ++ phrase "ALTER TABLE " ++ opt (phrase "IF EXISTS ")
      ++ opt (phrase "ONLY ") ++ group "table" qualifiedName)
      (alterWord ++ ' ' :: (tableWord ++ [' ']) ++ hint ++ name) ([' '] ++ (text ++ []))
      [("table", name)] := by
    have h := (((hstart.seq hwords).seq (v := []) (Takes.skip hexists)).seq hhint).seq
      (Takes.group "table" hname)
    simpa using h
  have hfind := (((hhead.seq hspace).seq hrest).seq Takes.textEnd).find?
  simp only [List.append_nil, List.append_assoc, List.cons_append, List.nil_append] at hfind
  exact ⟨_, hfind, rfl, rfl⟩

/-- The statement that adds a key is read back: the table that holds it, and the one key. -/
theorem alterTable_written (s reader : Source) {k : ForeignKey} (hk : k.Plain) {tail : List Char}
    (htail : IsEnd tail) :
    Reading.alterTable reader (alterWord ++ ' ' :: (tableWord ++ ' ' :: (tableName s k.holder ++
        ' ' :: unwords (addWord :: clauseWords s k tail))))
      = .ok (⟨k.holder.name, k.holder.schema⟩, [.addConstraint k.fact]) := by
  have hwords := additionWords_closed s hk htail
  have hsplit : splitTopLevel ',' (unwords (addWord :: clauseWords s k tail))
      = [unwords (addWord :: clauseWords s k tail)] := splitTopLevel_unwords (by simp) hwords
  have htext : unwords (addWord :: clauseWords s k tail)
      = 'A' :: 'D' :: 'D' :: ' ' :: unwords (clauseWords s k tail) :=
    unwords_cons addWord (by simp [clauseWords])
  have htakes := tableName_takes s hk.holder (show isBlank 'A' = false by decide) (by decide)
    ('D' :: 'D' :: ' ' :: unwords (clauseWords s k tail))
  have hhints := tableName_differ s k.holder
    (' ' :: 'A' :: 'D' :: 'D' :: ' ' :: unwords (clauseWords s k tail))
  have honly := Pattern.Takes.skip (Pattern.Fails.phrase (hhints "ONLY " (by decide)))
  obtain ⟨f, hfind, htable, hrest⟩ := alterHead_find?
    (Pattern.Fails.phrase (hhints "IF EXISTS " (by decide))) honly htakes
    (fun c hc => Option.some.inj ((tableName_head s k.holder _).symm.trans hc) ▸
      (isBlank_quote (quotePair s)).1)
    fun c hc => Option.some.inj hc ▸ rfl
  rw [← htext] at hfind hrest
  rw [List.nil_append] at hfind
  rw [Reading.alterTable, hfind]
  simp only [htable, hrest, hsplit, parse_tableName s hk.holder, List.filterMap_cons,
    alteration?_written s hk htail, List.filterMap_nil]

/-- A source with the quotes of a dialect. -/
def quotedAlike : Dialect → Source
  | .mysql | .mariadb => .mysql
  | .sqlServer => .sqlServer
  | _ => .postgresql

theorem quoteIdentifier_alike (d : Dialect) :
    quoteIdentifier d = quoteIdentifier (quotedAlike d).dialect := by
  have hquotes : identifierQuotes d = identifierQuotes (quotedAlike d).dialect := by
    cases d <;> rfl
  funext name
  rw [quoteIdentifier, quoteIdentifier, hquotes]

/-- Where all names are quoted, statements differ by the quotes alone. -/
theorem body_alike (d : Dialect) (k : ForeignKey) :
    k.body ⟨d, true⟩ = k.body ⟨(quotedAlike d).dialect, true⟩ := by
  have hident : Quoting.ident ⟨d, true⟩ = Quoting.ident ⟨(quotedAlike d).dialect, true⟩ :=
    quoteIdentifier_alike d
  have htable : Quoting.table ⟨d, true⟩ = Quoting.table ⟨(quotedAlike d).dialect, true⟩ := by
    funext t
    unfold Quoting.table Quoting.qualified
    rw [hident]
  have hcolumns : Quoting.columns ⟨d, true⟩ = Quoting.columns ⟨(quotedAlike d).dialect, true⟩ := by
    funext names
    unfold Quoting.columns
    rw [quoteIdentifier_alike d]
  rw [← String.toList_inj, body_toList, body_toList, hident, htable, hcolumns]

/-- The text of a statement, word by word. -/
theorem body_written (s : Source) {k : ForeignKey} (hk : k.Plain) (tail : List Char) :
    (k.body ⟨s.dialect, true⟩).toList ++ tail
      = alterWord ++ ' ' :: (tableWord ++ ' ' :: (tableName s k.holder ++
        ' ' :: unwords (addWord :: clauseWords s k tail))) := by
  have halter : "ALTER TABLE ".toList = alterWord ++ ' ' :: (tableWord ++ [' ']) := by
    decide
  have hadd : " ADD ".toList = ' ' :: (addWord ++ [' ']) := by decide
  have hconstraint : "CONSTRAINT ".toList = constraintWord ++ [' '] := by decide
  have hforeign : " FOREIGN KEY (".toList
      = ' ' :: (foreignWord ++ ' ' :: (keyWord ++ [' ', '('])) := by decide
  have hreferences : ") REFERENCES ".toList = ')' :: ' ' :: (referencesWord ++ [' ']) := by
    decide
  have hopen : " (".toList = [' ', '('] := by decide
  have hclose : ")".toList = [')'] := by decide
  have hident : (Quoting.ident ⟨s.dialect, true⟩ k.name).toList = quoted s k.name.toList :=
    quoteIdentifier_toList s hk.name
  have hcolumn : ∀ {name : String}, Bare name.toList →
      (Quoting.columns ⟨s.dialect, true⟩ [name]).toList = quoted s name.toList := by
    intro name hname
    rw [columns_toList s (by simpa using hname), quotedList_singleton]
  rw [body_toList, unwords_cons addWord (by simp [clauseWords]), unwords_clauseWords,
    unwords_foreignWords]
  simp only [halter, hadd, hconstraint, hforeign, hreferences, hopen, hclose, hident,
    table_toList s hk.holder, table_toList s hk.referenced, hcolumn hk.holding, hcolumn hk.target,
    List.append_assoc, List.cons_append, List.nil_append]

/-- Where none of its names needs quotes, the statement that adds a foreign key, written in any
dialect and with or without its semicolon, is read by every source as the table that holds the key
and that one key, with nothing to do when a row of the target goes or changes. -/
theorem key_statements_are_read_back (d : Dialect) (s : Source) (k : ForeignKey)
    (hnames : ∀ n ∈ k.names, needsQuotes n = false) (text : String)
    (htext : text = k.statement ⟨d, true⟩ ∨ text ++ ";" = k.statement ⟨d, true⟩) :
    Reading.alterTable s text.toList
      = .ok (⟨k.holder.name, k.holder.schema⟩,
        [.addConstraint (.foreignKey (some k.name) [k.holding.name]
          ⟨k.referenced.name, k.referenced.schema⟩ [k.target.name] none none)]) := by
  have hk := ForeignKey.plain_of_needsQuotes hnames
  have hend : ∃ tail, IsEnd tail ∧ text.toList = (k.body ⟨d, true⟩).toList ++ tail := by
    rw [statement_eq_body] at htext
    rcases htext with rfl | htext
    · exact ⟨[';'], .inr rfl, String.toList_append⟩
    · have hlist := congrArg String.toList htext
      rw [String.toList_append, String.toList_append] at hlist
      exact ⟨[], .inl rfl, by rw [List.append_cancel_right hlist, List.append_nil]⟩
  obtain ⟨tail, htail, htext⟩ := hend
  rw [htext, body_alike, body_written (quotedAlike d) hk]
  exact alterTable_written (quotedAlike d) s hk htail

/-- A key whose names are words that may stand in alterations themselves. -/
def wordyKey : ForeignKey :=
  { name := "cascade"
    holder := { id := "t1", name := "only", schema := some "if", color := "", fields := [] }
    holding := { id := "f1", name := "add", type := .named "integer" }
    referenced := { id := "t0", name := "action", schema := some "no", color := "", fields := [] }
    target := { id := "f0", name := "restrict", type := .named "integer" } }

theorem wordy_names_are_read_back :
    (∀ n ∈ wordyKey.names, needsQuotes n = false) ∧
    Reading.alterTable .postgresql
        ("ALTER TABLE [if].[only] ADD CONSTRAINT [cascade] FOREIGN KEY ([add]) " ++
          "REFERENCES [no].[action] ([restrict])").toList
      = .ok (⟨"only", some "if"⟩, [.addConstraint (.foreignKey (some "cascade") ["add"]
          ⟨"action", some "no"⟩ ["restrict"] none none)]) := by
  have hnames : ∀ n ∈ wordyKey.names, needsQuotes n = false := by decide
  exact ⟨hnames, key_statements_are_read_back .sqlServer .postgresql wordyKey hnames _
    (.inr (by decide))⟩

end SchemaChart.Export
