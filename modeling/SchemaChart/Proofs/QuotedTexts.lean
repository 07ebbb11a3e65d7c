-- Texts in quotes. Outside of SQL Server the quotes of names are straight, like those of string
-- literals: what stands in them comes back as it was, and is one piece to every scan.
import Mathlib.Data.String.Basic
import SchemaChart.Proofs.KeyBlock
import SchemaChart.Proofs.Literals

namespace SchemaChart.Text

theorem byteSize_toList (s : String) : byteSize s.toList = s.utf8ByteSize := by
  have hlist : ∀ cs : List Char, byteSize cs = String.utf8Len cs := by
    intro cs
    induction cs with
    | nil => rfl
    | cons c cs ih => rw [byteSize_cons, ih, String.utf8Len_cons, Nat.add_comm]
  rw [hlist, ← String.utf8ByteSize_ofList, String.ofList_toList]

/-- A text between straight quotes, those in it doubled. -/
def InQuotes (cs : List Char) : Prop :=
  ∃ q inside, plainQuote q = some q ∧ cs = q :: double q inside ++ [q]

theorem InQuotes.trimmed {cs : List Char} (h : InQuotes cs) : Trimmed cs := by
  obtain ⟨q, inside, hq, rfl⟩ := h
  have hblank : isBlank q = false := by
    obtain ⟨-, rfl | rfl | rfl⟩ := plainQuote_cases hq
    · rfl
    · rfl
    · rfl
  exact ⟨⟨q, rfl, hblank⟩, q, List.getLast?_concat, hblank⟩

theorem InQuotes.passes_elements {cs : List Char} (h : InQuotes cs) (sep : Char → Bool) :
    Grouping.elements.Passes sep cs := by
  obtain ⟨q, inside, hq, rfl⟩ := h
  refine Grouping.passes_doubled ?_ sep inside
  obtain ⟨-, rfl | rfl | rfl⟩ := plainQuote_cases hq
  · rfl
  · rfl
  · rfl

theorem InQuotes.closing? {cs : List Char} (h : InQuotes cs) (d : Nat) (rest : List Char) :
    Text.closing? d none (cs ++ rest) = (Text.closing? d none rest).map (· + cs.length) := by
  obtain ⟨q, inside, hq, rfl⟩ := h
  exact closing?_doubled d hq inside rest

/-- Texts in quotes with commas between them are cut back into these texts. -/
theorem splitTopLevel_inQuotes {items : List (List Char)} (h : ∀ i ∈ items, InQuotes i) :
    splitTopLevel ',' ([',', ' '].intercalate items) = items := by
  by_cases hne : items = []
  · subst hne
    rfl
  · have hnil : ∀ c ∈ ([] : List Char), isBlank c = true := by simp
    have hsplit : splitTopLevel ',' ([] ++ [',', ' '].intercalate items ++ []) = items :=
      splitTopLevel_passed rfl rfl (by simp; rfl) hnil hne
        (fun i hi => ⟨(h i hi).passes_elements _, (h i hi).trimmed⟩) [] hnil
    rwa [List.nil_append, List.append_nil] at hsplit

/-- A parenthesis before texts in quotes is closed by the first one behind them. -/
theorem closing?_inQuotes {items : List (List Char)} (h : ∀ i ∈ items, InQuotes i)
    (tail : List Char) :
    closing? 0 none ('(' :: [',', ' '].intercalate items ++ ')' :: tail) =
      some ([',', ' '].intercalate items).length.succ := by
  have hopen : ∀ cs, closing? 0 none ('(' :: cs) = (closing? 1 none cs).map (· + 1) := fun _ => rfl
  have hlist : closing? 1 none ([',', ' '].intercalate items ++ ')' :: tail) =
      (closing? 1 none (')' :: tail)).map (· + ([',', ' '].intercalate items).length) :=
    closing?_joined (by simp; rfl) 1 (fun i hi => (h i hi).closing? 1) (')' :: tail)
  have hclose : closing? 1 none (')' :: tail) = some 0 := rfl
  rw [List.cons_append, hopen, hlist, hclose]
  simp

end SchemaChart.Text

namespace SchemaChart.Export

open Schema (TableRef)
open Text

section

variable {d : Dialect} (hd : d ≠ .sqlServer)

include hd

theorem quoteIdentifier_straight (s : String) :
    ∃ q, plainQuote q = some q ∧ identifierQuotes d = (q, q) ∧
      (quoteIdentifier d s).toList = q :: double q s.toList ++ [q] := by
  obtain ⟨q, hquotes, hq⟩ := identifierQuotes_straight hd
  exact ⟨q, hq, hquotes, by simp [quoteIdentifier, hquotes]⟩

theorem quotePair_straight {q : Char} (hq : identifierQuotes d = (q, q)) :
    Pattern.QuotePair q q := by
  cases d with
  | sqlServer => exact absurd rfl hd
  | _ =>
    obtain ⟨rfl, -⟩ := Prod.mk.inj hq
    decide

theorem unquoteIdentifier_quoteIdentifier (s : String) :
    unquoteIdentifier (quoteIdentifier d s).toList = s.toList := by
  obtain ⟨q, -, hquotes, htext⟩ := quoteIdentifier_straight hd s
  rw [htext]
  exact unquoteIdentifier_doubled (quotePair_straight hd hquotes)

/-- The first quotes that a source knows are those that its dialect writes. -/
theorem unquote_quoteIdentifier {source : Source} (hsource : Source.ofDialect? d = some source)
    (s : String) : source.unquote (quoteIdentifier d s).toList = s.toList := by
  obtain ⟨q, -, hquotes, htext⟩ := quoteIdentifier_straight hd s
  have hfirst : ∃ more, source.quotePairs = (q, q) :: more := by
    cases d with
    | sqlServer => exact absurd rfl hd
    | postgresql | mysql | mariadb | sqlite =>
      cases hsource
      obtain ⟨rfl, -⟩ := Prod.mk.inj hquotes
      exact ⟨_, rfl⟩
    | _ => cases hsource
  obtain ⟨more, hmore⟩ := hfirst
  have htrim : trim (q :: double q s.toList ++ [q]) = q :: double q s.toList ++ [q] :=
    (trimmed_quoted (quotePair_straight hd hquotes)).trim_eq
  rw [Source.unquote, htext, htrim, hmore, List.findSome?_cons]
  dsimp only
  rw [unquoteWith?_doubled]
  rfl

/-- However a name is written, no scan for dots cuts it, and it is read as it was. -/
theorem ident_read (name : String) (always : Bool) :
    Grouping.names.Passes (· == '.') (Quoting.ident ⟨d, always⟩ name).toList ∧
      Trimmed (Quoting.ident ⟨d, always⟩ name).toList ∧
      unquoteIdentifier (Quoting.ident ⟨d, always⟩ name).toList = name.toList := by
  unfold Quoting.ident
  split
  · obtain ⟨q, -, hquotes, htext⟩ := quoteIdentifier_straight hd name
    have hpair := quotePair_straight hd hquotes
    refine ⟨?_, ?_, unquoteIdentifier_quoteIdentifier hd name⟩
    · rw [htext]
      exact Grouping.passes_doubled (names_opens hpair) _ _
    · rw [htext]
      exact trimmed_quoted hpair
  · rename_i hbare
    have hbare := bare_of_needsQuotes (Bool.or_eq_false_iff.mp (Bool.not_eq_true _ ▸ hbare)).2
    exact ⟨hbare.passes_names, hbare.trimmed, hbare.unquoteIdentifier_eq⟩

theorem splitQualified_idents {names : List String} (hne : names ≠ [])
    (hnames : ∀ n ∈ names, n ≠ "") (always : Bool) :
    splitQualified (['.'].intercalate (names.map fun n => (Quoting.ident ⟨d, always⟩ n).toList)) =
      names.map String.toList := by
  rw [splitQualified_parts (by simpa using hne), List.map_map]
  · exact List.map_congr_left fun n _ => (ident_read hd n always).2.2
  · refine List.forall_mem_map.mpr fun n hn => ?_
    obtain ⟨hpasses, htrimmed, hread⟩ := ident_read hd n always
    exact ⟨hpasses, htrimmed, by rw [hread]; simpa using hnames n hn⟩

/-- A table is found under the name that it is written with. -/
theorem parse_qualified {name : String} (hname : name ≠ "") {schema : Option String}
    (hschema : schema ≠ some "") (always : Bool) :
    TableRef.parse (Quoting.qualified ⟨d, always⟩ schema name).toList = ⟨name, schema⟩ := by
  cases schema with
  | none =>
    have hsplit : splitQualified (Quoting.ident ⟨d, always⟩ name).toList = [name.toList] := by
      have hone := splitQualified_idents hd (List.cons_ne_nil name []) (by simpa using hname) always
      simpa using hone
    simp [TableRef.parse, Quoting.qualified, hsplit]
  | some s =>
    have hs : s ≠ "" := fun h => hschema (congrArg some h)
    have hempty : s.isEmpty = false := by simpa [String.isEmpty_iff] using hs
    have hsplit : splitQualified ((Quoting.ident ⟨d, always⟩ s).toList ++
        '.' :: (Quoting.ident ⟨d, always⟩ name).toList) = [s.toList, name.toList] := by
      have htwo := splitQualified_idents hd (List.cons_ne_nil s [name])
        (by simpa using ⟨hs, hname⟩) always
      simpa [List.intercalate_cons_cons] using htwo
    simp [TableRef.parse, Quoting.qualified, hempty, hsplit]

end

theorem inQuotes_quoteLiteral (s : String) : InQuotes (quoteLiteral s).toList :=
  ⟨'\'', s.toList, rfl, quoteLiteral_toList s⟩

/-- In every dialect but SQL Server, quotes keep all of what they hold. A quoted name and a string
literal are unquoted to what they were made from. A table with its schema, quoted throughout or
only where need be, is read as that table in that schema. And in a list of quoted names and
literals the commas between the items are all that cuts, and the parenthesis behind the list is
the one that closes the one before it. -/
theorem quotes_keep_what_they_hold {d : Dialect} (hd : d ≠ .sqlServer) :
    (∀ s : String,
      unquoteIdentifier (quoteIdentifier d s).toList = s.toList ∧
      (∀ source, Source.ofDialect? d = some source →
        source.unquote (quoteIdentifier d s).toList = s.toList) ∧
      unquoteLiteral? (quoteLiteral s).toList = some s.toList) ∧
    (∀ (always : Bool) (schema : Option String) (name : String), name ≠ "" → schema ≠ some "" →
      TableRef.parse (Quoting.qualified ⟨d, always⟩ schema name).toList = ⟨name, schema⟩) ∧
    ∀ (items : List String) (tail : String),
      (∀ i ∈ items, (∃ s, i = quoteIdentifier d s) ∨ ∃ s, i = quoteLiteral s) →
      splitTopLevel ',' (", ".intercalate items).toList = items.map String.toList ∧
      closingParen? ("(" ++ ", ".intercalate items ++ ")" ++ tail) 0 =
        some ("(" ++ ", ".intercalate items).utf8ByteSize := by
  refine ⟨fun s => ⟨unquoteIdentifier_quoteIdentifier hd s, ?_, ?_⟩, ?_, ?_⟩
  · intro source hsource
    exact unquote_quoteIdentifier hd hsource s
  · rw [quoteLiteral_toList, unquoteLiteral?_literal]
  · intro always schema name hname hschema
    exact parse_qualified hd hname hschema always
  · intro items tail hitems
    have hquotes : ∀ cs ∈ items.map String.toList, InQuotes cs := by
      refine List.forall_mem_map.mpr fun i hi => ?_
      rcases hitems i hi with ⟨s, rfl⟩ | ⟨s, rfl⟩
      · obtain ⟨q, hq, -, htext⟩ := quoteIdentifier_straight hd s
        exact ⟨q, s.toList, hq, htext⟩
      · exact inQuotes_quoteLiteral s
    have hlist : (", ".intercalate items).toList =
        [',', ' '].intercalate (items.map String.toList) := String.toList_intercalate
    refine ⟨by rw [hlist, splitTopLevel_inQuotes hquotes], ?_⟩
    have htext : ("(" ++ ", ".intercalate items ++ ")" ++ tail).toList =
        '(' :: (", ".intercalate items).toList ++ ')' :: tail.toList := by simp
    have hstart : ∀ cs, fromByte 0 0 ('(' :: cs) = (0, '(' :: cs) := fun _ => rfl
    unfold closingParen?
    rw [htext, List.cons_append, hstart, ← byteSize_toList]
    dsimp only
    rw [← List.cons_append, hlist, closing?_inQuotes hquotes]
    simp [hlist]

/-- Quotes, dots, commas and parentheses in what is quoted, of the dialect's own kind and of
others. -/
theorem quotes_keep_quotes_and_brackets :
    Dialect.mysql ≠ .sqlServer ∧
    Quoting.qualified ⟨.mysql, false⟩ (some "sales") "a`.[b" = "sales.`a``.[b`" ∧
    TableRef.parse "sales.`a``.[b`".toList = ⟨"a`.[b", some "sales"⟩ ∧
    splitTopLevel ',' "`a`` , (`, 'it''s ), \"'".toList =
      ["`a`` , (`".toList, "'it''s ), \"'".toList] ∧
    closingParen? "(`a`` , (`, 'it''s ), \"')) é" 0 = some 24 := by
  have hd : Dialect.mysql ≠ .sqlServer := by decide
  have hkept := quotes_keep_what_they_hold hd
  have hname := hkept.2.1 false (some "sales") "a`.[b" (by decide) (by decide)
  have hlist := hkept.2.2 [quoteIdentifier .mysql "a` , (", quoteLiteral "it's ), \""] ") é"
    (by simp)
  exact ⟨hd, by decide +kernel, hname, hlist.1, hlist.2⟩

end SchemaChart.Export
