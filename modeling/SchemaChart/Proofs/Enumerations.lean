-- Enumerations in writing. PostgreSQL creates an enumeration under its name, and MySQL writes the
-- labels into the type of a column. Whatever characters the name, the schema and the labels have,
-- both texts give them back.
import SchemaChart.Export.Script
import SchemaChart.Import.Convert
import SchemaChart.Proofs.Declarations
import SchemaChart.Proofs.Literals
import SchemaChart.Proofs.WrittenKeys

namespace SchemaChart.Text

/-! ## Names in quotes -/

/-- A name in quotes: a quote in it is doubled. -/
def quotedName (name : List Char) : List Char := '"' :: double '"' name ++ ['"']

theorem trimmed_quotedName (name : List Char) : Trimmed (quotedName name) :=
  trimmed_quoted (by decide)

theorem unquoteIdentifier_quotedName (name : List Char) :
    unquoteIdentifier (quotedName name) = name :=
  unquoteIdentifier_doubled (by decide)

theorem passes_quotedName (name : List Char) :
    Grouping.names.Passes (· == '.') (quotedName name) :=
  Grouping.passes_doubled rfl _ name

/-- Names in quotes, with dots between them. -/
def quotedNames (names : List (List Char)) : List Char := ['.'].intercalate (names.map quotedName)

theorem quotedNames_singleton (name : List Char) : quotedNames [name] = quotedName name :=
  List.intercalate_singleton

theorem quotedNames_cons (name : List Char) {names : List (List Char)} (h : names ≠ []) :
    quotedNames (name :: names) = quotedName name ++ '.' :: quotedNames names := by
  obtain ⟨next, rest, rfl⟩ := List.exists_cons_of_ne_nil h
  rw [quotedNames, List.map_cons, List.map_cons, List.intercalate_cons_cons, List.append_assoc]
  rfl

/-- Names in quotes are split where they were joined, whatever dots and quotes they hold. -/
theorem splitQualified_quotedNames {names : List (List Char)} (h : names ≠ [])
    (hnames : ∀ n ∈ names, n ≠ []) : splitQualified (quotedNames names) = names := by
  have hunquoted : (names.map quotedName).map unquoteIdentifier = names := by
    rw [List.map_map]
    exact List.map_id'' unquoteIdentifier_quotedName names
  rw [quotedNames, splitQualified_parts (by simpa using h), hunquoted]
  refine List.forall_mem_map.mpr fun n hn => ⟨passes_quotedName n, trimmed_quotedName n, ?_⟩
  rw [unquoteIdentifier_quotedName]
  exact hnames n hn

end SchemaChart.Text

namespace SchemaChart.Export

open Text
open Pattern (Fails Takes TakesFirst)

/-! ## Creating an enumeration -/

/-- The name of a type in quotes, with its schema before it. -/
def typeName (schema : Option String) (name : String) : List Char :=
  match schema with
  | none => quotedName name.toList
  | some s => quotedName s.toList ++ '.' :: quotedName name.toList

theorem quoteIdentifier_postgresql (s : String) :
    (quoteIdentifier .postgresql s).toList = quotedName s.toList := by
  simp [quoteIdentifier, identifierQuotes, quotedName]

variable {schema : Option String} {name : String} {rest : List Char}

theorem qualified_toList (hschema : schema ≠ some "") :
    (Quoting.qualified ⟨.postgresql, true⟩ schema name).toList = typeName schema name := by
  cases schema with
  | none => exact quoteIdentifier_postgresql name
  | some s =>
    have hs : s.isEmpty = false := by
      rw [← Bool.not_eq_true, String.isEmpty_iff]
      rintro rfl
      exact hschema rfl
    simp [Quoting.qualified, Quoting.ident, hs, quoteIdentifier_postgresql, typeName]

theorem typeName_head (schema : Option String) (name : String) (rest : List Char) :
    (typeName schema name ++ rest).head? = some '"' := by
  cases schema <;> rfl

theorem typeName_eq (schema : Option String) (name : String) :
    typeName schema name = quotedNames ((schema.map String.toList).toList ++ [name.toList]) := by
  cases schema with
  | none => exact (quotedNames_singleton name.toList).symm
  | some s =>
    rw [Option.map_some, Option.toList_some, List.singleton_append,
      quotedNames_cons s.toList (by simp), quotedNames_singleton]
    rfl

theorem parse_typeName (hname : name ≠ "") (hschema : schema ≠ some "") :
    Schema.TableRef.parse (typeName schema name) = ⟨name, schema⟩ := by
  have hparts : ∀ n ∈ (schema.map String.toList).toList ++ [name.toList], n ≠ [] := by
    cases schema with
    | none => simpa using hname
    | some s => simpa using ⟨by simpa using hschema, hname⟩
  rw [Schema.TableRef.parse, typeName_eq, splitQualified_quotedNames (by simp) hparts]
  cases schema <;> simp

theorem typeName_takes (hname : name ≠ "") (hschema : schema ≠ some "") {next : Char}
    (hblank : isBlank next = false) (hnext : next ≠ '.') (rest : List Char) :
    Takes Pattern.qualifiedName (typeName schema name) (' ' :: next :: rest) [] := by
  have hne : name.toList ≠ [] := by simpa using hname
  have hident : Takes Pattern.identifier (quotedName name.toList) (' ' :: next :: rest) [] :=
    Pattern.takes_doubled hne (by simp)
  have hdot : Fails (Pattern.gap ++ Pattern.lit ".") (' ' :: next :: rest) :=
    Fails.space_seq (Fails.char "." '.' rfl (by simp))
      (Fails.char "." '.' rfl (by simpa using hnext)) (by simpa using hblank)
  cases schema with
  | none => exact Takes.name hident hdot
  | some s =>
    have hs : s.toList ≠ [] := by simpa using hschema
    refine Takes.dottedName ?_ hident (fun c hc => Option.some.inj hc ▸ rfl) hdot
    exact Pattern.takes_doubled hs (by simp)

/-- The key words between the name of an enumeration and its labels. -/
def asEnum (rest : List Char) : List Char :=
  " AS".toList ++ ([' '] ++ ("ENUM".toList ++ [' '] ++ (['('] ++ rest)))

open Pattern in
/-- The head of an enumeration is found with its name, and its labels stand behind it. -/
theorem typeHead_find? {w : List Char} (hname : Takes qualifiedName w (asEnum rest) [])
    (hblank : ∀ c ∈ (w ++ asEnum rest).head?, isBlank c = false) :
    ∃ f, Reading.typeHead.find? ("CREATE TYPE ".toList ++ (w ++ asEnum rest)) = some f ∧
      f.group "name" = w ∧ (f.group? "enum").isSome = true ∧ f.after = rest := by
  have hstart : TakesFirst (textStart ++ gap) [] ("CREATE TYPE ".toList ++ (w ++ asEnum rest)) [] :=
    TakesFirst.start fun c hc => Option.some.inj hc ▸ rfl
  have hcreate : Takes (phrase "CREATE TYPE ") "CREATE TYPE ".toList (w ++ asEnum rest) [] :=
    Takes.phrase rfl (by decide) fun _ => hblank
  have hgroup := Takes.group "name" hname
  have has : Takes (phrase " AS") " AS".toList
      ([' '] ++ ("ENUM".toList ++ [' '] ++ (['('] ++ rest))) [] :=
    Takes.phrase rfl (by decide) fun h => absurd h (by decide)
  have hgap : Takes gap [' '] ("ENUM".toList ++ [' '] ++ (['('] ++ rest)) [] :=
    Takes.run (by simp [isBlank]) fun c hc => Option.some.inj hc ▸ rfl
  have hword : Takes (phrase "ENUM") "ENUM".toList ([' '] ++ (['('] ++ rest)) [] :=
    Takes.phrase rfl (by decide) fun h => absurd h (by decide)
  have hspace : Takes gap [' '] (['('] ++ rest) [] :=
    Takes.run (by simp [isBlank]) fun c hc => Option.some.inj hc ▸ rfl
  have henum := (Takes.group "enum" (hword.seq hspace)).opt
  have hparen : Takes (lit "(") ['('] rest [] := Takes.char "(" '(' rfl
  have hnamed := ((hstart.seq hcreate).seq hgroup).seq has
  have hfind := (((hnamed.seq hgap).seq henum).seq hparen).find?
  unfold asEnum
  simp only [List.nil_append, List.append_assoc] at hfind ⊢
  exact ⟨_, hfind, rfl, rfl, rfl⟩

/-- Labels as they stand between the parentheses. -/
def labelList (labels : List String) : List Char :=
  [',', ' '].intercalate ((labels.map String.toList).map literal)

theorem labelList_eq (labels : List String) : labelList labels = (literals ", " labels).toList :=
  (literals_toList ", " labels).symm

theorem createType_toList {t : Diagram.CustomType} (hkind : t.kind = .enum)
    (hschema : t.schema ≠ some "") :
    (createType ⟨.postgresql, true⟩ t).toList = "CREATE TYPE ".toList ++
      (typeName t.schema t.name ++ asEnum (labelList (t.values.getD []) ++ [')', ';'])) := by
  unfold createType asEnum
  rw [hkind, labelList_eq, ← qualified_toList hschema]
  simp [String.toList_append]

/-- The enumeration that a type of a diagram is. -/
def enumeration (t : Diagram.CustomType) : Schema.CustomType :=
  { name := t.name, schema := t.schema, kind := .enum, values := t.values.getD [] }

theorem typeDeclaration_createType {t : Diagram.CustomType} (hkind : t.kind = .enum)
    (hname : t.name ≠ "") (hschema : t.schema ≠ some "") :
    Reading.typeDeclaration (createType ⟨.postgresql, true⟩ t).toList =
      .ok (.type (enumeration t)) := by
  have hpad : ∀ c ∈ [' '], isBlank c = true := by simp [isBlank]
  have hlabels : (splitTopLevel ',' (labelList (t.values.getD []))).filterMap
      (fun v => (unquoteLiteral? v).map String.ofList) = t.values.getD [] := by
    rw [labelList_eq]
    exact literals_read rfl hpad _
  have hinside : splitGroup? (labelList (t.values.getD []) ++ [')', ';']) =
      some (labelList (t.values.getD []), [';']) := splitGroup?_literals hpad _ [';']
  obtain ⟨f, hfind, hfname, henum, hafter⟩ := typeHead_find?
    (typeName_takes hname hschema rfl (by decide) _ : Takes Pattern.qualifiedName
      (typeName t.schema t.name) (asEnum (labelList (t.values.getD []) ++ [')', ';'])) [])
    (fun c hc => Option.some.inj ((typeName_head t.schema t.name _).symm.trans hc) ▸ rfl)
  rw [createType_toList hkind hschema, Reading.typeDeclaration, hfind]
  dsimp only
  rw [hafter, hinside]
  dsimp only [Reading.typeOf]
  rw [if_pos henum, hfname, parse_typeName hname hschema, hlabels]
  rfl

theorem addType_new {b : Schema.Builder} {e : Schema.CustomType}
    (hnew : ∀ u ∈ b.types, sameName u.name e.name = true → b.sameSchema u.schema e.schema = false) :
    b.addType e = { b with types := b.types ++ [e] } := by
  unfold Schema.Builder.addType
  rw [if_neg]
  intro hany
  obtain ⟨u, hu, hsame⟩ := List.any_eq_true.mp hany
  rw [Bool.and_eq_true] at hsame
  rw [hnew u hu hsame.1] at hsame
  exact Bool.false_ne_true hsame.2

/-! ## Labels in the type of a column -/

theorem inlineLabels?_enum {labels : List String} (hne : labels ≠ []) :
    Import.inlineLabels? ("enum(" ++ literals "," labels ++ ")").toList = some labels := by
  have hlabels : (splitTopLevel ',' (literals "," labels).toList).filterMap
      (fun v => (unquoteLiteral? v).map String.ofList) = labels := literals_read rfl (by simp) _
  have htext : ("enum(" ++ literals "," labels ++ ")").toList =
      "enum".toList ++ '(' :: ((literals "," labels).toList ++ [')']) := by
    simp [String.toList_append]
  have hword : Schema.normalizeName "enum".toList = "enum".toList := by decide
  have hclose : ((literals "," labels).toList ++ [')']).contains ')' = true := by simp
  have hinside : ((((literals "," labels).toList ++ [')']).reverse.dropWhile (· != ')')).drop
      1).reverse = (literals "," labels).toList := by simp
  unfold Import.inlineLabels?
  rw [htext, cutAt?_paren (by decide)]
  simp only [Option.bind_eq_bind, Option.bind_some, List.drop_succ_cons, List.drop_zero, hclose,
    hword, hinside, hlabels]
  simp [hne]

/-- An enumeration comes back from both of its texts. The statement that creates it for PostgreSQL
is taken in as the same name, schema and labels, behind the other types of a schema that has no such
type; and if there are labels, the type that MySQL has in place of it gives them back, be
it written for a field or by itself. -/
theorem enumerations_come_back_from_both_texts {t : Diagram.CustomType} (hkind : t.kind = .enum)
    (hname : t.name ≠ "") (hschema : t.schema ≠ some "") :
    (∀ b : Schema.Builder, Reading.customType (createType ⟨.postgresql, true⟩ t).toList b =
        .ok () (b.addType (enumeration t))) ∧
      (∀ b : Schema.Builder,
        (∀ u ∈ b.types, sameName u.name t.name = true →
          b.sameSchema u.schema t.schema = false) →
        Reading.customType (createType ⟨.postgresql, true⟩ t).toList b =
          .ok () { b with types := b.types ++ [enumeration t] }) ∧
      (t.values.getD [] ≠ [] → ∀ always,
        Import.inlineLabels? (customTypeText ⟨.mysql, always⟩ t).toList = some (t.values.getD []) ∧
        ∀ types f, customTypeOf? types f = some t → f.isList = false →
          Import.inlineLabels? (typeText ⟨.mysql, always⟩ types f).toList =
            some (t.values.getD [])) := by
  have hread : ∀ b : Schema.Builder,
      Reading.customType (createType ⟨.postgresql, true⟩ t).toList b =
        .ok () (b.addType (enumeration t)) := by
    rw [Reading.customType_eq]
    exact Schema.Writing.declaring_ok (typeDeclaration_createType hkind hname hschema)
  refine ⟨hread, fun b hnew => by rw [hread, addType_new hnew], ?_⟩
  intro hne always
  have htext : customTypeText ⟨.mysql, always⟩ t =
      "enum(" ++ literals "," (t.values.getD []) ++ ")" := by
    unfold customTypeText
    rw [hkind]
  have hlabels : Import.inlineLabels? (customTypeText ⟨.mysql, always⟩ t).toList =
      some (t.values.getD []) := by
    rw [htext]
    exact inlineLabels?_enum hne
  refine ⟨hlabels, fun types f htype hlist => ?_⟩
  rw [typeText, hlist, if_neg Bool.false_ne_true, elementType, htype]
  exact hlabels

/-- An enumeration whose name, schema and labels hold what separates and quotes in scripts. -/
def moods : Diagram.CustomType :=
  { id := "e", name := "a\"b.c", schema := some "(s\".", kind := .enum
    values := some ["it's", "N'", ",", ")", "", ";\n\""] }

/-- A schema with an enumeration of the same name elsewhere. -/
def otherMoods : Schema.Builder :=
  { dialect := .postgresql
    types := [{ name := "A\"B.C", schema := none, kind := .enum, values := ["ok"] }] }

def moodField : Diagram.Field := { id := "f", name := "mood", type := .named "a\"b.c" }

theorem awkward_moods_come_back :
    moods.kind = .enum ∧ moods.name ≠ "" ∧ moods.schema ≠ some "" ∧ moods.values.getD [] ≠ [] ∧
      Reading.customType (createType ⟨.postgresql, true⟩ moods).toList otherMoods =
        .ok () { otherMoods with types := otherMoods.types ++ [enumeration moods] } ∧
      Import.inlineLabels? (customTypeText ⟨.mysql, true⟩ moods).toList =
        some (moods.values.getD []) ∧
      Import.inlineLabels? (typeText ⟨.mysql, true⟩ [moods] moodField).toList =
        some (moods.values.getD []) := by
  have hne : moods.values.getD [] ≠ [] := by decide
  obtain ⟨-, hnew, hlabels⟩ := enumerations_come_back_from_both_texts
    (by decide : moods.kind = .enum) (by decide) (by decide)
  exact ⟨by decide, by decide, by decide, hne, hnew otherMoods (by decide),
    (hlabels hne true).1, (hlabels hne true).2 [moods] moodField (by decide +kernel) rfl⟩

end SchemaChart.Export
