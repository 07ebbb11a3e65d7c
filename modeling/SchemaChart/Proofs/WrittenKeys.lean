-- Primary keys as scripts write them in a line of their own: such a line is no column, and is read
-- back with the name of the key and its columns in order.
import SchemaChart.Proofs.WrittenColumns

namespace SchemaChart.Text

/-- What holds of the characters of the parts and of what separates them holds of all. -/
theorem all_intercalate {p : Char → Prop} {between : List Char} (hbetween : ∀ c ∈ between, p c)
    {parts : List (List Char)} (h : ∀ w ∈ parts, ∀ c ∈ w, p c) :
    ∀ c ∈ between.intercalate parts, p c := by
  induction parts with
  | nil => exact fun c hc => absurd hc (by simp)
  | cons w parts ih =>
    have hw := h w List.mem_cons_self
    cases parts with
    | nil => rwa [List.intercalate_singleton]
    | cons v parts =>
      have hrest := ih fun u hu => h u (List.mem_cons_of_mem w hu)
      intro c hc
      rw [List.intercalate_cons_cons, List.mem_append, List.mem_append] at hc
      rcases hc with (hc | hc) | hc
      · exact hw c hc
      · exact hbetween c hc
      · exact hrest c hc

theorem Closed.intercalate {sep : Char → Bool} {pad : List Char} (hpad : Closed sep pad)
    {parts : List (List Char)} (h : ∀ p ∈ parts, Closed sep p) :
    Closed sep (pad.intercalate parts) := by
  induction parts with
  | nil => exact .nil
  | cons p ps ih =>
    have hp := h p List.mem_cons_self
    have ih := ih fun q hq => h q (List.mem_cons_of_mem p hq)
    cases ps with
    | nil => rwa [List.intercalate_singleton]
    | cons q qs =>
      rw [List.intercalate_cons_cons]
      exact (hp.append hpad).append ih

theorem closed_unwords {sep : Char → Bool} (hsep : sep ' ' = false) {ws : List (List Char)}
    (h : ∀ w ∈ ws, Closed sep w) : Closed sep (unwords ws) :=
  Closed.intercalate (.char (by decide) hsep .nil) h

theorem cutAt?_eq_some {part cs before rest : List Char}
    (h : cutAt? part cs = some (before, rest)) : cs = before ++ rest ∧ part <+: rest := by
  induction cs generalizing before with
  | nil =>
    rw [cutAt?] at h
    split at h
    · next hpart =>
      cases h
      exact ⟨rfl, List.isEmpty_iff.mp hpart ▸ List.prefix_refl []⟩
    · cases h
  | cons c cs ih =>
    rw [cutAt?] at h
    split at h
    · next hpart =>
      cases h
      exact ⟨rfl, List.isPrefixOf_iff_prefix.mp hpart⟩
    · obtain ⟨p, hp, heq⟩ := Option.map_eq_some_iff.mp h
      cases heq
      obtain ⟨hcs, hpart⟩ := ih hp
      exact ⟨by rw [hcs, List.cons_append], hpart⟩

theorem cutAt?_paren {before : List Char} (h : '(' ∉ before) (rest : List Char) :
    cutAt? ['('] (before ++ '(' :: rest) = some (before, '(' :: rest) := by
  induction before with
  | nil => rfl
  | cons c cs ih =>
    have hc : ('(' == c) = false := by
      simpa using fun hp : '(' = c => h (hp ▸ List.mem_cons_self)
    rw [List.cons_append, cutAt?, List.isPrefixOf_cons_cons, hc,
      ih fun hp => h (List.mem_cons_of_mem c hp)]
    rfl

/-- The first group of a text is a closed text in parentheses, if none stands before it. -/
theorem firstGroup?_closed {sep : Char → Bool} {before inside : List Char} (hb : '(' ∉ before)
    (hi : Closed sep inside) (after : List Char) :
    firstGroup? (before ++ ('(' :: inside ++ ')' :: after)) = some (before, inside, after) := by
  rw [firstGroup?, List.cons_append, cutAt?_paren hb]
  simp only [List.drop_succ_cons, List.drop_zero, splitGroup?_closed hi, Option.map_some]

theorem dropHead?_eq_some_iff {head cs rest : List Char} :
    dropHead? head cs = some rest ↔ cs = head ++ rest := by
  induction head generalizing cs with
  | nil => simp [dropHead?]
  | cons h hs ih =>
    cases cs with
    | nil => simp [dropHead?]
    | cons c cs =>
      rw [dropHead?, List.cons_append, List.cons.injEq, ← ih, eq_comm (a := c)]
      by_cases hc : h = c
      · simp [hc]
      · simp [hc]

theorem dropHead?_append (h cs : List Char) : dropHead? h (h ++ cs) = some cs :=
  dropHead?_eq_some_iff.mpr rfl

theorem dropTail?_eq_some_iff {tail cs before : List Char} :
    dropTail? tail cs = some before ↔ cs = before ++ tail := by
  rw [dropTail?, Option.map_eq_some_iff]
  constructor
  · rintro ⟨rest, hrest, rfl⟩
    rw [dropHead?_eq_some_iff] at hrest
    rw [← List.reverse_reverse cs, hrest, List.reverse_append, List.reverse_reverse]
  · rintro rfl
    exact ⟨before.reverse, by rw [dropHead?_eq_some_iff, List.reverse_append],
      List.reverse_reverse before⟩

end SchemaChart.Text

namespace SchemaChart.Export

open Text
open Diagram (Field)

/-! ## The columns of a key -/

/-- Quoted names between commas. -/
def quotedList (s : Source) (names : List String) : List Char :=
  [',', ' '].intercalate (names.map fun n => quoted s n.toList)

/-- The words before the columns of a key. -/
def keyWords : List Char := ['P', 'R', 'I', 'M', 'A', 'R', 'Y', ' ', 'K', 'E', 'Y', ' ']

/-- The word before the name of a key. -/
def constraintWord : List Char := ['C', 'O', 'N', 'S', 'T', 'R', 'A', 'I', 'N', 'T']

/-- The key of a table in a line of its own, without a name. -/
def keyText (s : Source) (names : List String) : List Char :=
  keyWords ++ ('(' :: quotedList s names ++ [')'])

theorem columns_toList (s : Source) {names : List String} (h : ∀ n ∈ names, Bare n.toList) :
    (Quoting.columns ⟨s.dialect, true⟩ names).toList = quotedList s names := by
  rw [Quoting.columns, String.toList_intercalate, List.map_map, quotedList]
  exact congrArg _ (List.map_congr_left fun n hn => quoteIdentifier_toList s (h n hn))

open Pattern in
/-- A bare name carries no length. -/
theorem prefixedColumn_find? {name : List Char} (h : Bare name) :
    Reading.prefixedColumn.find? name = none := by
  have hanchored : Anchored Reading.prefixedColumn :=
    Anchored.textStart.seq.seq.seq.seq.seq.seq.seq.seq
  have hparen : '(' ∉ name := fun hmem => absurd (h.plain '(' hmem) (by decide)
  exact hanchored.find?_eq_none (Fails.needs rfl hparen).seq.seq.seq.seq.seq

/-- The columns of a key are read back. -/
theorem keyColumns_quotedList (s : Source) {names : List String} (hne : names ≠ [])
    (h : ∀ n ∈ names, Bare n.toList) : Reading.keyColumns (quotedList s names) = names := by
  have htexts : quotedList s names
      = [',', ' '].intercalate ((names.map String.toList).map fun n => quoted s n) := by
    rw [quotedList, List.map_map]
    rfl
  have hsplit : splitIdentifiers (quotedList s names) = names.map String.toList := by
    rw [htexts]
    exact splitIdentifiers_quoted (quotePair s) (by simpa using h) (by simpa using hne)
  rw [Reading.keyColumns, hsplit, List.map_map, List.map_congr_left (g := id), List.map_id]
  intro n hn
  simp [prefixedColumn_find? (h n hn)]

theorem quotedList_closed (s : Source) {names : List String} (h : ∀ n ∈ names, Bare n.toList) :
    Closed (fun _ => false) (quotedList s names) := by
  refine Closed.intercalate (Closed.of_all (by decide)) fun p hp => ?_
  obtain ⟨n, hn, rfl⟩ := List.mem_map.mp hp
  exact (quoted_closed s (h n hn)).inside

theorem keyText_closed (s : Source) {names : List String} (h : ∀ n ∈ names, Bare n.toList) :
    Closed (· == ',') (keyText s names) := by
  have hkey : Closed (· == ',') keyWords := Closed.of_all (by decide)
  exact hkey.append (.group (quotedList_closed s h) .nil)

theorem keyText_trimmed (s : Source) (names : List String) : Trimmed (keyText s names) := by
  have hgroup : Trimmed ('(' :: quotedList s names ++ [')']) :=
    ⟨⟨'(', rfl, by decide⟩, ')', List.getLast?_concat, by decide⟩
  have hfirst : Trimmed ['P'] := ⟨⟨'P', rfl, by decide⟩, 'P', rfl, by decide⟩
  exact hfirst.append keyWords.tail hgroup

/-- The key is read back with its columns. -/
theorem primaryKey?_keyText (s : Source) (name : Option String) {names : List String}
    (hne : names ≠ []) (h : ∀ n ∈ names, Bare n.toList) :
    Reading.primaryKey? name (keyText s names) = some (.primaryKey name names) := by
  have hgroup : firstGroup? (keyText s names)
      = some (keyWords, quotedList s names, []) :=
    firstGroup?_closed (by decide) (quotedList_closed s h) []
  rw [Reading.primaryKey?, hgroup]
  simp [keyColumns_quotedList s hne h]

open Pattern in
/-- A key without a name has none. -/
theorem namedConstraint_keyText (s : Source) (names : List String) :
    Reading.namedConstraint.find? (keyText s names) = none := by
  have hanchored : Anchored Reading.namedConstraint :=
    Anchored.textStart.seq.seq.seq.seq.seq.seq
  have hword : Fails (phrase "CONSTRAINT ") (keyText s names) := Fails.phrase rfl
  have hgap : Fails (gap ++ phrase "CONSTRAINT ") (keyText s names) :=
    Fails.gap_seq hword fun c hc => Option.some.inj hc ▸ rfl
  exact hanchored.find?_eq_none hgap.textStart_seq.assoc.seq.seq.seq.seq

open Pattern in
/-- A constraint with a name is found with it, and with what stands behind the name. -/
theorem namedConstraint_named (s : Source) {name : List Char} (hname : Bare name)
    {text : List Char} (htext : ∀ c ∈ text.head?, isBlank c = false) :
    ∃ f, Reading.namedConstraint.find?
        (constraintWord ++ [' '] ++ (quoted s name ++ ' ' :: text)) = some f ∧
      f.group "name" = quoted s name ∧ f.group "rest" = text := by
  have hq := quotePair s
  have hstart : TakesFirst (textStart ++ gap) []
      (constraintWord ++ [' '] ++ (quoted s name ++ ' ' :: text)) [] :=
    TakesFirst.start fun c hc => Option.some.inj hc ▸ rfl
  have hword : Takes (phrase "CONSTRAINT ") (constraintWord ++ [' '])
      (quoted s name ++ ' ' :: text) [] :=
    Takes.phrase rfl (by decide) fun _ c hc =>
      Option.some.inj hc ▸ (isBlank_quote hq).1
  have hident : Takes (group "name" identifier) (quoted s name) ([' '] ++ (text ++ []))
      [("name", quoted s name)] :=
    Takes.group "name" (Takes.identifier hq hname.1 (hname.close_not_mem hq) (by simp))
  have hspace : Takes blanks [' '] (text ++ []) [] := Takes.space (by simpa using htext)
  have hrest : Takes (group "rest" rest) text [] [("rest", text)] :=
    Takes.group "rest" (Takes.run (by simp) (by simp))
  rw [← List.append_nil text] at hstart hword
  have hfind := (((((hstart.seq hword).seq hident).seq hspace).seq hrest).seq Takes.textEnd).find?
  simp only [List.nil_append, List.append_nil, List.append_assoc, List.singleton_append] at hfind
  exact ⟨_, hfind, rfl, rfl⟩

/-- The key of a table in a line of its own. -/
def keyLine (s : Source) (name : Option String) (names : List String) : List Char :=
  match name with
  | none => keyText s names
  | some n => constraintWord ++ [' '] ++ (quoted s n.toList ++ ' ' :: keyText s names)

theorem ownLine_toList (s : Source) {name : Option String} (hname : ∀ n ∈ name, Bare n.toList)
    {fields : List Field} (hfields : ∀ n ∈ fields.map (·.name), Bare n.toList) :
    (((KeyLayout.ownLine name fields).line? ⟨s.dialect, true⟩).map String.toList)
      = some (keyLine s name (fields.map (·.name))) := by
  have hcolumns := columns_toList s hfields
  have hkey : ("PRIMARY KEY (" ++ Quoting.columns ⟨s.dialect, true⟩ (fields.map (·.name))
      ++ ")").toList = keyText s (fields.map (·.name)) := by
    rw [String.toList_append, String.toList_append, hcolumns, keyText,
      show "PRIMARY KEY (".toList = keyWords ++ ['('] from rfl,
      List.append_assoc, List.append_assoc]
    rfl
  cases name with
  | none => simp only [KeyLayout.line?, Option.map_some, hkey, keyLine]
  | some n =>
    have hident : (Quoting.ident ⟨s.dialect, true⟩ n).toList = quoted s n.toList :=
      quoteIdentifier_toList s (hname n rfl)
    simp only [KeyLayout.line?, Option.map_some, String.toList_append, hident, keyLine] at hkey ⊢
    rw [hkey]
    simp only [List.append_assoc]
    rfl

theorem keyLine_closed (s : Source) {name : Option String} (hname : ∀ n ∈ name, Bare n.toList)
    {names : List String} (h : ∀ n ∈ names, Bare n.toList) :
    Closed (· == ',') (keyLine s name names) ∧ Trimmed (keyLine s name names) := by
  cases name with
  | none => exact ⟨keyText_closed s h, keyText_trimmed s names⟩
  | some n =>
    have hword : Closed (· == ',') (constraintWord ++ [' ']) := Closed.of_all (by decide)
    have hspace : Closed (· == ',') [' '] := Closed.of_all (by decide)
    have hquoted := (quoted_closed s (hname n rfl)).elements
    have hend := hspace.append (keyText_closed s h)
    have hfirst : Trimmed ['C'] := ⟨⟨'C', rfl, by decide⟩, 'C', rfl, by decide⟩
    have hlast : Trimmed (quoted s n.toList ++ ' ' :: keyText s names) :=
      (trimmed_quoted (quotePair s)).append [' '] (keyText_trimmed s names)
    exact ⟨hword.append (hquoted.append hend), hfirst.append (constraintWord.tail ++ [' ']) hlast⟩

/-- An element that starts with a key word of constraints is a constraint. -/
theorem isConstraint_of_word {word : String}
    (hword : word ∈ ["CONSTRAINT", "PRIMARY", "FOREIGN", "CHECK", "EXCLUDE"]) {cs rest : List Char}
    (hcs : Trimmed cs) (hupper : upper cs = word.toList ++ ' ' :: rest) :
    Reading.isConstraint cs = true := by
  have htrim : trimStart cs = cs := dropWhile_isBlank hcs.1
  have hstarts : Reading.startsWithWord (upper cs) word = true := by
    rw [Reading.startsWithWord, hupper, dropHead?_append]
    rfl
  rw [Reading.isConstraint, htrim]
  simp only [Bool.or_eq_true, List.any_eq_true]
  exact .inl (.inl ⟨word, hword, hstarts⟩)

theorem isConstraint_named {text : List Char} (h : Trimmed (constraintWord ++ [' '] ++ text)) :
    Reading.isConstraint (constraintWord ++ [' '] ++ text) = true := by
  have hword : upper (constraintWord ++ [' ']) = "CONSTRAINT".toList ++ [' '] := rfl
  have hupper : upper (constraintWord ++ [' '] ++ text)
      = "CONSTRAINT".toList ++ ' ' :: upper text := by
    rw [upper_append, hword, List.append_assoc, List.singleton_append]
  exact isConstraint_of_word (by decide) h hupper

theorem upper_keyText (s : Source) (names : List String) :
    ∃ rest, upper (keyText s names) = "PRIMARY".toList ++ ' ' :: rest := by
  refine ⟨['K', 'E', 'Y', ' '] ++ upper ('(' :: quotedList s names ++ [')']), ?_⟩
  have hwords : upper keyWords = "PRIMARY".toList ++ ' ' :: ['K', 'E', 'Y', ' '] := rfl
  rw [keyText, upper_append, hwords, List.append_assoc, List.cons_append]

theorem isConstraint_keyLine (s : Source) {name : Option String}
    (hname : ∀ n ∈ name, Bare n.toList) {names : List String} (h : ∀ n ∈ names, Bare n.toList) :
    Reading.isConstraint (keyLine s name names) = true := by
  have htrimmed := (keyLine_closed s hname h).2
  cases name with
  | none =>
    obtain ⟨rest, hrest⟩ := upper_keyText s names
    exact isConstraint_of_word (by decide) htrimmed hrest
  | some n => exact isConstraint_named htrimmed

/-- The line of the key is read back as the key, with its name and its columns. -/
theorem constraint?_keyLine (s : Source) {name : Option String}
    (hname : ∀ n ∈ name, Bare n.toList) {names : List String} (hne : names ≠ [])
    (h : ∀ n ∈ names, Bare n.toList) :
    Reading.constraint? (keyLine s name names) = some (.primaryKey name names) := by
  have hprimary : startsWith (upper (keyText s names)) "PRIMARY" = true := by
    obtain ⟨rest, hrest⟩ := upper_keyText s names
    rw [startsWith, hrest, dropHead?_append]
    rfl
  cases name with
  | none =>
    simp only [Reading.constraint?, keyLine, namedConstraint_keyText,
      (keyText_trimmed s names).trim_eq, hprimary, ↓reduceIte]
    exact primaryKey?_keyText s none hne h
  | some n =>
    have hn := hname n rfl
    have hhead : ∀ c ∈ (keyText s names).head?, isBlank c = false :=
      fun c hc => Option.some.inj hc ▸ rfl
    obtain ⟨f, hfind, hfname, hfrest⟩ := namedConstraint_named s hn hhead
    have hunquote : unquoteIdentifier (quoted s n.toList) = n.toList :=
      hn.unquoteIdentifier_quoted (quotePair s)
    simp only [Reading.constraint?, keyLine, hfind, hfname, hfrest, hunquote, hprimary, ↓reduceIte,
      String.ofList_toList]
    exact primaryKey?_keyText s (some n) hne h

end SchemaChart.Export
