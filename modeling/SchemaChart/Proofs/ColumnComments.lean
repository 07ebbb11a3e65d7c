-- Comments of columns. The literal of a comment is one word to the reader of a definition, which
-- gives the comment back; but the marks of a column are looked for in the whole text of its
-- options, and so in the comment too.
import SchemaChart.Proofs.Literals
import SchemaChart.Proofs.WrittenColumns

namespace SchemaChart.Text

/-! ## Searching behind a text -/

theorem prefix_before {q : Char} {p bs : List Char} (hq : q ∉ p) (as : List Char)
    (h : p <+: as ++ q :: bs) : p <+: as := by
  induction as generalizing p with
  | nil =>
    cases p with
    | nil => exact List.prefix_refl []
    | cons c p => exact absurd (by simp [(List.cons_prefix_cons.mp h).1]) hq
  | cons a as ih =>
    cases p with
    | nil => exact List.nil_prefix
    | cons c p =>
      obtain ⟨hc, hp⟩ := List.cons_prefix_cons.mp h
      exact List.cons_prefix_cons.mpr ⟨hc, ih (fun hm => hq (List.mem_cons_of_mem c hm)) hp⟩

theorem holds_iff {cs : List Char} {part : String} :
    holds cs part = true ↔ part.toList <:+: cs := by
  unfold holds
  induction cs with
  | nil => simp [cutAt?, List.isEmpty_iff]
  | cons c cs ih =>
    rw [cutAt?, List.infix_cons_iff, ← List.isPrefixOf_iff_prefix, ← ih]
    split
    · simp_all
    · simp_all

/-- What has no quote in it stands on one side of every quote. -/
theorem holds_around {q : Char} {part : String} (hq : q ∉ part.toList) (as bs : List Char) :
    holds (as ++ q :: bs) part = (holds as part || holds bs part) := by
  rw [Bool.eq_iff_iff, Bool.or_eq_true, holds_iff, holds_iff, holds_iff]
  constructor
  · intro h
    induction as with
    | nil =>
      rcases List.infix_cons_iff.mp h with h | h
      · exact .inl (prefix_before hq [] h).isInfix
      · exact .inr h
    | cons a as ih =>
      rcases List.infix_cons_iff.mp h with h | h
      · exact .inl (prefix_before hq (a :: as) h).isInfix
      · exact (ih h).imp_left List.infix_cons
  · rintro (h | h)
    · exact h.trans (List.prefix_append as _).isInfix
    · exact h.trans ⟨as ++ [q], [], by simp⟩

theorem words_append {c : Char} (hc : isBlank c = true) (as bs : List Char) :
    words (as ++ c :: bs) = words as ++ words bs := by
  rw [words, pieces_append hc, List.filter_append]
  rfl

namespace Pattern

/-- Does a pattern match only where a word starts or ends and one of these phrases may begin. -/
def Needs (p : Pattern) (phrases : List String) : Prop :=
  ∀ k c, (∀ w ∈ phrases, c.atEdge = false ∨ differ w.toList c.rest = true) → p.go k c = none

section

variable {a b p : Pattern} {ws vs : List String}

theorem Needs.phrase (w : String) : Needs (edge ++ phrase w) [w] := by
  intro k c h
  show (if c.atEdge then go (Pattern.phrase w) k c else none) = none
  split
  · next hedge =>
    rcases h w (List.mem_singleton_self w) with h | h
    · rw [h] at hedge
      cases hedge
    · exact Fails.phrase h k c rfl
  · rfl

theorem Needs.seq (h : Needs a ws) : Needs (a ++ b) ws := fun k c hc => h (go b k) c hc

theorem Needs.alt (ha : Needs a ws) (hb : Needs b vs) : Needs (a <|> b) (ws ++ vs) := by
  intro k c h
  rw [go_alt, ha k c fun w hw => h w (List.mem_append_left vs hw), Option.none_or]
  exact hb k c fun w hw => h w (List.mem_append_right ws hw)

/-- Does none of these phrases begin in a text with `prev` before it, whatever follows the text. -/
def absent (phrases : List String) : Option Char → List Char → Bool
  | _, [] => true
  | prev, d :: ds =>
    phrases.all (fun w => prev.any isWordChar == isWordChar d || differ w.toList (d :: ds))
      && absent phrases (some d) ds

theorem differ_append {ks cs : List Char} (h : differ ks cs = true) (ds : List Char) :
    differ ks (cs ++ ds) = true := by
  induction ks generalizing cs with
  | nil => simp [differ] at h
  | cons k ks ih =>
    cases cs with
    | nil => simp [differ] at h
    | cons c cs =>
      simp only [List.cons_append, differ, Bool.and_eq_true, Bool.or_eq_true] at h ⊢
      exact ⟨h.1, h.2.imp_right ih⟩

/-- A search passes over a text that none of the phrases begins in. -/
theorem findFrom_behind (hp : Needs p ws) {pre : List Char} {prev : Option Char}
    (h : absent ws prev pre = true) (passed cs : List Char) :
    p.findFrom prev passed (pre ++ cs) =
      p.findFrom (pre.getLast?.or prev) (pre.reverse ++ passed) cs := by
  induction pre generalizing prev passed with
  | nil => simp
  | cons d ds ih =>
    simp only [absent, Bool.and_eq_true, List.all_eq_true, Bool.or_eq_true, beq_iff_eq] at h
    have hgo : p.go some ⟨prev, d :: ds ++ cs, 0, []⟩ = none := by
      refine hp some _ fun w hw => ?_
      rcases h.1 w hw with hedge | hdiffer
      · exact .inl (by simp [Cursor.atEdge, hedge])
      · exact .inr (differ_append hdiffer cs)
    rw [findFrom.eq_def, hgo]
    simp only [List.cons_append]
    rw [ih h.2]
    simp [List.getLast?_cons]

/-- What is found behind a text is found without it, if none of the phrases begins in the text or
at the quote behind it. -/
theorem find?_behind {result : Type} (hp : Needs p ws) {pre : List Char} {q : Char}
    (hpre : absent ws none (pre ++ [q]) = true) (hq : absent ws none [q] = true) (cs : List Char)
    {f : Found → result} (hf : ∀ found before, f { found with before := before } = f found) :
    (p.find? (pre ++ q :: cs)).map f = (p.find? (q :: cs)).map f := by
  have hsearch : ∀ pre : List Char, absent ws none (pre ++ [q]) = true →
      (p.find? (pre ++ q :: cs)).map f = (p.findFrom (some q) [] cs).map f := by
    intro pre hpre
    have htext : pre ++ q :: cs = (pre ++ [q]) ++ cs := by simp
    rw [find?, htext, findFrom_behind hp hpre, findFrom_passed, Option.map_map,
      List.getLast?_concat, Option.some_or]
    congr 1
    exact funext fun found => hf found _
  rw [hsearch pre hpre, ← hsearch [] hq]
  rfl

end

end Pattern

end SchemaChart.Text

namespace SchemaChart.Reading

open Text
open Schema (Column Fact)

/-! ## Marks -/

/-- What the text of its options tells about a column, wherever the words stand in it. -/
structure Marks where
  key : Bool
  unique : Bool
  increment : Bool
  onUpdate : Option String
  reference : Option Reference
deriving Repr, DecidableEq

def Marks.read (cs : List Char) : Marks :=
  { key := holds (upper cs) "PRIMARY KEY"
    unique := (words (upper cs)).contains "UNIQUE".toList
    increment := incrementMark.occursIn cs
    onUpdate := updateValue? cs
    reference := reference? cs }

/-- The phrases that the marks begin with. -/
def incrementPhrases : List String :=
  ["AUTO_INCREMENT", "AUTOINCREMENT", "IDENTITY", "GENERATED "]

open Pattern in
theorem incrementMark_needs : Needs incrementMark incrementPhrases :=
  (Needs.phrase _).seq.alt ((Needs.phrase _).seq.alt ((Needs.phrase _).seq.alt
    (Needs.phrase _).seq.seq.seq.seq))

open Pattern in
theorem updateValue_needs : Needs updateValue ["ON UPDATE "] := (Needs.phrase _).seq

open Pattern in
theorem referenceClause_needs : Needs referenceClause ["REFERENCES "] :=
  (Needs.phrase _).seq.seq.seq.seq.seq

/-- What stands before the literal of a comment: the key word, and before it what may be left of the
type. -/
def commentHeads : List (List Char) :=
  Export.typeTails.map fun tail => unwords (tail ++ ["COMMENT".toList])

open Pattern in
theorem commentHeads_unmarked : ∀ head ∈ commentHeads,
    holds (upper head ++ [' ']) "PRIMARY KEY" = false ∧
      (words (upper head)).contains "UNIQUE".toList = false ∧
      ∀ ws ∈ [incrementPhrases, ["ON UPDATE "], ["REFERENCES "]],
        absent ws none (head ++ [' '] ++ ['\'']) = true ∧ absent ws none ['\''] = true := by
  decide +kernel

/-- Nothing before the literal is a mark. -/
theorem Marks.read_behind {head : List Char} (hhead : head ∈ commentHeads) (cs : List Char) :
    Marks.read (head ++ ' ' :: literal cs) = Marks.read (literal cs) := by
  obtain ⟨hkey, hunique, habsent⟩ := commentHeads_unmarked head hhead
  have hquote : ∀ ds, upper ('\'' :: ds) = '\'' :: upper ds := fun _ => rfl
  have hspace : ∀ ds, upper (' ' :: ds) = ' ' :: upper ds := fun _ => rfl
  have hlit : literal cs = '\'' :: (double '\'' cs ++ ['\'']) := rfl
  have htext : head ++ ' ' :: literal cs =
      (head ++ [' ']) ++ '\'' :: (double '\'' cs ++ ['\'']) := by simp [literal]
  have hsearch : ∀ {p : Pattern} {ws : List String} {result : Type} {f : Pattern.Found → result},
      p.Needs ws → ws ∈ [incrementPhrases, ["ON UPDATE "], ["REFERENCES "]] →
      (∀ found before, f { found with before := before } = f found) →
      (p.find? (head ++ ' ' :: literal cs)).map f = (p.find? (literal cs)).map f := by
    intro p ws result f hp hws hf
    rw [htext, hlit]
    exact Pattern.find?_behind hp (habsent ws hws).1 (habsent ws hws).2 _ hf
  have hkeys : holds (upper (head ++ ' ' :: literal cs)) "PRIMARY KEY" =
      holds (upper (literal cs)) "PRIMARY KEY" := by
    have hmark : '\'' ∉ "PRIMARY KEY".toList := by decide
    have hhere := holds_around hmark [] (upper (double '\'' cs ++ ['\'']))
    have hthere := holds_around hmark (upper head ++ [' ']) (upper (double '\'' cs ++ ['\'']))
    rw [hkey] at hthere
    rw [htext, hlit, upper_append, upper_append, hquote]
    exact hthere.trans hhere.symm
  have huniques : (words (upper (head ++ ' ' :: literal cs))).contains "UNIQUE".toList =
      (words (upper (literal cs))).contains "UNIQUE".toList := by
    rw [upper_append, hspace, words_append rfl, List.contains_append, hunique, Bool.false_or]
  have hincrement : incrementMark.occursIn (head ++ ' ' :: literal cs) =
      incrementMark.occursIn (literal cs) := by
    have hfound := hsearch incrementMark_needs (by simp) (f := fun _ => ()) fun _ _ => rfl
    simpa [Pattern.occursIn] using congrArg Option.isSome hfound
  have hupdate : updateValue? (head ++ ' ' :: literal cs) = updateValue? (literal cs) :=
    hsearch updateValue_needs (by simp) fun _ _ => rfl
  have hreference : reference? (head ++ ' ' :: literal cs) = reference? (literal cs) :=
    hsearch referenceClause_needs (by simp) fun _ _ => rfl
  rw [Marks.read, hkeys, huniques, hincrement, hupdate, hreference]
  rfl

/-! ## Types of the catalog -/

/-- The text of a type that the catalog knows: one of its names, with a size behind it if the type
carries one. -/
inductive CatalogText : List Char → Prop
  | name {n : String} : (Catalog.lookup? n).isSome = true → CatalogText n.toList
  | sized {n : String} {t : DataType} {size : List Char} : Catalog.lookup? n = some t →
      Catalog.sizeKind t.id ≠ .none → (∀ c ∈ size, isPlain c = true) →
      CatalogText (n.toList ++ '(' :: size ++ [')'])

/-- Every name that means a type of the catalog, with this type. -/
def catalogEntries : List (String × String) := Catalog.ids.map (fun n => (n, n)) ++ Catalog.synonyms

theorem mem_catalogEntries {n : String} {t : DataType} (h : Catalog.lookup? n = some t) :
    (n, t.id) ∈ catalogEntries := by
  unfold Catalog.lookup? at h
  split at h
  · next hid =>
    obtain rfl := Option.some.inj h
    exact List.mem_append_left _ (List.mem_map.mpr ⟨n, List.contains_iff_mem.mp hid, rfl⟩)
  · obtain ⟨id, hid, rfl⟩ := Option.map_eq_some_iff.mp h
    obtain ⟨before, after, hsplit, -⟩ := List.lookup_eq_some_iff.mp hid
    refine List.mem_append_right _ ?_
    rw [hsplit]
    exact List.mem_append_right before List.mem_cons_self

/-- Does a word stay in the type of a column if the word behind it is no `SET`, and is it none. -/
def staysSized (w : List Char) : Bool :=
  Pattern.differ "IDENTITY".toList (upper w) && !stopWords.contains (String.ofList (upper w))
    && !eqIgnoringCase w "SET".toList

theorem catalogEntries_words : ∀ p ∈ catalogEntries,
    unwords (words p.1.toList) = p.1.toList ∧ words p.1.toList ≠ [] ∧
      (∀ w ∈ words p.1.toList, Export.isPlainWord w = true) ∧
      (splitType (words p.1.toList)).2 ∈ Export.typeTails ∧
      (Catalog.sizeKind p.2 ≠ .none → ∀ w ∈ words p.1.toList, staysSized w = true) := by
  decide +kernel

theorem eqIgnoringCase_paren (w x : List Char) :
    eqIgnoringCase (w ++ '(' :: x) "SET".toList = false := by
  rw [eqIgnoringCase, beq_eq_false_iff_ne]
  intro h
  have hmem : '(' ∈ (w ++ '(' :: x).map Char.toLower :=
    List.mem_map.mpr ⟨'(', by simp, rfl⟩
  rw [h] at hmem
  exact absurd hmem (by decide)

theorem endsType_of_staysSized {w : List Char} (hw : staysSized w = true)
    {next : Option (List Char)} (hnext : ∀ v ∈ next, eqIgnoringCase v "SET".toList = false) :
    endsType w next = false := by
  simp only [staysSized, Bool.and_eq_true, Bool.not_eq_true'] at hw
  have hstart : startsWith (upper w) "IDENTITY" = false := by
    have hdrop := Export.dropHead?_of_differ hw.1.1 []
    rw [List.append_nil] at hdrop
    rw [startsWith, hdrop]
    rfl
  have hset : next.any (eqIgnoringCase · "SET".toList) = false := by
    cases next with
    | none => rfl
    | some v => exact hnext v rfl
  rw [endsType, hstart, hset, hw.1.2, if_neg Bool.false_ne_true, ite_self]

/-- With a size right behind it, a word of a type ends no type. -/
theorem endsType_paren {w : List Char} (hw : staysSized w = true) (x : List Char) :
    endsType (w ++ '(' :: x) none = false := by
  simp only [staysSized, Bool.and_eq_true, Bool.not_eq_true'] at hw
  have hstart : startsWith (upper (w ++ '(' :: x)) "IDENTITY" = false := by
    rw [startsWith, upper_append, Export.dropHead?_of_differ hw.1.1]
    rfl
  obtain ⟨hkeeps, -, hnone⟩ := Export.stopWords_closed (c := '(') (by simp)
  have hmem : '(' ∈ upper (w ++ '(' :: x) := by
    rw [upper_append, upper, upper, List.flatMap_cons, hkeeps]
    simp
  have hstop : stopWords.contains (String.ofList (upper (w ++ '(' :: x))) = false := by
    rw [← Bool.not_eq_true, List.contains_iff_mem]
    exact fun h => hnone _ h (by rwa [String.toList_ofList])
  rw [endsType, hstart, hstop, if_neg Bool.false_ne_true]
  exact ite_self _

/-- A name with a size is a type as a whole. -/
theorem splitType_sized (x : List Char) : ∀ {ws : List (List Char)},
    (∀ w ∈ ws, staysSized w = true) → (splitType (onLast ('(' :: x) ws)).2 = []
  | [], _ => rfl
  | [w], hws => by
    have hw := endsType_paren (hws w (by simp)) x
    simp [onLast, splitType, hw]
  | w :: v :: ws, hws => by
    have hnext : ∀ u ∈ (onLast ('(' :: x) (v :: ws)).head?,
        eqIgnoringCase u "SET".toList = false := by
      intro u hu
      obtain ⟨y, hy, rfl | rfl⟩ := mem_onLast (List.mem_of_mem_head? hu)
      · have hset := hws u (List.mem_cons_of_mem w hy)
        simp only [staysSized, Bool.and_eq_true, Bool.not_eq_true'] at hset
        exact hset.2
      · exact eqIgnoringCase_paren y x
    have hw := endsType_of_staysSized (hws w (by simp)) hnext
    have ih := splitType_sized x fun u hu => hws u (List.mem_cons_of_mem w hu)
    simp only [onLast, splitType, hw, Bool.false_eq_true, ↓reduceIte]
    exact ih

/-- The words of a type: they are closed, and what is left of them among the options is a time
zone or nothing. -/
theorem CatalogText.words {type : List Char} (h : CatalogText type) :
    ∃ ws, type = unwords ws ∧ ws ≠ [] ∧ (∀ w ∈ ws, Closed isBreak w ∧ w ≠ []) ∧
      (splitType ws).2 ∈ Export.typeTails := by
  cases h with
  | @name n hn =>
    obtain ⟨t, ht⟩ := Option.isSome_iff_exists.mp hn
    obtain ⟨htext, hne, hplain, htail, -⟩ := catalogEntries_words _ (mem_catalogEntries ht)
    exact ⟨Text.words n.toList, htext.symm, hne,
      fun w hw => Export.isPlainWord.closed (hplain w hw), htail⟩
  | @sized n t size hn hsize hplain =>
    obtain ⟨htext, hne, hwords, -, hstays⟩ := catalogEntries_words _ (mem_catalogEntries hn)
    have hgroup : Closed isBreak ('(' :: size ++ ')' :: []) :=
      .group (Closed.of_plain fun c hc => ⟨hplain c hc, rfl⟩) .nil
    have htail : (splitType (onLast ('(' :: (size ++ [')'])) (Text.words n.toList))).2 = [] :=
      splitType_sized _ (hstays hsize)
    refine ⟨onLast ('(' :: size ++ [')']) (Text.words n.toList), ?_, onLast_ne_nil _ hne,
      Export.closed_onLast hgroup hwords, ?_⟩
    · rw [unwords_onLast _ hne, htext, List.append_assoc]
    · rw [List.cons_append, htail]
      exact List.mem_cons_self

/-! ## Commented columns -/

/-- The definition of a column with a comment. -/
def commented (name : String) (type : List Char) (comment : String) : List Char :=
  name.toList ++ ' ' :: type ++ " COMMENT ".toList ++ (quoteLiteral comment).toList

/-- The column and the foreign key that these marks make. -/
def described (name type comment : String) (m : Marks) : Column × List Fact :=
  (Source.settle
    { name := name
      type := type
      nullable := !m.key
      primaryKey := m.key
      unique := m.unique
      comment := some comment
      increment := m.increment
      onUpdate := m.onUpdate },
    (m.reference.map (·.fact none [name])).toList)

theorem endsType_comment (w : List Char) :
    endsType w (some "COMMENT".toList) = endsType w none := rfl

/-- The type ends before the comment, wherever it ended without it. -/
theorem splitType_comment (ws rest : List (List Char)) :
    splitType (ws ++ "COMMENT".toList :: rest) =
      ((splitType ws).1, (splitType ws).2 ++ "COMMENT".toList :: rest) := by
  induction ws with
  | nil => rfl
  | cons w ws ih =>
    have hnext : endsType w (ws ++ "COMMENT".toList :: rest).head? = endsType w ws.head? := by
      cases ws with
      | nil => exact endsType_comment w
      | cons v ws => rfl
    rw [List.cons_append, splitType, splitType, hnext, ih]
    split
    · rfl
    · rfl

theorem foldl_typeTail : ∀ tail ∈ Export.typeTails, ∀ c : Column,
    tail.foldl optionStep (c, .plain) = (c, .plain) := by
  intro tail htail c
  simp only [Export.typeTails, List.mem_cons, List.not_mem_nil, or_false] at htail
  rcases htail with rfl | rfl | rfl
  · rfl
  · rfl
  · rfl

/-! ## Names without quotes -/

theorem isNameChar_word {c : Char} (h : isNameChar c = true) : isWordChar c = true := by
  rw [isWordChar, if_pos (isNameChar_ascii h)]
  simp only [isNameChar, Bool.or_eq_true] at h
  rcases h with (h | h) | h
  · have halpha : c.isAlpha = (c.isUpper || c.isLower) := rfl
    simp [Char.isAlphanum, halpha, h]
  · simp [h]
  · simp [Char.isAlphanum, h]

theorem bare_head_ne {c : Char} {cs : List Char} (h : Bare (c :: cs)) {q : Char}
    (hq : isPlain q = false) : c ≠ q := by
  rintro rfl
  rw [h.plain c List.mem_cons_self] at hq
  cases hq

open Pattern in
/-- A word is an identifier as it is. -/
theorem takes_word {name : List Char} (hne : name ≠ []) (h : ∀ c ∈ name, isWordChar c = true)
    (text : List Char) : Takes identifier name (' ' :: text) [] := by
  obtain ⟨c, cs, rfl⟩ := List.exists_cons_of_ne_nil hne
  have hclass : ∀ d ∈ c :: cs, (isWordChar d || d == '$' || d == '#' || d == '@') = true :=
    fun d hd => by simp [h d hd]
  have hword : Takes (some1 fun d => isWordChar d || d == '$' || d == '#' || d == '@') (c :: cs)
      (' ' :: text) [] :=
    Takes.some1 _ (hclass c List.mem_cons_self)
      (fun d hd => hclass d (List.mem_cons_of_mem c hd)) fun d hd => Option.some.inj hd ▸ rfl
  have hfirst : ∀ {q : Char}, isWordChar q = false → (c :: cs ++ ' ' :: text).head? ≠ some q := by
    intro q hq heq
    have hc := h c List.mem_cons_self
    rw [Option.some.inj heq, hq] at hc
    cases hc
  exact Takes.right (Fails.char "\"" '"' rfl (hfirst rfl)).seq.seq.seq
    (Takes.right (Fails.char "`" '`' rfl (hfirst rfl)).seq.seq
      (Takes.right (Fails.char "[" '[' rfl (hfirst rfl)).seq.seq hword))

open Pattern in
theorem takes_bare {name : List Char} (h : Bare name) (text : List Char) :
    Takes identifier name (' ' :: text) [] :=
  takes_word h.1 (fun c hc => isNameChar_word (h.2 c hc)) text

theorem columnHead_find?_bare {name text : List Char} (h : Bare name)
    (htext : ∀ c ∈ text.head?, isBlank c = false) :
    ∃ f, columnHead.find? (name ++ ' ' :: text) = some f ∧
      f.group "name" = name ∧ f.group "rest" = text := by
  refine Export.columnHead_find?_of_takes (takes_bare h text) ?_ h.1 htext
  exact fun c hc => isBlank_of_isNameChar (h.2 c (List.mem_of_mem_head? hc))

theorem unquoteWith?_of_head_ne {c l : Char} (hc : c ≠ l) (r : Char) (cs : List Char) :
    unquoteWith? l r (c :: cs) = none := by
  cases cs with
  | nil => rfl
  | cons d ds => simp [unquoteWith?, hc]

theorem unquote_bare (s : Source) {name : List Char} (h : Bare name) : s.unquote name = name := by
  have htrim : trim name = name := h.trimmed.trim_eq
  have hpairs : ∀ p ∈ s.quotePairs, isPlain p.1 = false := by cases s <;> decide
  have hnone : s.quotePairs.findSome? (fun p => unquoteWith? p.1 p.2 name) = none := by
    obtain ⟨c, cs, rfl⟩ := List.exists_cons_of_ne_nil h.1
    refine List.findSome?_eq_none_iff.mpr fun p hp => ?_
    exact unquoteWith?_of_head_ne (bare_head_ne h (hpairs p hp)) p.2 cs
  have hunquote : s.unquote name =
      (s.quotePairs.findSome? fun p => unquoteWith? p.1 p.2 (trim name)).getD (trim name) := rfl
  rw [hunquote, htrim, hnone, Option.getD_none]

/-! ## Reading a commented column -/

open Pattern in
theorem namedConstraint_comment {head : List Char} (hhead : head ∈ commentHeads)
    (text : List Char) : namedConstraint.find? (head ++ text) = none := by
  have hheads : ∀ head ∈ commentHeads, differ "CONSTRAINT ".toList head = true ∧
      head.head?.any (!isBlank ·) = true := by decide +kernel
  obtain ⟨hdiffer, hblank⟩ := hheads head hhead
  have hanchored : Anchored namedConstraint := Anchored.textStart.seq.seq.seq.seq.seq.seq
  have hword : Fails (phrase "CONSTRAINT ") (head ++ text) :=
    Fails.phrase (differ_append hdiffer text)
  have hgap : Fails (gap ++ phrase "CONSTRAINT ") (head ++ text) :=
    Fails.run_seq hword fun c cs hcs hc => by
      cases head with
      | nil => cases hblank
      | cons d ds =>
        obtain rfl : d = c := (List.cons.inj hcs).1
        simp [hc] at hblank
  exact hanchored.find?_eq_none hgap.textStart_seq.assoc.seq.seq.seq.seq

/-- The words before a text that is cut off from them by a space. -/
theorem splitWords_behind {ws : List (List Char)} (hne : ws ≠ [])
    (h : ∀ w ∈ ws, Closed isBlank w ∧ w ≠ []) (rest : List Char) :
    splitWords (unwords ws ++ ' ' :: rest) = ws ++ splitWords rest := by
  induction ws with
  | nil => exact absurd rfl hne
  | cons w ws ih =>
    obtain ⟨hclosed, hw⟩ := h w List.mem_cons_self
    have hcut := fun rest => Grouping.segments_cut (.inr rfl) hclosed (c := ' ') rfl rfl rest
    cases ws with
    | nil =>
      rw [unwords_singleton, splitWords, hcut, List.filter_cons_of_pos (by simpa using hw)]
      rfl
    | cons v vs =>
      have ih := ih (by simp) fun x hx => h x (List.mem_cons_of_mem w hx)
      rw [splitWords] at ih ⊢
      rw [unwords_cons w (by simp), List.append_assoc, List.cons_append, hcut,
        List.filter_cons_of_pos (by simpa using hw), ih]
      rfl

/-- The comment is the last word of the options, and gives itself back. -/
theorem foldl_comment {tail : List (List Char)} (htail : tail ∈ Export.typeTails) (c : Column)
    (comment : String) :
    (tail ++ ["COMMENT".toList, literal comment.toList]).foldl optionStep (c, .plain) =
      ({ c with comment := some comment }, .plain) := by
  have hword : optionStep (c, .plain) "COMMENT".toList = (c, .comment) := rfl
  rw [List.foldl_append, foldl_typeTail tail htail, List.foldl_cons, hword, List.foldl_cons,
    List.foldl_nil, optionStep, unquoteLiteral?_literal, Option.map_some, String.ofList_toList]

section

variable {ws : List (List Char)}

theorem commented_unwords (hne : ws ≠ []) (name comment : String) :
    commented name (unwords ws) comment = name.toList ++ ' ' ::
      (unwords (ws ++ ["COMMENT".toList]) ++ ' ' :: literal comment.toList) := by
  rw [unwords_append hne (by simp), unwords_singleton, commented, quoteLiteral_toList]
  simp

theorem closed_before_comment (hclosed : ∀ w ∈ ws, Closed isBreak w ∧ w ≠ []) :
    ∀ w ∈ ws ++ ["COMMENT".toList], Closed isBreak w ∧ w ≠ [] := by
  intro w hw
  rcases List.mem_append.mp hw with hw | hw
  · exact hclosed w hw
  · exact List.mem_singleton.mp hw ▸ Export.isPlainWord.closed (by decide)

/-- The literal of a comment is one word, whatever it holds. -/
theorem splitWords_comment (hclosed : ∀ w ∈ ws, Closed isBreak w ∧ w ≠ []) (comment : String) :
    splitWords (unwords (ws ++ ["COMMENT".toList]) ++ ' ' :: literal comment.toList) =
      ws ++ ["COMMENT".toList, literal comment.toList] := by
  have hall := closed_before_comment hclosed
  rw [splitWords_behind (by simp) fun w hw => ⟨(hall w hw).1.words, (hall w hw).2⟩,
    splitWords_literal, List.append_assoc]
  rfl

theorem column?_commented (s : Source) {name : String} (hname : Bare name.toList)
    (hne : ws ≠ []) (hclosed : ∀ w ∈ ws, Closed isBreak w ∧ w ≠ [])
    (htail : (splitType ws).2 ∈ Export.typeTails) (comment : String) :
    column? s (commented name (unwords ws) comment) =
      some (described name (String.ofList (unwords (splitType ws).1)) comment
        (Marks.read (literal comment.toList))) := by
  have hstart : ∀ c ∈ (unwords (ws ++ ["COMMENT".toList]) ++ ' ' :: literal comment.toList).head?,
      isBlank c = false := by
    obtain ⟨⟨x, hx, hblank⟩, -⟩ := trimmed_unwords (by simp) (closed_before_comment hclosed)
    intro c hc
    rw [List.head?_append, Option.mem_def.mp hx] at hc
    exact Option.some.inj hc ▸ hblank
  obtain ⟨found, hfind, hfname, hfrest⟩ := columnHead_find?_bare hname hstart
  have hoptions : unwords ((splitType ws).2 ++ ["COMMENT".toList, literal comment.toList]) =
      unwords ((splitType ws).2 ++ ["COMMENT".toList]) ++ ' ' :: literal comment.toList := by
    have hlast : (splitType ws).2 ++ ["COMMENT".toList, literal comment.toList] =
        ((splitType ws).2 ++ ["COMMENT".toList]) ++ [literal comment.toList] := by simp
    rw [hlast, unwords_append (by simp) (by simp), unwords_singleton]
  have hhead : unwords ((splitType ws).2 ++ ["COMMENT".toList]) ∈ commentHeads :=
    List.mem_map_of_mem htail
  rw [commented_unwords hne, column?, hfind, Option.map_some]
  simp only [hfname, hfrest, splitWords_comment hclosed, splitType_comment, foldl_comment htail,
    hoptions, unquote_bare s hname, namedConstraint_comment hhead, String.ofList_toList,
    Option.map_none, ite_self]
  have hmarks := Marks.read_behind hhead comment.toList
  rw [← hmarks]
  rfl

end

/-! ## What comments change -/

/-- Does a type by itself make a column increment. -/
def isSerialText (type : List Char) : Bool :=
  Schema.isSerial (Schema.parseType (unwords (splitType (splitWords type)).1)).base

/-- The marks of a column whose type may increment by itself. -/
def Marks.settled (serial : Bool) (m : Marks) : Marks :=
  { m with increment := m.increment || serial }

theorem fact_injective (name : Option String) (columns : List String) {r r' : Reference}
    (h : r.fact name columns = r'.fact name columns) : r = r' := by
  cases r
  cases r'
  simp only [Reference.fact, Fact.foreignKey.injEq] at h
  simp [h]

theorem described_eq_iff (name type x y : String) (m n : Marks) :
    ({ (described name type x m).1 with comment := none } =
        ({ (described name type y n).1 with comment := none } : Column) ∧
      (described name type x m).2 = (described name type y n).2) ↔
    m.settled (Schema.isSerial (Schema.parseType type.toList).base) =
      n.settled (Schema.isSerial (Schema.parseType type.toList).base) := by
  generalize hserial : Schema.isSerial (Schema.parseType type.toList).base = serial
  constructor
  · rintro ⟨hcolumn, hfacts⟩
    have hkey : m.key = n.key := congrArg Column.primaryKey hcolumn
    have hunique : m.unique = n.unique := congrArg Column.unique hcolumn
    have hupdate : m.onUpdate = n.onUpdate := congrArg Column.onUpdate hcolumn
    have hincrement : (m.increment || serial) = (n.increment || serial) := by
      simpa [described, Source.settle, hserial] using congrArg Column.increment hcolumn
    have hreference : m.reference = n.reference := by
      have hmap : m.reference.map (·.fact none [name]) = n.reference.map (·.fact none [name]) := by
        have hheads : (m.reference.map (·.fact none [name])).toList.head? =
            (n.reference.map (·.fact none [name])).toList.head? := congrArg List.head? hfacts
        rwa [Option.head?_toList, Option.head?_toList] at hheads
      exact Option.map_injective (fun _ _ => fact_injective none [name]) hmap
    rw [Marks.settled, Marks.settled, hkey, hunique, hupdate, hincrement, hreference]
  · intro h
    simp only [Marks.settled, Marks.mk.injEq] at h
    obtain ⟨hkey, hunique, hincrement, hupdate, hreference⟩ := h
    constructor
    · simp [described, Source.settle, hserial, hkey, hunique, hincrement, hupdate]
    · rw [described, described, hreference]

/-- Whatever comment a column of the catalog has, it is read, and the comment comes back. But the
marks of a column are looked for inside its comment too: of two comments, the columns differ in
nothing but the comment, and their foreign keys are the same, just if the literals of both tell the
same marks. -/
theorem comments_are_searched_for_marks (s : Source) {name : String}
    (hname : Export.needsQuotes name = false) {type : List Char} (htype : CatalogText type)
    (x y : String) :
    ∃ (c d : Column) (facts facts' : List Fact),
      column? s (commented name type x) = some (c, facts) ∧
      column? s (commented name type y) = some (d, facts') ∧
      c.name = name ∧ c.comment = some x ∧ d.comment = some y ∧
      ({ c with comment := none } = { d with comment := none } ∧ facts = facts' ↔
        (Marks.read (literal x.toList)).settled (isSerialText type) =
          (Marks.read (literal y.toList)).settled (isSerialText type)) := by
  obtain ⟨ws, rfl, hne, hclosed, htail⟩ := htype.words
  have hwords : splitWords (unwords ws) = ws :=
    splitWords_unwords fun w hw => ⟨(hclosed w hw).1.words, (hclosed w hw).2⟩
  have hread := column?_commented s (Export.bare_of_needsQuotes hname) hne hclosed htail
  have hsame := described_eq_iff name (String.ofList (unwords (splitType ws).1)) x y
    (Marks.read (literal x.toList)) (Marks.read (literal y.toList))
  rw [String.toList_ofList] at hsame
  rw [isSerialText, hwords]
  exact ⟨_, _, _, _, hread x, hread y, rfl, rfl, rfl, hsame⟩

/-- A comment that speaks of a primary key makes one of its column. -/
theorem a_comment_makes_a_key :
    Export.needsQuotes "a" = false ∧ CatalogText "int".toList ∧
      ∃ (c d : Column) (facts facts' : List Fact),
        column? .mysql "a int COMMENT 'PRIMARY KEY'".toList = some (c, facts) ∧
        column? .mysql "a int COMMENT 'x'".toList = some (d, facts') ∧
        c.comment = some "PRIMARY KEY" ∧ d.comment = some "x" ∧
        ¬ ({ c with comment := none } = { d with comment := none } ∧ facts = facts') := by
  have hname : Export.needsQuotes "a" = false := by decide +kernel
  have htype : CatalogText "int".toList := .name (by decide +kernel)
  have hkey : commented "a" "int".toList "PRIMARY KEY" = "a int COMMENT 'PRIMARY KEY'".toList := by
    decide +kernel
  have hplain : commented "a" "int".toList "x" = "a int COMMENT 'x'".toList := by decide +kernel
  have hmarks : (Marks.read (literal "PRIMARY KEY".toList)).settled (isSerialText "int".toList) ≠
      (Marks.read (literal "x".toList)).settled (isSerialText "int".toList) := by decide +kernel
  obtain ⟨c, d, facts, facts', hc, hd, -, hcc, hdc, hsame⟩ :=
    comments_are_searched_for_marks .mysql hname htype "PRIMARY KEY" "x"
  rw [hkey] at hc
  rw [hplain] at hd
  exact ⟨hname, htype, c, d, facts, facts', hc, hd, hcc, hdc, fun h => hmarks (hsame.mp h)⟩

end SchemaChart.Reading
