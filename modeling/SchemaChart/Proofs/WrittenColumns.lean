-- Columns as scripts write them: the words of every type and of every mark behind it, and that a
-- column is read back under its name with the marks it was written with.
import SchemaChart.Export.Table
import SchemaChart.Proofs.Scanning
import SchemaChart.Reading.Table

namespace SchemaChart.Text

/-! ## Words -/

theorem unwords_singleton (w : List Char) : unwords [w] = w := List.intercalate_singleton

theorem unwords_cons (w : List Char) {vs : List (List Char)} (hvs : vs ≠ []) :
    unwords (w :: vs) = w ++ ' ' :: unwords vs := by
  obtain ⟨v, vs, rfl⟩ := List.exists_cons_of_ne_nil hvs
  simp [unwords, List.intercalate_cons_cons]

theorem unwords_append {ws vs : List (List Char)} (hws : ws ≠ []) (hvs : vs ≠ []) :
    unwords (ws ++ vs) = unwords ws ++ ' ' :: unwords vs := by
  induction ws with
  | nil => exact absurd rfl hws
  | cons w ws ih =>
    cases ws with
    | nil => rw [List.singleton_append, unwords_cons w hvs, unwords_singleton]
    | cons w' ws =>
      rw [List.cons_append, unwords_cons w (by simp), unwords_cons w (by simp), ih (by simp),
        List.append_assoc, List.cons_append]

/-- Phrases with spaces between them are their words with spaces between them. -/
theorem unwords_flatten {phrases : List (List (List Char))} (h : ∀ ws ∈ phrases, ws ≠ []) :
    unwords (phrases.map unwords) = unwords phrases.flatten := by
  induction phrases with
  | nil => rfl
  | cons ws phrases ih =>
    have hws := h ws List.mem_cons_self
    have ih := ih fun vs hvs => h vs (List.mem_cons_of_mem ws hvs)
    cases phrases with
    | nil => rw [List.map_singleton, unwords_singleton, List.flatten_singleton]
    | cons vs phrases =>
      have hrest : (vs :: phrases).flatten ≠ [] := by
        simp [h vs (List.mem_cons_of_mem ws List.mem_cons_self)]
      rw [List.map_cons, unwords_cons _ (by simp), ih, ← unwords_append hws hrest]
      rfl

theorem trimmed_unwords {ws : List (List Char)} (hne : ws ≠ [])
    (h : ∀ w ∈ ws, Closed isBreak w ∧ w ≠ []) : Trimmed (unwords ws) := by
  induction ws with
  | nil => exact absurd rfl hne
  | cons w ws ih =>
    obtain ⟨hclosed, hw⟩ := h w List.mem_cons_self
    have hfirst := hclosed.words.trimmed hw
    cases ws with
    | nil => rwa [unwords_singleton]
    | cons v vs =>
      rw [unwords_cons w (by simp)]
      exact hfirst.append [' '] (ih (by simp) fun x hx => h x (List.mem_cons_of_mem w hx))

/-- Words with a text right behind the last. -/
def onLast (x : List Char) : List (List Char) → List (List Char)
  | [] => []
  | [w] => [w ++ x]
  | w :: v :: ws => w :: onLast x (v :: ws)

theorem onLast_ne_nil (x : List Char) : ∀ {ws : List (List Char)}, ws ≠ [] → onLast x ws ≠ []
  | [_], _ => by simp [onLast]
  | _ :: _ :: _, _ => by simp [onLast]

theorem unwords_onLast (x : List Char) : ∀ {ws : List (List Char)}, ws ≠ [] →
    unwords (onLast x ws) = unwords ws ++ x
  | [w], _ => by rw [onLast, unwords_singleton, unwords_singleton]
  | w :: v :: ws, _ => by
    have hne : v :: ws ≠ [] := List.cons_ne_nil v ws
    rw [onLast, unwords_cons w (onLast_ne_nil x hne), unwords_onLast x hne, unwords_cons w hne]
    simp

theorem mem_onLast {x w : List Char} : ∀ {ws : List (List Char)}, w ∈ onLast x ws →
    ∃ v ∈ ws, w = v ∨ w = v ++ x
  | [v], h => ⟨v, by simp, .inr (by simpa [onLast] using h)⟩
  | v :: _ :: _, h => by
    rcases List.mem_cons.mp h with rfl | h
    · exact ⟨w, by simp, .inl rfl⟩
    · obtain ⟨u, hu, hw⟩ := mem_onLast h
      exact ⟨u, List.mem_cons_of_mem v hu, hw⟩

theorem upper_append (cs ds : List Char) : upper (cs ++ ds) = upper cs ++ upper ds :=
  List.flatMap_append

end SchemaChart.Text

namespace SchemaChart.Export

open Text
open Diagram (Field)
open Reading (splitType endsType stopWords)

/-! ## Types -/

/-- The names of types that carry a size. -/
def sizedNames : List String := Catalog.withLength ++ Catalog.withPrecision

/-- The names of types: those of the catalog, and those that only dialects have. -/
def typeNames : List String :=
  Catalog.ids ++ ["int", "double", "bigserial", "smallserial", "serial"]

/-- The sizes that stand in a type whatever the size of the field. -/
def standardSizes : List (String × String) :=
  [("char", "36"), ("decimal", "19,4"), ("varchar", "45"), ("varchar", "255"),
    ("nvarchar", "max"), ("varbinary", "max")]

/-- The text of a type: a name, with a size behind it if the name carries one. -/
inductive TypeText : List Char → Prop
  | name {n : String} : n ∈ typeNames → TypeText n.toList
  | sized {n : String} {size : List Char} :
      n ∈ sizedNames → (∀ c ∈ size, isPlain c = true) → TypeText (n.toList ++ '(' :: size ++ [')'])

/-- A length that a script can hold: digits, or no bound. -/
def IsLength (l : String) : Prop := l.toList.all Char.isDigit = true ∨ l = "max"

instance (l : String) : Decidable (IsLength l) := inferInstanceAs (Decidable (_ ∨ _))

theorem isPlain_digit {c : Char} (h : c.isDigit = true) : isPlain c = true :=
  (isNameChar_plain (by simp [isNameChar, h])).1

theorem isPlain_toString (n : Nat) : ∀ c ∈ (toString n).toList, isPlain c = true := by
  intro c hc
  refine isPlain_digit (Nat.isDigit_of_mem_toDigits (by decide) (by decide) (b := 10) (n := n) ?_)
  simpa [Nat.toString_eq_repr, Nat.repr] using hc

theorem isPlain_length {l : String} (h : IsLength l) : ∀ c ∈ l.toList, isPlain c = true := by
  rcases h with h | rfl
  · exact fun c hc => isPlain_digit (List.all_eq_true.mp h c hc)
  · exact List.all_eq_true.mp (by decide)

/-- The size of a field is plain text in parentheses. -/
theorem sizeText?_plain {f : Field} (hf : ∀ l ∈ f.length, IsLength l) {text : String}
    (h : sizeText? f = some text) :
    ∃ size, text.toList = '(' :: size ++ [')'] ∧ ∀ c ∈ size, isPlain c = true := by
  unfold sizeText? at h
  split at h
  · obtain ⟨l, hl, rfl⟩ := Option.map_eq_some_iff.mp h
    have hl := (Option.filter_eq_some_iff.mp hl).1
    exact ⟨l.toList, by simp, isPlain_length (hf l hl)⟩
  · split at h
    · next p q _ _ =>
      refine ⟨(toString p).toList ++ ',' :: (toString q).toList, ?_, fun c hc => ?_⟩
      · simp [← Option.some.inj h]
      · rcases List.mem_append.mp hc with hc | hc
        · exact isPlain_toString p c hc
        · rcases List.mem_cons.mp hc with rfl | hc
          · decide
          · exact isPlain_toString q c hc
    · next p _ _ => exact ⟨(toString p).toList, by simp [← Option.some.inj h], isPlain_toString p⟩
    · cases h
  · cases h

theorem sizeText?_eq_none {f : Field} (h : Catalog.sizeKind f.type.id = .none) :
    sizeText? f = none := by
  simp [sizeText?, h]

/-- Is what a dialect has for a catalog type a name of the list, sized only where it may be. -/
def TargetType.isKnown (id : String) : TargetType → Bool
  | .fixed text =>
    typeNames.contains text || standardSizes.any (fun (n, size) => text == n ++ "(" ++ size ++ ")")
  | .sized name =>
    sizedNames.contains name || (typeNames.contains name && Catalog.sizeKind id == .none)
  | .sizedOr name size => sizedNames.contains name && size.toList.all isPlain

theorem targetType_isKnown (s : Source) :
    ∀ id ∈ Catalog.ids, (targetType s.dialect id).isKnown id = true := by
  cases s <;> decide

theorem standardSizes_plain :
    ∀ p ∈ standardSizes, p.1 ∈ sizedNames ∧ p.2.toList.all isPlain = true := by
  decide

theorem sizedNames_subset : ∀ n ∈ sizedNames, n ∈ typeNames := by decide

/-- Every type that the catalog has is written as the text of a type. -/
theorem TargetType.typeText {f : Field} (hf : ∀ l ∈ f.length, IsLength l) {target : TargetType}
    (h : target.isKnown f.type.id = true) : TypeText (target.text f).toList := by
  cases target with
  | fixed text =>
    simp only [isKnown, Bool.or_eq_true, List.contains_iff_mem, List.any_eq_true] at h
    rcases h with h | ⟨⟨n, size⟩, hmem, htext⟩
    · exact .name h
    · obtain ⟨hn, hsize⟩ := standardSizes_plain _ hmem
      have hwritten : text.toList = n.toList ++ '(' :: size.toList ++ [')'] := by
        simp [beq_iff_eq.mp htext]
      rw [TargetType.text, hwritten]
      exact .sized hn (List.all_eq_true.mp hsize)
  | sized name =>
    simp only [isKnown, Bool.or_eq_true, Bool.and_eq_true, List.contains_iff_mem,
      beq_iff_eq] at h
    cases hsize : sizeText? f with
    | none =>
      have hname : name ∈ typeNames := h.elim (sizedNames_subset name) (·.1)
      simpa [TargetType.text, hsize] using TypeText.name hname
    | some text =>
      obtain ⟨size, htext, hplain⟩ := sizeText?_plain hf hsize
      have hname : name ∈ sizedNames := h.resolve_right fun hnone => by
        simp [sizeText?_eq_none hnone.2] at hsize
      simpa [TargetType.text, hsize, htext] using TypeText.sized hname hplain
  | sizedOr name size =>
    simp only [isKnown, Bool.and_eq_true, List.contains_iff_mem, List.all_eq_true] at h
    cases hsize : sizeText? f with
    | none => simpa [TargetType.text, hsize] using TypeText.sized h.1 h.2
    | some text =>
      obtain ⟨size, htext, hplain⟩ := sizeText?_plain hf hsize
      simpa [TargetType.text, hsize, htext] using TypeText.sized h.1 hplain

theorem elementType_text (s : Source) (types : List Diagram.CustomType) {f : Field}
    (hid : f.type.id ∈ Catalog.ids) (hf : ∀ l ∈ f.length, IsLength l) :
    TypeText (elementType ⟨s.dialect, true⟩ types f).toList := by
  have hcustom : customTypeOf? types f = none := by
    rw [customTypeOf?, if_pos (List.contains_iff_mem.mpr hid)]
  rw [elementType, hcustom]
  exact TargetType.typeText hf (targetType_isKnown s f.type.id hid)

theorem arrayStandIn?_text {s : Source} {text : String} (h : arrayStandIn? s.dialect = some text) :
    TypeText text.toList := by
  have hmax : "nvarchar(max)".toList = "nvarchar".toList ++ '(' :: "max".toList ++ [')'] := rfl
  cases s with
  | postgresql => cases h
  | mysql | mariadb => exact Option.some.inj h ▸ .name (by decide)
  | sqlServer =>
    exact Option.some.inj h ▸ hmax ▸ .sized (by decide) (List.all_eq_true.mp (by decide))
  | sqlite => exact Option.some.inj h ▸ .name (by decide)

theorem serialType?_text {f : Field} {text : String} (h : serialType? f = some text) :
    TypeText text.toList := by
  have hname : text ∈ typeNames := by
    unfold serialType? at h
    split at h
    · cases h
    · split at h <;> cases h <;> decide
  exact .name hname

/-- The type of a column is the text of a type, with an array mark where the dialect has one. -/
theorem columnType_text (s : Source) (d : Diagram) {f : Field} (hid : f.type.id ∈ Catalog.ids)
    (hf : ∀ l ∈ f.length, IsLength l) :
    ∃ type array, TypeText type ∧ (array = [] ∨ array = ['[', ']']) ∧
      ((Style.ofDialect s.dialect d).columnType f).toList = type ++ array := by
  have helement := elementType_text s d.types hid hf
  rw [Style.columnType]
  cases hserial : (Style.ofDialect s.dialect d).serial? f with
  | some text =>
    have htype : serialType? f = some text := by
      unfold Style.serial? at hserial
      split at hserial
      · exact hserial
      · cases hserial
    exact ⟨text.toList, [], serialType?_text htype, .inl rfl, by simp⟩
  | none =>
    show ∃ type array, _ ∧ _ ∧ (typeText ⟨s.dialect, true⟩ d.types f).toList = type ++ array
    unfold typeText
    split
    · cases harray : arrayStandIn? s.dialect with
      | some text => exact ⟨text.toList, [], arrayStandIn?_text harray, .inl rfl, by simp⟩
      | none => exact ⟨_, ['[', ']'], helement, .inr rfl, by simp⟩
    · exact ⟨_, [], helement, .inl rfl, by simp⟩

/-- No type starts like the mark of a unique column. -/
theorem TypeText.ne_unique {type : List Char} (h : TypeText type) (array : List Char) :
    type ++ array ≠ "UNIQUE".toList := by
  have hnames : ∀ n ∈ typeNames, n.toList.head?.any (· != 'U') = true := by decide
  have hstart : ∀ n ∈ typeNames, ∀ rest, n.toList ++ rest ≠ "UNIQUE".toList := by
    intro n hn rest heq
    have hfirst := hnames n hn
    have hhead : (n.toList ++ rest).head? = some 'U' := by
      rw [heq]
      decide
    cases hcs : n.toList with
    | nil => simp [hcs] at hfirst
    | cons c cs =>
      rw [hcs] at hfirst hhead
      simp [Option.some.inj hhead] at hfirst
  cases h with
  | name hn => exact hstart _ hn array
  | sized hn _ => simpa using hstart _ (sizedNames_subset _ hn) _

/-! ## Words of types -/

/-- Does a word stay in the type of a column, whatever is written right behind it. -/
def staysInType (w : List Char) : Bool :=
  Pattern.differ "IDENTITY".toList (upper w) && upper w != "CHARACTER".toList
    && !stopWords.contains (String.ofList (upper w))

theorem dropHead?_of_differ {h cs : List Char} (hd : Pattern.differ h cs = true) (x : List Char) :
    dropHead? h (cs ++ x) = none := by
  induction h generalizing cs with
  | nil => simp [Pattern.differ] at hd
  | cons k ks ih =>
    cases cs with
    | nil => simp [Pattern.differ] at hd
    | cons c cs =>
      simp only [Pattern.differ, Bool.and_eq_true, Bool.or_eq_true, Bool.not_eq_true'] at hd
      rw [List.cons_append, dropHead?]
      split
      · next hkc =>
        refine ih (hd.2.resolve_left fun hne => ?_)
        rw [beq_iff_eq.mp hkc, Pattern.sameLetter_refl] at hne
        exact absurd hne (by decide)
      · rfl

/-- What is written right behind a word of a type: nothing, or something that opens. -/
def Opening (x : List Char) : Prop := x = [] ∨ ∃ c ∈ ['(', '['], x.head? = some c

/-- Characters that open are letters of no word that ends a type, and have no case. -/
theorem stopWords_closed {c : Char} (hc : c ∈ ['(', '[']) :
    upperChar c = [c] ∧ c ∉ "CHARACTER".toList ∧ ∀ s ∈ stopWords, c ∉ s.toList := by
  simp only [List.mem_cons, List.not_mem_nil, or_false] at hc
  rcases hc with rfl | rfl <;> decide

theorem endsType_eq_false {w x : List Char} (hw : staysInType w = true) (hx : Opening x)
    (next : Option (List Char)) : endsType (w ++ x) next = false := by
  simp only [staysInType, Bool.and_eq_true, bne_iff_ne, Bool.not_eq_true'] at hw
  obtain ⟨⟨hidentity, hcharacter⟩, hstop⟩ := hw
  have hstart : startsWith (upper (w ++ x)) "IDENTITY" = false := by
    rw [startsWith, upper_append, dropHead?_of_differ hidentity]
    rfl
  have hother : upper (w ++ x) ≠ "CHARACTER".toList ∧
      stopWords.contains (String.ofList (upper (w ++ x))) = false := by
    rcases hx with rfl | ⟨c, hc, hhead⟩
    · rw [List.append_nil]
      exact ⟨hcharacter, hstop⟩
    · obtain ⟨xs, rfl⟩ := List.head?_eq_some_iff.mp hhead
      obtain ⟨hkeeps, hnot, hnone⟩ := stopWords_closed hc
      have hmem : c ∈ upper (w ++ c :: xs) := by
        rw [upper_append, upper, upper, List.flatMap_cons, hkeeps]
        simp
      refine ⟨fun h => hnot (h ▸ hmem), ?_⟩
      rw [← Bool.not_eq_true, List.contains_iff_mem]
      exact fun h => hnone _ h (by rwa [String.toList_ofList])
  rw [endsType, hstart, beq_eq_false_iff_ne.mpr hother.1, hother.2]
  rfl

/-- Types that stay whole: the options start behind all of their words. -/
theorem splitType_whole {x : List Char} (hx : Opening x) {flags : List (List Char)}
    (hflags : splitType flags = ([], flags)) : ∀ {ws : List (List Char)},
      (∀ w ∈ ws, staysInType w = true) → (splitType (onLast x ws ++ flags)).2 = flags
  | [], _ => by simp [onLast, hflags]
  | [w], hws => by
    have hw := endsType_eq_false (hws w (by simp)) hx flags.head?
    simp [onLast, splitType, hw, hflags]
  | w :: v :: ws, hws => by
    have hw := endsType_eq_false (x := []) (hws w (by simp)) (.inl rfl)
      (onLast x (v :: ws) ++ flags).head?
    rw [List.append_nil] at hw
    have ih := splitType_whole hx hflags fun u hu => hws u (List.mem_cons_of_mem w hu)
    simp only [onLast, List.cons_append, splitType, hw, Bool.false_eq_true, ↓reduceIte]
    exact ih

/-- What may be left of a type among the options: its time zone. -/
def typeTails : List (List (List Char)) :=
  [[], ["with".toList, "time".toList, "zone".toList],
    ["with".toList, "time".toList, "zone[]".toList]]

theorem splitType_zoned {w : List Char} (hw : staysInType w = true) (x : List Char)
    (flags : List (List Char)) :
    (splitType (onLast x [w, "with".toList, "time".toList, "zone".toList] ++ flags)).2
      = onLast x ["with".toList, "time".toList, "zone".toList] ++ flags := by
  have hfirst := fun next => endsType_eq_false (x := []) hw (.inl rfl) next
  simp only [List.append_nil] at hfirst
  have hwith : ∀ next, endsType "with".toList next = true := fun next => rfl
  simp only [onLast, List.cons_append, splitType, hfirst, hwith, Bool.false_eq_true, ↓reduceIte]

/-- A plain word: nothing in it opens, closes or cuts. -/
def isPlainWord (w : List Char) : Bool := !w.isEmpty && w.all (fun c => isPlain c && !isBreak c)

theorem isPlainWord.closed {w : List Char} (h : isPlainWord w = true) :
    Closed isBreak w ∧ w ≠ [] := by
  simp only [isPlainWord, Bool.and_eq_true, Bool.not_eq_true', List.all_eq_true,
    List.isEmpty_eq_false_iff] at h
  exact ⟨Closed.of_plain h.2, h.1⟩

/-- The names of types are plain words, and stay in the type but for a time zone. -/
theorem typeNames_words : ∀ n ∈ typeNames,
    unwords (words n.toList) = n.toList ∧ words n.toList ≠ [] ∧
      (∀ w ∈ words n.toList, isPlainWord w = true) ∧
      ((∀ w ∈ words n.toList, staysInType w = true) ∨
        (words n.toList).head?.any staysInType = true ∧
          (words n.toList).tail = ["with".toList, "time".toList, "zone".toList]) := by
  decide +kernel

theorem sizedNames_stay : ∀ n ∈ sizedNames, ∀ w ∈ words n.toList, staysInType w = true := by
  decide

/-- The words of a type: they are closed, and some are left among the options. -/
structure TypeWords (text : List Char) (ws tail : List (List Char)) : Prop where
  text_eq : text = unwords ws
  ne_nil : ws ≠ []
  closed : ∀ w ∈ ws, Closed isBreak w ∧ w ≠ []
  tail_mem : tail ∈ typeTails
  options : ∀ flags, splitType flags = ([], flags) → (splitType (ws ++ flags)).2 = tail ++ flags

theorem closed_onLast {x : List Char} (hx : Closed isBreak x) {vs : List (List Char)}
    (hvs : ∀ w ∈ vs, isPlainWord w = true) :
    ∀ w ∈ onLast x vs, Closed isBreak w ∧ w ≠ [] := by
  intro w hw
  obtain ⟨v, hv, rfl | rfl⟩ := mem_onLast hw
  · exact isPlainWord.closed (hvs w hv)
  · obtain ⟨hclosed, hne⟩ := isPlainWord.closed (hvs v hv)
    exact ⟨hclosed.append hx, by simp [hne]⟩

/-- A name that stays whole keeps its words together with what is written right behind it. -/
theorem typeWords_whole {n : String} (hn : n ∈ typeNames)
    (hstay : ∀ w ∈ words n.toList, staysInType w = true) {x : List Char}
    (hclosed : Closed isBreak x) (hx : Opening x) :
    TypeWords (n.toList ++ x) (onLast x (words n.toList)) [] := by
  obtain ⟨htext, hne, hplain, -⟩ := typeNames_words n hn
  exact
    { text_eq := by rw [unwords_onLast x hne, htext]
      ne_nil := onLast_ne_nil x hne
      closed := closed_onLast hclosed hplain
      tail_mem := by decide
      options := fun flags hflags => splitType_whole hx hflags hstay }

theorem arrayMark_closed {array : List Char} (h : array = [] ∨ array = ['[', ']']) :
    Closed isBreak array ∧ Opening array := by
  rcases h with rfl | rfl
  · exact ⟨.nil, .inl rfl⟩
  · have hq : Pattern.QuotePair '[' ']' := by decide
    have hmark : Closed isBreak ('[' :: [] ++ ']' :: []) :=
      .quoted hq (by simp) (by simp [isBreak_quote hq]) .nil
    exact ⟨hmark, .inr ⟨'[', by simp, rfl⟩⟩

/-- A name with a time zone leaves the time zone among the options, with the array mark. -/
theorem typeWords_zoned {n : String} (hn : n ∈ typeNames)
    (hfirst : (words n.toList).head?.any staysInType = true)
    (hzone : (words n.toList).tail = ["with".toList, "time".toList, "zone".toList])
    {array : List Char} (harray : array = [] ∨ array = ['[', ']']) :
    TypeWords (n.toList ++ array) (onLast array (words n.toList))
      (onLast array ["with".toList, "time".toList, "zone".toList]) := by
  obtain ⟨htext, hne, hplain, -⟩ := typeNames_words n hn
  have hoptions : ∀ flags, (splitType (onLast array (words n.toList) ++ flags)).2
      = onLast array ["with".toList, "time".toList, "zone".toList] ++ flags := by
    obtain ⟨w, ws, hws⟩ := List.exists_cons_of_ne_nil hne
    rw [hws] at hfirst hzone ⊢
    rw [List.tail_cons] at hzone
    rw [hzone]
    exact splitType_zoned hfirst array
  exact
    { text_eq := by rw [unwords_onLast array hne, htext]
      ne_nil := onLast_ne_nil array hne
      closed := closed_onLast (arrayMark_closed harray).1 hplain
      tail_mem := by rcases harray with rfl | rfl <;> decide
      options := fun flags _ => hoptions flags }

/-- Every type has its words, with or without an array mark. -/
theorem TypeText.words {type array : List Char} (h : TypeText type)
    (harray : array = [] ∨ array = ['[', ']']) :
    ∃ ws tail, TypeWords (type ++ array) ws tail := by
  obtain ⟨hclosed, hopening⟩ := arrayMark_closed harray
  cases h with
  | @name n hn =>
    obtain ⟨-, -, -, hstay | ⟨hfirst, hzone⟩⟩ := typeNames_words n hn
    · exact ⟨_, _, typeWords_whole hn hstay hclosed hopening⟩
    · exact ⟨_, _, typeWords_zoned hn hfirst hzone harray⟩
  | @sized n size hn hsize =>
    have hgroup : Closed isBreak ('(' :: size ++ ')' :: array) :=
      .group (Closed.of_plain fun c hc => ⟨hsize c hc, rfl⟩) hclosed
    have htext : n.toList ++ '(' :: size ++ [')'] ++ array
        = n.toList ++ ('(' :: size ++ ')' :: array) := by simp
    rw [htext]
    exact ⟨_, _, typeWords_whole (sizedNames_subset n hn) (sizedNames_stay n hn) hgroup
      (.inr ⟨'(', by simp, rfl⟩)⟩

/-! ## Marks behind the type -/

/-- What makes a column count up. -/
def increments : List (Option String) :=
  [none, some "AUTO_INCREMENT", some "IDENTITY(1,1)", some "AUTOINCREMENT",
    some "GENERATED BY DEFAULT AS IDENTITY"]

theorem increment?_mem (s : Style) (f : Field) (inlineKey : Bool) :
    s.increment? f inlineKey ∈ increments := by
  unfold Style.increment?
  split
  · decide
  · split
    · decide
    · decide
    · decide
    · split <;> decide
    · split <;> decide

/-- The marks behind the type of a column, word by word. -/
def marks (notNull key unique : Bool) (increment : Option String) : List (List (List Char)) :=
  (if notNull then [["NOT".toList, "NULL".toList]] else [])
    ++ (if key then [["PRIMARY".toList, "KEY".toList]] else [])
    ++ (if unique then [["UNIQUE".toList]] else [])
    ++ (increment.map (words ·.toList)).toList

/-- Behind every type, the marks are read back: the key, uniqueness, and no reference. -/
theorem marks_read_back : ∀ tail ∈ typeTails, ∀ increment ∈ increments,
    ∀ notNull key unique : Bool,
      let text := unwords (tail ++ (marks notNull key unique increment).flatten)
      holds (upper text) "PRIMARY KEY" = key ∧
        (words (upper text)).contains "UNIQUE".toList = unique ∧
        Reading.reference? text = none := by
  decide +kernel

/-- The first mark ends the type. -/
theorem splitType_marks : ∀ increment ∈ increments, ∀ notNull key unique : Bool,
    splitType (marks notNull key unique increment).flatten
      = ([], (marks notNull key unique increment).flatten) := by
  decide

theorem marks_plain : ∀ increment ∈ increments, ∀ notNull key unique : Bool,
    (∀ ws ∈ marks notNull key unique increment, ws ≠ []) ∧
      ∀ w ∈ (marks notNull key unique increment).flatten,
        isPlainWord w = true ∨ w = "IDENTITY(1,1)".toList := by
  decide

theorem marks_closed {increment : Option String} (hi : increment ∈ increments)
    (notNull key unique : Bool) {w : List Char}
    (hw : w ∈ (marks notNull key unique increment).flatten) : Closed isBreak w ∧ w ≠ [] := by
  rcases (marks_plain increment hi notNull key unique).2 w hw with hplain | rfl
  · exact isPlainWord.closed hplain
  · have hstart : Closed isBreak "IDENTITY".toList := (isPlainWord.closed (by decide)).1
    have hgroup : Closed isBreak ('(' :: "1,1".toList ++ ')' :: []) :=
      .group (Closed.of_all (by decide)) .nil
    exact ⟨hstart.append hgroup, by decide⟩

/-- The marks as they are written are their words with spaces between them. -/
theorem marks_texts : ∀ increment ∈ increments, ∀ notNull key unique : Bool,
    ((if notNull then ["NOT NULL"] else []) ++ (if key then ["PRIMARY KEY"] else [])
      ++ (if unique then ["UNIQUE"] else []) ++ increment.toList).map String.toList
      = (marks notNull key unique increment).map unwords := by
  decide

/-! ## Quoted names -/

/-- A name in the quotes of a dialect. -/
def quoted (s : Source) (name : List Char) : List Char :=
  (identifierQuotes s.dialect).1 :: name ++ [(identifierQuotes s.dialect).2]

theorem quotePair (s : Source) :
    Pattern.QuotePair (identifierQuotes s.dialect).1 (identifierQuotes s.dialect).2 := by
  cases s <;> decide

theorem quoted_closed (s : Source) {name : List Char} (h : Bare name) :
    Closed isBreak (quoted s name) := h.closed (quotePair s)

theorem bare_of_needsQuotes {name : String} (h : needsQuotes name = false) :
    Bare name.toList := by
  simp only [needsQuotes, isBareWord, Bool.or_eq_false_iff, Bool.not_eq_false'] at h
  have hword := h.1
  cases hcs : name.toList with
  | nil => rw [hcs] at hword; cases hword
  | cons c cs =>
    rw [hcs] at hword
    simp only [Bool.and_eq_true, List.all_eq_true] at hword
    refine ⟨by simp, fun x hx => ?_⟩
    rcases List.mem_cons.mp hx with rfl | hx
    · simp only [isNameChar, ← startsBare.eq_1, hword.1, Bool.true_or]
    · exact hword.2 x hx

theorem quoteIdentifier_toList (s : Source) {name : String} (h : Bare name.toList) :
    (quoteIdentifier s.dialect name).toList = quoted s name.toList := by
  simp [quoteIdentifier, quoted, double_eq_self (h.close_not_mem (quotePair s))]

/-! ## Lines of columns -/

/-- Is a column written as not null. -/
def writesNotNull (f : Field) : Bool := !f.nullable || f.primaryKey

/-- The words of the marks that a column is written with. -/
def markWords (s : Source) (d : Diagram) (f : Field) (inlineKey : Bool) : List (List Char) :=
  (marks (writesNotNull f) inlineKey (Style.marksUnique f inlineKey)
    ((Style.ofDialect s.dialect d).increment? f inlineKey)).flatten

/-- The parts of a column without default and update: its name, its type and its marks. -/
theorem columnParts_eq (s : Source) (d : Diagram) {f : Field} (hdefault : f.default = none)
    (hupdate : f.onUpdate = none) (inlineKey : Bool) :
    (Style.ofDialect s.dialect d).columnParts f inlineKey
      = quoteIdentifier s.dialect f.name :: (Style.ofDialect s.dialect d).columnType f
        :: ((if writesNotNull f then ["NOT NULL"] else [])
          ++ (if inlineKey then ["PRIMARY KEY"] else [])
          ++ (if Style.marksUnique f inlineKey then ["UNIQUE"] else [])
          ++ ((Style.ofDialect s.dialect d).increment? f inlineKey).toList) := by
  have hnone : (Style.ofDialect s.dialect d).default? f = none := by
    simp [Style.default?, hdefault]
  have hnever : (Style.ofDialect s.dialect d).onUpdate? f = none := by
    simp [Style.onUpdate?, hupdate]
  have hident : (Style.ofDialect s.dialect d).quoting.ident f.name
      = quoteIdentifier s.dialect f.name := by
    simp [Style.ofDialect, Quoting.ident]
  rw [Style.columnParts, hnone, hnever, hident]
  simp [writesNotNull]

/-- A column without default and update is its name in quotes, its type and its marks. -/
theorem column_toList {s : Source} {d : Diagram} {f : Field} (hname : Bare f.name.toList)
    (hdefault : f.default = none) (hupdate : f.onUpdate = none) (inlineKey : Bool)
    {ws tail : List (List Char)}
    (htype : TypeWords ((Style.ofDialect s.dialect d).columnType f).toList ws tail) :
    ((Style.ofDialect s.dialect d).column f inlineKey).toList
      = quoted s f.name.toList ++ ' ' :: unwords (ws ++ markWords s d f inlineKey) := by
  have hmem := increment?_mem (Style.ofDialect s.dialect d) f inlineKey
  have hparts : ((Style.ofDialect s.dialect d).columnParts f inlineKey).map String.toList
      = quoted s f.name.toList :: (ws :: marks (writesNotNull f) inlineKey
        (Style.marksUnique f inlineKey)
        ((Style.ofDialect s.dialect d).increment? f inlineKey)).map unwords := by
    rw [columnParts_eq s d hdefault hupdate, List.map_cons, List.map_cons, List.map_cons,
      marks_texts _ hmem, htype.text_eq, quoteIdentifier_toList s hname]
  have hphrases : ∀ vs ∈ ws :: marks (writesNotNull f) inlineKey (Style.marksUnique f inlineKey)
      ((Style.ofDialect s.dialect d).increment? f inlineKey), vs ≠ [] := by
    intro vs hvs
    rcases List.mem_cons.mp hvs with rfl | hvs
    · exact htype.ne_nil
    · exact (marks_plain _ hmem _ _ _).1 vs hvs
  rw [Style.column, String.toList_intercalate, hparts]
  show unwords (_ :: _) = _
  rw [unwords_cons _ (by simp), unwords_flatten hphrases]
  rfl

theorem unquote_quoted (s : Source) {name : List Char} (h : Bare name) :
    s.unquote (quoted s name) = name := by
  have hmem : ((identifierQuotes s.dialect).1, (identifierQuotes s.dialect).2) ∈ s.quotePairs := by
    cases s <;> decide
  have hnodup : (s.quotePairs.map Prod.fst).Nodup := by cases s <;> decide
  have hfirst := findSome?_unquoteWith? (h.close_not_mem (quotePair s)) hmem hnodup
  rw [Source.unquote, quoted, (trimmed_quoted (quotePair s)).trim_eq]
  simp only [hfirst, Option.getD_some]

/-! ## Reading columns -/

open Pattern in
/-- An identifier and all behind it are found as the head of a column. -/
theorem columnHead_find?_of_takes {word text : List Char}
    (hword : Takes identifier word (' ' :: text) [])
    (hstart : ∀ c ∈ word.head?, isBlank c = false) (hne : word ≠ [])
    (htext : ∀ c ∈ text.head?, isBlank c = false) :
    ∃ f, Reading.columnHead.find? (word ++ ' ' :: text) = some f ∧
      f.group "name" = word ∧ f.group "rest" = text := by
  have hblank : ∀ c ∈ (word ++ ' ' :: text).head?, isBlank c = false := by
    obtain ⟨w, ws, rfl⟩ := List.exists_cons_of_ne_nil hne
    exact hstart
  have hstart : TakesFirst (textStart ++ gap) [] (word ++ ' ' :: text) [] :=
    TakesFirst.start hblank
  have hident : Takes (group "name" identifier) word (' ' :: text ++ []) [("name", word)] := by
    rw [List.append_nil]
    exact Takes.group "name" hword
  have hrest : Takes (opt (blanks ++ group "rest" rest)) (' ' :: text) [] [("rest", text)] :=
    Takes.opt (Takes.seq (w := [' ']) (Takes.space (by simpa using htext))
      (Takes.group "rest" (Takes.run (by simp) (by simp))))
  rw [← List.append_nil (' ' :: text)] at hstart
  have hfind := (((hstart.seq hident).seq hrest).seq Takes.textEnd).find?
  simp only [List.nil_append, List.append_nil] at hfind
  exact ⟨_, hfind, rfl, rfl⟩

/-- A quoted name and all behind it are found as the head of a column. -/
theorem columnHead_find? (s : Source) {name text : List Char} (hname : Bare name)
    (htext : ∀ c ∈ text.head?, isBlank c = false) :
    ∃ f, Reading.columnHead.find? (quoted s name ++ ' ' :: text) = some f ∧
      f.group "name" = quoted s name ∧ f.group "rest" = text := by
  have hident : Pattern.Takes Pattern.identifier (quoted s name) (' ' :: text) [] :=
    Pattern.Takes.identifier (quotePair s) hname.1 (hname.close_not_mem (quotePair s)) (by simp)
  have hquote : ∀ c ∈ (quoted s name).head?, isBlank c = false := fun c hc =>
    Option.some.inj hc ▸ (isBlank_quote (quotePair s)).1
  exact columnHead_find?_of_takes hident hquote (by simp [quoted]) htext

theorem plainOption_name (c : Schema.Column) (w : List Char) :
    (Reading.plainOption c w).1.name = c.name := by
  unfold Reading.plainOption
  split <;> rfl

theorem optionStep_name (p : Schema.Column × Reading.OptionMode) (w : List Char) :
    (Reading.optionStep p w).1.name = p.1.name := by
  obtain ⟨c, mode⟩ := p
  cases mode with
  | plain => exact plainOption_name c w
  | value | comment | collation => rfl
  | afterNot | cast =>
    simp only [Reading.optionStep]
    split
    · rfl
    · exact plainOption_name c w

theorem foldl_optionStep_name (ws : List (List Char)) (p : Schema.Column × Reading.OptionMode) :
    (ws.foldl Reading.optionStep p).1.name = p.1.name := by
  induction ws generalizing p with
  | nil => rfl
  | cons w ws ih => rw [List.foldl_cons, ih, optionStep_name]

/-- What a column is read as: its name, and the key, the uniqueness and the reference that the
text of its options tells. -/
theorem column?_of_find? (s : Source) {cs : List Char} {found : Pattern.Found}
    (hfind : Reading.columnHead.find? cs = some found) :
    let text := unwords (splitType (splitWords (found.group "rest"))).2
    let name := String.ofList (s.unquote (found.group "name"))
    ∃ c constraint, Reading.column? s cs
        = some (c, ((Reading.reference? text).map (·.fact constraint [name])).toList) ∧
      c.name = name ∧ c.primaryKey = holds (upper text) "PRIMARY KEY" ∧
      c.unique = (words (upper text)).contains "UNIQUE".toList := by
  refine ⟨_, _, by rw [Reading.column?, hfind]; rfl, ?_, rfl, rfl⟩
  exact foldl_optionStep_name _ _

theorem written_closed {s : Source} {d : Diagram} {f : Field} (inlineKey : Bool)
    {ws tail : List (List Char)}
    (htype : TypeWords ((Style.ofDialect s.dialect d).columnType f).toList ws tail) :
    ∀ w ∈ ws ++ markWords s d f inlineKey, Closed isBreak w ∧ w ≠ [] := by
  intro w hw
  rcases List.mem_append.mp hw with hw | hw
  · exact htype.closed w hw
  · exact marks_closed (increment?_mem _ f inlineKey) _ _ _ hw

/-- A written column is found as its name, and as the words of its type and its marks. -/
theorem columnHead_written {s : Source} {d : Diagram} {f : Field} (hname : Bare f.name.toList)
    (inlineKey : Bool) {ws tail : List (List Char)}
    (htype : TypeWords ((Style.ofDialect s.dialect d).columnType f).toList ws tail) :
    ∃ found, Reading.columnHead.find?
        (quoted s f.name.toList ++ ' ' :: unwords (ws ++ markWords s d f inlineKey)) = some found ∧
      String.ofList (s.unquote (found.group "name")) = f.name ∧
      splitWords (found.group "rest") = ws ++ markWords s d f inlineKey := by
  have hclosed := written_closed inlineKey htype
  obtain ⟨⟨x, hx, hblank⟩, -⟩ := trimmed_unwords (by simp [htype.ne_nil]) hclosed
  obtain ⟨found, hfind, hfname, hfrest⟩ := columnHead_find? s hname fun y hy =>
    (Option.some.inj (hy.symm.trans hx)) ▸ hblank
  refine ⟨found, hfind, ?_, ?_⟩
  · rw [hfname, unquote_quoted s hname, String.ofList_toList]
  · rw [hfrest]
    exact splitWords_unwords fun w hw => ⟨(hclosed w hw).1.words, (hclosed w hw).2⟩

/-- A column is read back under its name, with the key and the uniqueness it was written with. -/
theorem column?_written {s : Source} {d : Diagram} {f : Field} (hname : Bare f.name.toList)
    (inlineKey : Bool) {ws tail : List (List Char)}
    (htype : TypeWords ((Style.ofDialect s.dialect d).columnType f).toList ws tail) :
    ∃ c, Reading.column? s
        (quoted s f.name.toList ++ ' ' :: unwords (ws ++ markWords s d f inlineKey))
          = some (c, []) ∧
      c.name = f.name ∧ c.primaryKey = inlineKey ∧ c.unique = Style.marksUnique f inlineKey := by
  have hmem := increment?_mem (Style.ofDialect s.dialect d) f inlineKey
  obtain ⟨found, hfind, hfname, hfwords⟩ := columnHead_written hname inlineKey htype
  obtain ⟨c, constraint, hc, hcname, hckey, hcunique⟩ := column?_of_find? s hfind
  -- The options are what is left of the type, and the marks.
  have hoptions : (splitType (ws ++ markWords s d f inlineKey)).2
      = tail ++ markWords s d f inlineKey :=
    htype.options _ (splitType_marks _ hmem _ _ _)
  obtain ⟨hkey, hunique, href⟩ := marks_read_back tail htype.tail_mem _ hmem (writesNotNull f)
    inlineKey (Style.marksUnique f inlineKey)
  rw [hfwords, hoptions] at hc hckey hcunique
  refine ⟨c, ?_, hcname.trans hfname, hckey.trans hkey, hcunique.trans hunique⟩
  rw [hc, markWords, href]
  rfl

open Pattern in
theorem inlineIndex_find? {l : Char} {text : List Char}
    (h : ∀ word ∈ ["FULLTEXT", "SPATIAL"] ++ ["KEY", "INDEX"],
      differ word.toList (l :: text) = true) :
    Reading.inlineIndex.find? (l :: text) = none := by
  have hanchored : Anchored Reading.inlineIndex := Anchored.textStart.seq.seq.seq.seq.seq.seq
  have hkind : Fails (group "kind" (oneOf ["FULLTEXT", "SPATIAL"]) ++ blanks) (l :: text) :=
    (Fails.oneOf (by simp) fun word hw => h word (List.mem_append_left _ hw)).group.seq
  have hindex : Fails (oneOf ["KEY", "INDEX"]) (l :: text) :=
    Fails.oneOf (by simp) fun word hw => h word (List.mem_append_right _ hw)
  have hfails : Fails (textStart ++ opt (group "kind" (oneOf ["FULLTEXT", "SPATIAL"]) ++ blanks)
      ++ oneOf ["KEY", "INDEX"]) (l :: text) :=
    (Fails.opt_seq hkind hindex).textStart_seq.assoc
  exact hanchored.find?_eq_none hfails.seq.seq.seq.seq

/-- A column is an element of its own, and no constraint. -/
theorem isConstraint_written (s : Source) (name text : List Char) :
    Reading.isConstraint (quoted s name ++ text) = false := by
  have hq := quotePair s
  rw [quoted]
  generalize (identifierQuotes s.dialect).1 = l at hq
  generalize (identifierQuotes s.dialect).2 = r at hq
  have htrim : trimStart (l :: name ++ [r] ++ text) = l :: (name ++ [r] ++ text) := by
    simp [trimStart, (isBlank_quote hq).1]
  rw [Reading.isConstraint, htrim, Pattern.occursIn]
  rcases hq.cases with ⟨rfl, rfl⟩ | ⟨rfl, rfl⟩ | ⟨rfl, rfl⟩ <;>
  · rw [inlineIndex_find? (by
      intro word hw
      simp only [List.cons_append, List.nil_append, List.mem_cons, List.not_mem_nil, or_false] at hw
      rcases hw with rfl | rfl | rfl | rfl <;> rfl)]
    rfl

end SchemaChart.Export
