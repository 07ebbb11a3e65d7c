-- The texts of types: a type that a script writes is taken apart into the name, the size and the
-- array mark it was written with, so that a field read back from it is written with the same type.
import SchemaChart.Import.Convert
import SchemaChart.Proofs.ColumnComments
import SchemaChart.Proofs.WrittenKeys

namespace SchemaChart.Schema

open Text
open Export (IsLength sizedNames typeNames)

/-! ## Taking a type apart -/

/-- The values in the parentheses of a type. -/
def sizeValues (cs : List Char) : List (List Char) :=
  ((pieces (· == ',') cs).map trim).filter (!·.isEmpty)

/-- What is written behind the type of an array. -/
def arrayMark (array : Bool) : List Char := if array then ['[', ']'] else []

theorem dropTail?_of_getLast? {tail cs : List Char} {t c : Char} (ht : tail.getLast? = some t)
    (hc : cs.getLast? = some c) (hne : t ≠ c) : dropTail? tail cs = none := by
  obtain ⟨ts, hts⟩ := List.head?_eq_some_iff.mp (List.head?_reverse.trans ht)
  obtain ⟨ds, hds⟩ := List.head?_eq_some_iff.mp (List.head?_reverse.trans hc)
  simp [dropTail?, hts, hds, dropHead?, hne]

/-- The array mark is taken off, if nothing like it stands before it. -/
theorem dropArrayMarks_mark {text : List Char} {c : Char} (h : text.getLast? = some c)
    (hblank : isBlank c = false) (hmark : c ≠ ']') (array : Bool) :
    dropArrayMarks (text ++ arrayMark array).length (text ++ arrayMark array) = (text, array) := by
  have hnone : dropTail? "[]".toList text = none :=
    dropTail?_of_getLast? (t := ']') rfl h hmark.symm
  have hunmarked : ∀ n, dropArrayMarks n text = (text, false) := by
    intro n
    cases n with
    | zero => rfl
    | succ n => rw [dropArrayMarks, hnone]
  cases array with
  | false => simpa [arrayMark] using hunmarked _
  | true =>
    have hend : trimEnd text = text := by
      obtain ⟨cs, rfl⟩ := List.getLast?_eq_some_iff.mp h
      simp [trimEnd, hblank]
    have hsome : dropTail? "[]".toList (text ++ arrayMark true) = some text :=
      dropTail?_eq_some_iff.mpr rfl
    have hlength : (text ++ arrayMark true).length = text.length + 1 + 1 := by simp [arrayMark]
    rw [hlength, dropArrayMarks, hsome]
    simp only [hend, hunmarked]

/-- A type with an array mark is the type without it, but for being an array. -/
theorem parseType_mark {text : List Char} (h : Trimmed text) (hmark : text.getLast? ≠ some ']')
    (array : Bool) :
    parseType (text ++ arrayMark array)
      = { parseType text with isArray := array || (parseType text).isArray } := by
  obtain ⟨c, hc, hblank⟩ := h.2
  have hne : c ≠ ']' := fun heq => hmark (heq ▸ hc)
  have htrim : trim (text ++ arrayMark array) = text ++ arrayMark array := by
    refine Trimmed.trim_eq ?_
    cases array with
    | false => simpa [arrayMark] using h
    | true =>
      obtain ⟨x, hx, hstart⟩ := h.1
      exact ⟨⟨x, by simp [List.head?_append, Option.mem_def.mp hx], hstart⟩,
        ']', by simp [arrayMark, List.getLast?_append], rfl⟩
  have hmarked := dropArrayMarks_mark hc hblank hne array
  have hunmarked := dropArrayMarks_mark hc hblank hne false
  rw [arrayMark, if_neg (by decide), List.append_nil] at hunmarked
  simp only [parseType, htrim, h.trim_eq, hmarked, hunmarked, Bool.false_or]

theorem dropArrayWord_eq_self {text : List Char} (h : text.getLast? = some ')') :
    dropArrayWord text = (text, false) := by
  obtain ⟨cs, rfl⟩ := List.getLast?_eq_some_iff.mp h
  have hlast : (upper (cs ++ [')'])).getLast? = some ')' := by
    have hparen : upper [')'] = [')'] := by decide
    rw [upper_append, hparen, List.getLast?_concat]
  have hnone : endsWith (upper (cs ++ [')'])) " ARRAY" = false := by
    rw [endsWith, dropTail?_of_getLast? (t := 'Y') rfl hlast (by decide)]
    rfl
  rw [dropArrayWord, if_neg (by simp [hnone])]

/-- May a character stand in a name that carries a size. -/
def isBaseChar (c : Char) : Bool := c != '(' && !isBlank c

/-- May a character stand in a size. -/
def isSizeChar (c : Char) : Bool := c != ')' && !isBlank c

open Pattern in
/-- A name with a size is found as the two. -/
theorem sizedType_find? {name size : List Char} (hname : name.all isBaseChar = true)
    (hsize : size.all isSizeChar = true) :
    ∃ f, sizedType.find? (name ++ '(' :: size ++ [')']) = some f ∧
      f.group "base" = name ∧ f.group "args" = size ∧ f.group "tail" = [] := by
  simp only [isBaseChar, isSizeChar, List.all_eq_true, Bool.and_eq_true, Bool.not_eq_true']
    at hname hsize
  have hstart : ∀ c ∈ (size ++ [')']).head?, isBlank c = false := by
    cases size with
    | nil => simp [isBlank]
    | cons d ds => simpa using (hsize d List.mem_cons_self).2
  have htail : Takes (group "tail" restOfLine) [] [] [("tail", [])] :=
    Takes.group "tail" (Takes.run (by simp) (by simp))
  have hclose : Takes (lit ")" ++ gap ++ group "tail" restOfLine ++ textEnd) [')'] []
      [("tail", [])] :=
    (((Takes.char ")" ')' rfl).seq (Takes.noGap (by simp))).seq htail).seq Takes.textEnd
  have hargs : Takes (group "args" (run true (· != ')'))) size [')'] [("args", size)] :=
    Takes.group "args" (Takes.run (fun c hc => (hsize c hc).1) (by simp))
  have hopen : Takes (gap ++ lit "(" ++ gap) ['('] (size ++ [')'] ++ []) [] :=
    ((Takes.noGap (by simp [isBlank])).seq (Takes.char "(" '(' rfl)).seq
      (Takes.noGap (by simpa using hstart))
  have hbehind : Takes (gap ++ lit "(" ++ gap ++ (group "args" (run true (· != ')'))
      ++ (lit ")" ++ gap ++ group "tail" restOfLine ++ textEnd))) ('(' :: (size ++ [')'])) []
      [("tail", []), ("args", size)] :=
    hopen.seq (Takes.seq (v := [')']) hargs hclose)
  -- The name is taken lazily: the parenthesis opens at none of its characters.
  have hbefore : ∀ x, x <:+ name → x ≠ [] →
      Fails (gap ++ lit "(" ++ gap) (x ++ ('(' :: (size ++ [')']) ++ [])) := by
    intro x hx hne
    obtain ⟨c, cs, rfl⟩ := List.exists_cons_of_ne_nil hne
    obtain ⟨hparen, hblank⟩ := hname c (hx.subset List.mem_cons_self)
    exact (Fails.gap_seq (Fails.char "(" '(' rfl (by simpa using hparen))
      (by simpa using hblank)).seq
  have hbase := Takes.lazyGroup "base" Takes.empty (fun c hc => (hname c hc).1) hbehind
    fun x hx hne => (hbefore x hx hne).seq
  have hfirst : TakesFirst sizedType (name ++ '(' :: (size ++ [')'])) []
      [("tail", []), ("args", size), ("base", name)] := TakesFirst.textStart.seq hbase
  have hfind := hfirst.find?
  rw [List.append_nil] at hfind
  exact ⟨_, by simpa using hfind, rfl, rfl, rfl⟩

/-- The names that carry a size are single words in lower case. -/
theorem sizedNames_letters : ∀ n ∈ sizedNames,
    n.toList ≠ [] ∧ n.toList.all isBaseChar = true ∧ normalizeName n.toList = n.toList := by
  decide +kernel

theorem trimmed_sized {name : List Char} (hne : name ≠ []) (hname : name.all isBaseChar = true)
    (size : List Char) : Trimmed (name ++ '(' :: size ++ [')']) := by
  obtain ⟨c, cs, rfl⟩ := List.exists_cons_of_ne_nil hne
  have hc : isBaseChar c = true := List.all_eq_true.mp hname c List.mem_cons_self
  simp only [isBaseChar, Bool.and_eq_true, Bool.not_eq_true'] at hc
  exact ⟨⟨c, by simp, hc.2⟩, ')', List.getLast?_concat, rfl⟩

/-- A type with a size is taken apart into its name, its size and its array mark. -/
theorem parseType_sized {n : String} (hn : n ∈ sizedNames) {size : List Char}
    (hsize : size.all isSizeChar = true) (array : Bool) :
    parseType (n.toList ++ '(' :: size ++ [')'] ++ arrayMark array)
      = ⟨n, sizeArgs n.toList (sizeValues size), array⟩ := by
  obtain ⟨hne, hletters, hnormal⟩ := sizedNames_letters n hn
  obtain ⟨f, hfind, hbase, hargs, htail⟩ := sizedType_find? hletters hsize
  have hlast : (n.toList ++ '(' :: size ++ [')']).getLast? = some ')' := List.getLast?_concat
  have htrimmed := trimmed_sized hne hletters size
  have hunmarked := dropArrayMarks_mark hlast rfl (by decide) false
  rw [arrayMark, if_neg (by decide), List.append_nil] at hunmarked
  have hparts : parseType (n.toList ++ '(' :: size ++ [')'])
      = ⟨n, sizeArgs n.toList (sizeValues size), false⟩ := by
    rw [parseType, htrimmed.trim_eq]
    simp only [hunmarked, dropArrayWord_eq_self hlast, hfind, hbase, hargs, htail,
      List.isEmpty_nil, if_true, hnormal, String.ofList_toList, Bool.or_false]
    rfl
  rw [parseType_mark htrimmed (by rw [hlast]; decide), hparts, Bool.or_false]

/-- The names of types are taken for themselves. -/
theorem typeNames_parts : ∀ n ∈ typeNames,
    parseType n.toList = ⟨n, {}, false⟩ ∧ n.toList.contains '(' = false ∧
      n.toList.head?.any (!isBlank ·) = true ∧
      n.toList.getLast?.any (fun c => !isBlank c && c != ']') = true := by
  decide +kernel

theorem parseType_name {n : String} (hn : n ∈ typeNames) (array : Bool) :
    parseType (n.toList ++ arrayMark array) = ⟨n, {}, array⟩ := by
  obtain ⟨hparts, -, hstart, hend⟩ := typeNames_parts n hn
  simp only [Option.any_eq_true, Bool.and_eq_true, Bool.not_eq_true', bne_iff_ne] at hstart hend
  obtain ⟨c, hc, hblank, hmark⟩ := hend
  have htrimmed : Trimmed n.toList := ⟨hstart, c, hc, hblank⟩
  rw [parseType_mark htrimmed (by simpa [hc] using hmark), hparts, Bool.or_false]

/-! ## Sizes -/

/-- The characters of bare names may stand in a size, and part no values in it. -/
theorem isSizeChar_of_isNameChar {c : Char} (h : isNameChar c = true) :
    isSizeChar c = true ∧ (c == ',') = false :=
  forall_ascii (P := fun c => isNameChar c = true → isSizeChar c = true ∧ (c == ',') = false)
    (by decide) (isNameChar_ascii h) h

theorem trimmed_of_isSizeChar {v : List Char} (hne : v ≠ []) (h : v.all isSizeChar = true) :
    Trimmed v := by
  have hblank : ∀ c ∈ v, isBlank c = false := by
    intro c hc
    have hsize := List.all_eq_true.mp h c hc
    simp only [isSizeChar, Bool.and_eq_true, Bool.not_eq_true'] at hsize
    exact hsize.2
  exact ⟨⟨v.head hne, List.head?_eq_some_head hne, hblank _ (List.head_mem hne)⟩,
    v.getLast hne, List.getLast?_eq_some_getLast hne, hblank _ (List.getLast_mem hne)⟩

/-- The values of a size are what stands between its commas. -/
theorem sizeValues_eq {cs : List Char} {values : List (List Char)}
    (hpieces : pieces (· == ',') cs = values) (hvalues : ∀ v ∈ values, Bare v) :
    sizeValues cs = values := by
  have htrim : values.map trim = values := by
    refine List.map_congr_left (g := id) (fun v hv => ?_) |>.trans (List.map_id values)
    obtain ⟨hne, hchars⟩ := hvalues v hv
    refine (trimmed_of_isSizeChar hne ?_).trim_eq
    exact List.all_eq_true.mpr fun c hc => (isSizeChar_of_isNameChar (hchars c hc)).1
  have hfilter : values.filter (!·.isEmpty) = values :=
    List.filter_eq_self.mpr fun v hv => by simpa using (hvalues v hv).1
  rw [sizeValues, hpieces, htrim, hfilter]

theorem pieces_bare {v : List Char} (h : Bare v) : pieces (· == ',') v = [v] :=
  pieces_eq_singleton fun c hc => (isSizeChar_of_isNameChar (h.2 c hc)).2

theorem bare_of_isDigit {v : List Char} (hne : v ≠ []) (h : v.all Char.isDigit = true) : Bare v :=
  ⟨hne, fun c hc => by simp [isNameChar, List.all_eq_true.mp h c hc]⟩

theorem bare_length {l : String} (h : IsLength l) (hne : l ≠ "") : Bare l.toList := by
  rcases h with h | rfl
  · exact bare_of_isDigit (by simpa using hne) h
  · exact ⟨by decide, List.all_eq_true.mp (by decide)⟩

theorem isDigit_toDigits (n : Nat) : (Nat.toDigits 10 n).all Char.isDigit = true :=
  List.all_eq_true.mpr fun _ hc => Nat.isDigit_of_mem_toDigits (by decide) (by decide) hc

theorem bare_toDigits (n : Nat) : Bare (Nat.toDigits 10 n) :=
  bare_of_isDigit Nat.toDigits_ne_nil (isDigit_toDigits n)

/-- A number is read back from its digits, if it is not too large. -/
theorem numberBelow?_digits (limit n : Nat) :
    numberBelow? limit (Nat.toDigits 10 n) = if n < limit then some n else none := by
  have hvalue : (Nat.toDigits 10 n).foldl (fun n d => 10 * n + (d.toNat - '0'.toNat)) 0 = n := by
    rw [← Nat.ofDigitChars_eq_foldl, Nat.ofDigitChars_ten_toDigits]
  have hdigits := isDigit_toDigits n
  obtain ⟨d, ds, hds⟩ := List.exists_cons_of_ne_nil (Nat.toDigits_ne_nil (b := 10) (n := n))
  rw [hds] at hvalue hdigits ⊢
  unfold numberBelow?
  split
  · next heq =>
    rw [heq] at hdigits
    exact absurd (List.all_eq_true.mp hdigits '+' List.mem_cons_self) (by decide)
  · simp only [hdigits, hvalue, List.isEmpty_cons, Bool.not_true, Bool.or_false,
      Bool.false_eq_true, if_false]

theorem numberBelow?_toDigits {limit n : Nat} (h : n < limit) :
    numberBelow? limit (Nat.toDigits 10 n) = some n := by
  rw [numberBelow?_digits, if_pos h]

/-- The text of a size: a length, or a precision that a scale may follow. -/
inductive SizeText : SizeKind → SizeArgs → List Char → Prop
  | length {l : String} : IsLength l → l ≠ "" → SizeText .length { length := some l } l.toList
  | precision (p : Nat) :
      SizeText .precisionScale { precision := some p } (Nat.toDigits 10 p)
  | scale (p q : Nat) :
      SizeText .precisionScale { precision := some p, scale := some q }
        (Nat.toDigits 10 p ++ ',' :: Nat.toDigits 10 q)

theorem SizeText.chars {kind : SizeKind} {args : SizeArgs} {size : List Char}
    (h : SizeText kind args size) : ∀ c ∈ size, isNameChar c = true ∨ c = ',' := by
  intro c hc
  cases h with
  | length hl hne => exact .inl ((bare_length hl hne).2 c hc)
  | precision p => exact .inl ((bare_toDigits p).2 c hc)
  | scale p q =>
    rcases List.mem_append.mp hc with hc | hc
    · exact .inl ((bare_toDigits p).2 c hc)
    · rcases List.mem_cons.mp hc with rfl | hc
      · exact .inr rfl
      · exact .inl ((bare_toDigits q).2 c hc)

theorem SizeText.all_isSizeChar {kind : SizeKind} {args : SizeArgs} {size : List Char}
    (h : SizeText kind args size) : size.all isSizeChar = true := by
  refine List.all_eq_true.mpr fun c hc => ?_
  rcases h.chars c hc with hname | rfl
  · exact (isSizeChar_of_isNameChar hname).1
  · decide

/-- Among the names that carry a size, the numeric ones carry a precision. -/
theorem isNumericName_sized : ∀ n ∈ sizedNames,
    isNumericName n.toList = (Catalog.sizeKind n == .precisionScale) := by
  decide +kernel

theorem eqIgnoringCase_digits {v : List Char} (hne : v ≠ []) (h : v.all Char.isDigit = true) :
    eqIgnoringCase v "max".toList = false := by
  obtain ⟨d, ds, rfl⟩ := List.exists_cons_of_ne_nil hne
  have hd := List.all_eq_true.mp h d List.mem_cons_self
  have hlower : d.toLower ≠ 'm' :=
    forall_ascii (P := fun c => c.isDigit = true → c.toLower ≠ 'm') (by decide)
      (isNameChar_ascii (by simp [isNameChar, hd])) hd
  have hmax : "max".toList.map Char.toLower = ['m', 'a', 'x'] := by decide
  rw [eqIgnoringCase, hmax]
  simp [hlower]

/-- The size of a type is read back. -/
theorem SizeText.read {n : String} (hn : n ∈ sizedNames) {args : SizeArgs} {size : List Char}
    (h : SizeText (Catalog.sizeKind n) args size) (hp : ∀ p ∈ args.precision, p < Nat.pow 2 32)
    (hq : ∀ q ∈ args.scale, q < Nat.pow 2 32) : sizeArgs n.toList (sizeValues size) = args := by
  have hnumeric := isNumericName_sized n hn
  generalize Catalog.sizeKind n = kind at h hnumeric
  cases h with
  | @length l hl hne =>
    have hbare := bare_length hl hne
    have hvalues : sizeValues l.toList = [l.toList] :=
      sizeValues_eq (pieces_bare hbare) (by simpa using hbare)
    rw [hvalues, sizeArgs, hnumeric, if_neg (by decide)]
    rcases hl with hdigits | rfl
    · simp only [eqIgnoringCase_digits hbare.1 hdigits, hdigits, Bool.false_eq_true, if_false,
        if_true, String.ofList_toList]
    · rfl
  | precision p =>
    have hvalues : sizeValues (Nat.toDigits 10 p) = [Nat.toDigits 10 p] :=
      sizeValues_eq (pieces_bare (bare_toDigits p)) (by simpa using bare_toDigits p)
    rw [hvalues, sizeArgs, hnumeric]
    simp [numberBelow?_toDigits (hp p rfl)]
  | scale p q =>
    have hvalues : sizeValues (Nat.toDigits 10 p ++ ',' :: Nat.toDigits 10 q)
        = [Nat.toDigits 10 p, Nat.toDigits 10 q] := by
      refine sizeValues_eq ?_ (by simpa using ⟨bare_toDigits p, bare_toDigits q⟩)
      rw [pieces_append (by simp), pieces_bare (bare_toDigits p), pieces_bare (bare_toDigits q)]
      rfl
    rw [hvalues, sizeArgs, hnumeric]
    simp [numberBelow?_toDigits (hp p rfl), numberBelow?_toDigits (hq q rfl)]

end SchemaChart.Schema

namespace SchemaChart.Export

open Text
open Diagram (Field)
open Schema (SizeArgs SizeText arrayMark isSizeChar parseType)

/-! ## Writing a type -/

/-- A field of which nothing but its type is known. -/
def sizedField (id : String) (args : SizeArgs) : Field :=
  { id := "", name := "", type := .named id, length := args.length, precision := args.precision,
    scale := args.scale }

/-- A catalog type with its size, as the scripts of a dialect write it. -/
def elementText (s : Source) (id : String) (args : SizeArgs) : String :=
  (targetType s.dialect id).text (sizedField id args)

/-- A type as the scripts of a dialect write it, or an array of it. -/
def arrayText (s : Source) (array : Bool) (element : String) : String :=
  if array then (arrayStandIn? s.dialect).getD (element ++ "[]") else element

/-- The size arguments that a field has. -/
def sizeOf (f : Field) : SizeArgs := ⟨f.length, f.precision, f.scale⟩

/-- A field of a catalog type is written by its type, its size and its array mark alone. -/
theorem typeText_eq (s : Source) (always : Bool) (types : List Diagram.CustomType) {f : Field}
    (hid : f.type.id ∈ Catalog.ids) :
    typeText ⟨s.dialect, always⟩ types f
      = arrayText s f.isList (elementText s f.type.id (sizeOf f)) := by
  have hcustom : customTypeOf? types f = none := by
    rw [customTypeOf?, if_pos (List.contains_iff_mem.mpr hid)]
  simp only [typeText, elementType, hcustom]
  rfl

theorem arrayText_toList {s : Source} {array : Bool}
    (h : array = true → arrayStandIn? s.dialect = none) (element : String) :
    (arrayText s array element).toList = element.toList ++ arrayMark array := by
  cases array with
  | false => simp [arrayText, arrayMark]
  | true => simp [arrayText, arrayMark, h rfl]

/-- The size of a field is one of the texts of a size. -/
theorem sizeText?_cases {f : Field} (hf : ∀ l ∈ f.length, IsLength l) {text : String}
    (h : sizeText? f = some text) :
    ∃ args size, SizeText (Catalog.sizeKind f.type.id) args size ∧
      text.toList = '(' :: size ++ [')'] ∧
      (∀ p ∈ args.precision, p ∈ f.precision) ∧ ∀ q ∈ args.scale, q ∈ f.scale := by
  unfold sizeText? at h
  split at h
  · next hkind =>
    obtain ⟨l, hl, rfl⟩ := Option.map_eq_some_iff.mp h
    obtain ⟨hl, hne⟩ := Option.filter_eq_some_iff.mp hl
    rw [hkind]
    exact ⟨_, _, .length (hf l hl) (by simpa using hne), by simp, by simp, by simp⟩
  · next hkind =>
    rw [hkind]
    split at h
    · next p q hp hq =>
      exact ⟨_, _, .scale p q, by simp [← Option.some.inj h], by simp [hp], by simp [hq]⟩
    · next p hp _ =>
      exact ⟨_, _, .precision p, by simp [← Option.some.inj h], by simp [hp], by simp⟩
    · cases h
  · cases h

/-- The text of a size is written for the arguments that it holds. -/
theorem sizeText?_written {id : String} {args : SizeArgs} {size : List Char}
    (h : SizeText (Catalog.sizeKind id) args size) :
    ∃ text, sizeText? (sizedField id args) = some text ∧ text.toList = '(' :: size ++ [')'] := by
  have hid : (sizedField id args).type.id = id := rfl
  rw [sizeText?, hid]
  generalize Catalog.sizeKind id = kind at h
  cases h with
  | @length l hl hne =>
    exact ⟨"(" ++ l ++ ")", by simp [sizedField, hne], by simp⟩
  | precision p => exact ⟨_, rfl, by simp⟩
  | scale p q => exact ⟨_, rfl, by simp⟩

/-! ## Types that are written as themselves -/

/-- The name that the size of a field is written behind. -/
def TargetType.sizedName? : TargetType → Option String
  | .fixed _ => none
  | .sized name | .sizedOr name _ => some name

theorem TargetType.text_sized {f : Field} {size name : String} {target : TargetType}
    (hname : target.sizedName? = some name) (hsize : sizeText? f = some size) :
    target.text f = name ++ size := by
  cases target with
  | fixed text => cases hname
  | sized other | sizedOr other standard =>
    rw [TargetType.text, hsize, Option.some.inj hname]
    rfl

/-- Does a dialect write a name for the catalog type that the name means. -/
def keepsName (s : Source) (n : String) : Bool :=
  typeNames.contains n &&
    (Catalog.lookup? n).any fun t => Catalog.ids.contains t.id && elementText s t.id {} == n

/-- Does a dialect write a name, and a size behind it, for the catalog type of that name. -/
def keepsSize (s : Source) (n : String) : Bool :=
  sizedNames.contains n && (targetType s.dialect n).sizedName? == some n

/-- Is what a dialect has for a catalog type written as itself, with and without a size. -/
def TargetType.isStable (s : Source) (id : String) : TargetType → Bool
  | .fixed text =>
    keepsName s text ||
      standardSizes.any fun (n, size) => keepsSize s n && text == n ++ "(" ++ size ++ ")"
  | .sized name =>
    keepsName s name && (Catalog.sizeKind id == .none ||
      keepsSize s name && Catalog.sizeKind name == Catalog.sizeKind id)
  | .sizedOr name size =>
    keepsSize s name && Catalog.sizeKind name == Catalog.sizeKind id &&
      Catalog.sizeKind name == .length && decide (IsLength size) && size != ""

theorem targetType_isStable (s : Source) : ∀ id ∈ Catalog.ids,
    (targetType s.dialect id).isStable s id = true := by
  cases s <;> decide +kernel

/-- Texts that are read as a type that is written by them again, and the size arguments that are
read from them. -/
inductive StableText (s : Source) : SizeArgs → List Char → Prop
  | name {n : String} : keepsName s n = true → StableText s {} n.toList
  | sized {n : String} {args : SizeArgs} {size : List Char} : keepsSize s n = true →
      SizeText (Catalog.sizeKind n) args size →
      StableText s args (n.toList ++ '(' :: size ++ [')'])

/-- Are precision and scale numbers of 32 bits. -/
def InRange (args : SizeArgs) : Prop :=
  (∀ p ∈ args.precision, p < Nat.pow 2 32) ∧ ∀ q ∈ args.scale, q < Nat.pow 2 32

theorem inRange_length (l : Option String) : InRange { length := l } := by simp [InRange]

theorem standardSizes_text : ∀ p ∈ standardSizes,
    ∃ args, SizeText (Catalog.sizeKind p.1) args p.2.toList ∧ InRange args := by
  have hlength : ∀ {n size : String}, Catalog.sizeKind n = .length → IsLength size → size ≠ "" →
      ∃ args, SizeText (Catalog.sizeKind n) args size.toList ∧ InRange args := by
    intro n size hkind hsize hne
    rw [hkind]
    exact ⟨_, .length hsize hne, inRange_length size⟩
  have hscale : ∃ args, SizeText (Catalog.sizeKind "decimal") args "19,4".toList ∧ InRange args :=
    ⟨_, .scale 19 4, by simp [InRange]⟩
  intro p hp
  simp only [standardSizes, List.mem_cons, List.not_mem_nil, or_false] at hp
  rcases hp with rfl | rfl | rfl | rfl | rfl | rfl
  case inr.inl => exact hscale
  all_goals exact hlength (by decide) (by decide) (by decide)

/-- The size of a field is stable behind a name that keeps its size. -/
theorem stableText_sized {s : Source} {id name text : String} {args : SizeArgs}
    (hkeeps : keepsSize s name = true) (hkind : Catalog.sizeKind name = Catalog.sizeKind id)
    (hlength : ∀ l ∈ args.length, IsLength l) (hsize : sizeText? (sizedField id args) = some text) :
    ∃ kept, StableText s kept (name ++ text).toList ∧ (InRange args → InRange kept) := by
  obtain ⟨kept, size, hkept, htext, hp, hq⟩ := sizeText?_cases hlength hsize
  have hkept : SizeText (Catalog.sizeKind name) kept size := hkind ▸ hkept
  refine ⟨kept, by simpa [htext] using StableText.sized hkeeps hkept, fun hrange => ?_⟩
  exact ⟨fun p hmem => hrange.1 p (hp p hmem), fun q hmem => hrange.2 q (hq q hmem)⟩

/-- Every catalog type is written as a text that is stable. -/
theorem elementText_stable (s : Source) {id : String} (hid : id ∈ Catalog.ids) (args : SizeArgs)
    (hlength : ∀ l ∈ args.length, IsLength l) :
    ∃ kept, StableText s kept (elementText s id args).toList ∧ (InRange args → InRange kept) := by
  have hstable := targetType_isStable s id hid
  rw [elementText]
  cases htarget : targetType s.dialect id with
  | fixed text =>
    rw [htarget] at hstable
    simp only [TargetType.isStable, Bool.or_eq_true, List.any_eq_true, Bool.and_eq_true,
      beq_iff_eq] at hstable
    rcases hstable with hname | ⟨⟨n, size⟩, hmem, hsize, rfl⟩
    · exact ⟨{}, .name hname, fun _ => inRange_length none⟩
    · obtain ⟨kept, hkept, hrange⟩ := standardSizes_text _ hmem
      exact ⟨kept, by simpa [TargetType.text] using StableText.sized hsize hkept, fun _ => hrange⟩
  | sized name =>
    rw [htarget] at hstable
    simp only [TargetType.isStable, Bool.or_eq_true, Bool.and_eq_true, beq_iff_eq] at hstable
    obtain ⟨hname, hkeeps⟩ := hstable
    cases hsize : sizeText? (sizedField id args) with
    | none =>
      exact ⟨{}, by simpa [TargetType.text, hsize] using StableText.name hname,
        fun _ => inRange_length none⟩
    | some text =>
      rcases hkeeps with hkind | ⟨hkeeps, hkind⟩
      · rw [sizeText?_eq_none hkind] at hsize
        cases hsize
      · rw [TargetType.text_sized rfl hsize]
        exact stableText_sized hkeeps hkind hlength hsize
  | sizedOr name standard =>
    rw [htarget] at hstable
    simp only [TargetType.isStable, Bool.and_eq_true, beq_iff_eq, bne_iff_ne,
      decide_eq_true_eq] at hstable
    obtain ⟨⟨⟨⟨hkeeps, hkind⟩, hbounded⟩, hstandard⟩, hne⟩ := hstable
    cases hsize : sizeText? (sizedField id args) with
    | none =>
      have hkept : SizeText (Catalog.sizeKind name) { length := some standard }
          standard.toList := by
        rw [hbounded]
        exact .length hstandard hne
      refine ⟨{ length := some standard }, ?_, fun _ => inRange_length standard⟩
      simpa [TargetType.text, hsize] using StableText.sized hkeeps hkept
    | some text =>
      rw [TargetType.text_sized rfl hsize]
      exact stableText_sized hkeeps hkind hlength hsize

theorem arrayStandIn?_stable {s : Source} {text : String}
    (h : arrayStandIn? s.dialect = some text) :
    ∃ kept, StableText s kept text.toList ∧ InRange kept := by
  have hmax : "nvarchar(max)".toList = "nvarchar".toList ++ '(' :: "max".toList ++ [')'] := rfl
  cases s with
  | postgresql => cases h
  | mysql | mariadb | sqlite =>
    exact ⟨{}, Option.some.inj h ▸ .name (by decide +kernel), inRange_length none⟩
  | sqlServer =>
    have hsize : SizeText (Catalog.sizeKind "nvarchar") { length := some "max" } "max".toList :=
      .length (.inr rfl) (by decide)
    have hkeeps : keepsSize .sqlServer "nvarchar" = true := by decide +kernel
    rw [← Option.some.inj h, hmax]
    exact ⟨_, .sized hkeeps hsize, inRange_length "max"⟩

/-- The type of a field is a stable text, with an array mark where the dialect has one. -/
theorem typeText_stable (s : Source) (always : Bool) (types : List Diagram.CustomType) {f : Field}
    (hid : f.type.id ∈ Catalog.ids) (hlength : ∀ l ∈ f.length, IsLength l) :
    ∃ kept element array, StableText s kept element ∧ (InRange (sizeOf f) → InRange kept) ∧
      (array = true → arrayStandIn? s.dialect = none) ∧
      (typeText ⟨s.dialect, always⟩ types f).toList = element ++ arrayMark array := by
  obtain ⟨kept, helement, hrange⟩ := elementText_stable s hid (sizeOf f) hlength
  rw [typeText_eq s always types hid]
  by_cases harray : f.isList = true → arrayStandIn? s.dialect = none
  · exact ⟨kept, _, f.isList, helement, hrange, harray, arrayText_toList harray _⟩
  · simp only [Classical.not_imp, ← Option.isSome_iff_ne_none, Option.isSome_iff_exists] at harray
    obtain ⟨hlist, text, htext⟩ := harray
    obtain ⟨kept, hstandIn, hrange⟩ := arrayStandIn?_stable htext
    refine ⟨kept, text.toList, false, hstandIn, fun _ => hrange, by simp, ?_⟩
    simp [arrayText, hlist, htext, arrayMark]

/-! ## Reading a type back -/

/-- A type declares no enumeration unless it is a parenthesis behind `enum`. -/
theorem inlineLabels?_eq_none {cs : List Char}
    (h : ∀ before rest, cutAt? ['('] cs = some (before, rest) →
      Schema.normalizeName before ≠ "enum".toList) : Import.inlineLabels? cs = none := by
  unfold Import.inlineLabels?
  cases hcut : cutAt? ['('] cs with
  | none => rfl
  | some p =>
    have hname : (Schema.normalizeName p.1 != "enum".toList) = true :=
      bne_iff_ne.mpr (h p.1 p.2 hcut)
    simp only [Option.bind_eq_bind, Option.bind_some, hname, if_true, ite_self]

theorem cutAt?_of_notMem {cs : List Char} (h : '(' ∉ cs) : cutAt? ['('] cs = none := by
  have hholds : holds cs "(" = false := by
    rw [← Bool.not_eq_true, holds_iff]
    exact fun hin => h (hin.subset (by simp))
  simpa [holds] using hholds

/-- A stable text is taken apart into what it was written from. -/
theorem StableText.read {s : Source} {kept : SizeArgs} {element : List Char}
    (h : StableText s kept element) (hrange : InRange kept) (array : Bool) :
    ∃ base t, parseType (element ++ arrayMark array) = ⟨base, kept, array⟩ ∧
      Catalog.lookup? base = some t ∧ t.id ∈ Catalog.ids ∧
      (elementText s t.id kept).toList = element ∧
      Import.inlineLabels? (element ++ arrayMark array) = none := by
  cases h with
  | @name n hkeeps =>
    simp only [keepsName, Bool.and_eq_true, List.contains_iff_mem, Option.any_eq_true,
      beq_iff_eq] at hkeeps
    obtain ⟨hn, t, ht, hid, htext⟩ := hkeeps
    obtain ⟨-, hparen, -⟩ := Schema.typeNames_parts n hn
    have hnone : '(' ∉ n.toList ++ arrayMark array := by
      cases array <;> simpa [arrayMark] using hparen
    refine ⟨n, t, Schema.parseType_name hn array, ht, hid, by rw [htext], ?_⟩
    exact inlineLabels?_eq_none (by simp [cutAt?_of_notMem hnone])
  | @sized n args size hkeeps hsize =>
    simp only [keepsSize, Bool.and_eq_true, List.contains_iff_mem, beq_iff_eq] at hkeeps
    obtain ⟨hn, hname⟩ := hkeeps
    obtain ⟨text, htext, hlist⟩ := sizeText?_written hsize
    have hid : n ∈ Catalog.ids := List.mem_append_left _ hn
    refine ⟨n, .named n, ?_, ?_, hid, ?_, ?_⟩
    · rw [Schema.parseType_sized hn hsize.all_isSizeChar, hsize.read hn hrange.1 hrange.2]
    · rw [Catalog.lookup?, if_pos (List.contains_iff_mem.mpr hid)]
    · show (elementText s n kept).toList = _
      rw [elementText, TargetType.text_sized hname htext]
      simp [hlist]
    · obtain ⟨-, hletters, hnormal⟩ := Schema.sizedNames_letters n hn
      have hparen : '(' ∉ n.toList := fun hmem => by
        simpa [Schema.isBaseChar] using List.all_eq_true.mp hletters '(' hmem
      have hcut : cutAt? ['('] (n.toList ++ '(' :: size ++ [')'] ++ arrayMark array)
          = some (n.toList, '(' :: (size ++ [')'] ++ arrayMark array)) := by
        simpa using cutAt?_paren hparen (size ++ [')'] ++ arrayMark array)
      have henum : n ≠ "enum" := by
        rintro rfl
        exact absurd hn (by decide +kernel)
      refine inlineLabels?_eq_none fun before rest h => ?_
      rw [hcut] at h
      cases h
      rw [hnormal]
      exact fun h => henum (String.toList_inj.mp h)

/-- The size arguments that a type has no use for do not show in its text. -/
theorem elementText_kept (s : Source) (id : String) (args : SizeArgs) :
    elementText s id
        ⟨if Catalog.sizeKind id == .length then args.length else none,
          if Catalog.sizeKind id == .precisionScale then args.precision else none,
          if Catalog.sizeKind id == .precisionScale then args.scale else none⟩
      = elementText s id args := by
  have htext : ∀ {target : TargetType} {f g : Field}, sizeText? f = sizeText? g →
      target.text f = target.text g := by
    intro target f g h
    cases target <;> simp [TargetType.text, h]
  refine htext ?_
  simp only [sizeText?, sizedField, DataType.named]
  cases Catalog.sizeKind id <;> rfl

/-- A column whose type is a stable text becomes a field that is written with that text. -/
theorem typeText_field_stable {s : Source} {kept : SizeArgs} {element : List Char}
    (h : StableText s kept element) (hrange : InRange kept) {array : Bool}
    (harray : array = true → arrayStandIn? s.dialect = none) (t : Schema.Table)
    (declared : List Schema.CustomType) (id : String) {c : Schema.Column}
    (hc : c.type.toList = element ++ arrayMark array)
    (hargs : ∀ args ∈ c.typeArgs, args = (parseType c.type.toList).args) (always : Bool)
    (types : List Diagram.CustomType) :
    typeText ⟨s.dialect, always⟩ types (Import.field t declared id c) = c.type := by
  obtain ⟨base, type, hparts, hlookup, hid, htext, hlabels⟩ := h.read hrange array
  rw [← hc] at hparts hlabels
  have hmap : Import.mapType c.type.toList declared = type := by
    simp [Import.mapType, hparts, hlookup]
  have hinline : Import.inlineType? t c = none := by simp [Import.inlineType?, hlabels]
  have hkept : c.typeArgs.getD kept = kept := by
    cases htypeArgs : c.typeArgs with
    | none => rfl
    | some args => simpa [hparts] using hargs args htypeArgs
  have htype : (Import.field t declared id c).type = type := by
    simp only [Import.field, hinline, hmap]
  have hlist : (Import.field t declared id c).isList = array := by
    simp only [Import.field, Diagram.Field.isList, hparts]
    cases array <;> rfl
  have hsize : elementText s type.id (sizeOf (Import.field t declared id c))
      = elementText s type.id kept := by
    simp only [sizeOf, Import.field, hinline, hmap, hparts, hkept]
    exact elementText_kept s type.id kept
  rw [typeText_eq s always types (by rwa [htype]), htype, hlist, hsize, ← String.toList_inj,
    arrayText_toList harray, htext, hc]

/-- A field read from the text of a catalog type is written with that text again. -/
theorem written_types_keep_their_text (s : Source) (always : Bool)
    (types types' : List Diagram.CustomType) {f : Field} (hid : f.type.id ∈ Catalog.ids)
    (hlength : ∀ l ∈ f.length, IsLength l) (hprecision : ∀ p ∈ f.precision, p < Nat.pow 2 32)
    (hscale : ∀ q ∈ f.scale, q < Nat.pow 2 32) (t : Schema.Table)
    (declared : List Schema.CustomType) (id : String) {c : Schema.Column}
    (htype : c.type = typeText ⟨s.dialect, always⟩ types f)
    (hargs : ∀ args ∈ c.typeArgs, args = (parseType c.type.toList).args) :
    typeText ⟨s.dialect, always⟩ types' (Import.field t declared id c)
      = typeText ⟨s.dialect, always⟩ types f := by
  obtain ⟨kept, element, array, hstable, hrange, harray, htext⟩ :=
    typeText_stable s always types hid hlength
  rw [← htype] at htext ⊢
  exact typeText_field_stable hstable (hrange ⟨hprecision, hscale⟩) harray t declared id htext hargs
    always types'

/-- A list of texts of bounded length, which PostgreSQL has another name for. -/
def tagsField : Field :=
  { id := "f0", name := "tags", type := .named "nvarchar", isArray := some true,
    length := some "80" }

theorem tags_keep_their_text :
    tagsField.type.id ∈ Catalog.ids ∧ (∀ l ∈ tagsField.length, IsLength l) ∧
      typeText ⟨.postgresql, true⟩ [] tagsField = "varchar(80)[]" ∧
      typeText ⟨.postgresql, true⟩ [] (Import.field { name := "posts", schema := none } [] "f0"
        { name := "tags", type := "varchar(80)[]" }) = "varchar(80)[]" := by
  have hid : tagsField.type.id ∈ Catalog.ids := by decide +kernel
  have hlength : ∀ l ∈ tagsField.length, IsLength l := by decide
  have htext : typeText ⟨.postgresql, true⟩ [] tagsField = "varchar(80)[]" := by decide +kernel
  refine ⟨hid, hlength, htext, ?_⟩
  exact (written_types_keep_their_text .postgresql true [] [] hid hlength (by simp [tagsField])
    (by simp [tagsField]) _ [] "f0" htext.symm (by simp)).trans htext

end SchemaChart.Export
