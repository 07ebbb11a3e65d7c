-- The columns of a query, as views read them. The list is read up to the word that ends it. Behind
-- an underscore that word counts even inside a name, so that a name which ends in it ends the list.
import Mathlib.Data.List.Basic
import SchemaChart.Proofs.TypeTexts
import SchemaChart.Reading.View

namespace SchemaChart.Text

/-! ## Bytes and last characters -/

theorem fromByte_ascii {w : List Char} (hw : ∀ c ∈ w, c.toNat < 128) (n : Nat)
    (rest : List Char) : fromByte (n + w.length) n (w ++ rest) = (n + w.length, rest) := by
  induction w generalizing n with
  | nil =>
    cases rest with
    | nil => rfl
    | cons c cs => simp [fromByte]
  | cons c w ih =>
    have hc : c.toNat < 128 := hw c List.mem_cons_self
    have hsize : c.utf8Size = 1 :=
      Char.utf8Size_eq_one_iff.mpr (UInt32.le_iff_toNat_le.mpr (Nat.le_of_lt_succ hc))
    have hlength : n + (c :: w).length = n + 1 + w.length := by
      rw [List.length_cons]
      omega
    have hpassed : ¬ n + 1 + w.length ≤ n := by omega
    rw [hlength, List.cons_append, fromByte, if_neg hpassed, hsize]
    exact ih (fun x hx => hw x (List.mem_cons_of_mem c hx)) (n + 1)

/-- In an ASCII text, bytes are characters. -/
theorem splitBytes?_ascii {w : List Char} (hw : ∀ c ∈ w, c.toNat < 128) (rest : List Char) :
    splitBytes? w.length (w ++ rest) = some (w, rest) := by
  have hfrom := fromByte_ascii hw 0 rest
  rw [Nat.zero_add] at hfrom
  simp [splitBytes?, hfrom]

end SchemaChart.Text

namespace SchemaChart.Reading

open Text
open Export (needsQuotes)

/-! ## The word that ends a list -/

theorem beforeFrom_plain {c : Char} (hc : isPlain c = true) (hf : c ≠ 'F' ∧ c ≠ 'f')
    (before : Option Char) (cs : List Char) :
    beforeFrom {} before (c :: cs) = (beforeFrom {} (some c) cs).map (c :: ·) := by
  obtain ⟨hopens, hleft, hright⟩ := Grouping.opens_plain (.inr rfl) hc
  have hstep : Grouping.words.step {} c = {} := by
    simp [Grouping.step, hopens, hleft, hright]
  rw [beforeFrom, if_neg (by simp [hf]), hstep]

/-- Four characters ahead are compared with the word, if they are all ASCII. -/
theorem beforeFrom_ascii {c : Char} {w : List Char} (hc : isPlain c = true)
    (hw : ∀ d ∈ c :: w, d.toNat < 128) (hlength : w.length = 3) (before : Option Char)
    (rest : List Char) :
    beforeFrom {} before (c :: w ++ rest) =
      if eqIgnoringCase (c :: w) "FROM".toList && freeBefore before && freeBehind rest then some []
      else (beforeFrom {} (some c) (w ++ rest)).map (c :: ·) := by
  by_cases hf : c = 'F' ∨ c = 'f'
  · have hsplit := splitBytes?_ascii hw rest
    rw [List.length_cons, hlength] at hsplit
    rw [List.cons_append] at hsplit ⊢
    rw [beforeFrom, if_pos (by simpa using hf), hsplit]
  · rw [not_or] at hf
    have hne : eqIgnoringCase (c :: w) "FROM".toList = false := by
      have hlower : c.toLower ≠ 'f' :=
        forall_ascii (P := fun c => c ≠ 'F' ∧ c ≠ 'f' → c.toLower ≠ 'f') (by decide)
          (hw c List.mem_cons_self) hf
      rw [eqIgnoringCase, beq_eq_false_iff_ne]
      exact fun h => hlower (List.cons.inj h).1
    rw [hne, List.cons_append, beforeFrom_plain hc hf]
    rfl

/-- What may stand behind a name of a list: it cuts the name off, and is long enough to be compared
with the word. -/
structure Follows (r : List Char) : Prop where
  first : ∃ c ∈ r.head?, isBreak c = true
  ascii : ∀ c ∈ r, c.toNat < 128
  long : 3 ≤ r.length

theorem freeBefore_nameChar {c : Char} (h : isNameChar c = true) :
    freeBefore (some c) = (c == '_') :=
  forall_ascii (P := fun c => isNameChar c = true → freeBefore (some c) = (c == '_')) (by decide)
    (isNameChar_ascii h) h

theorem freeBehind_nameChar {c : Char} (h : isNameChar c = true) (cs : List Char) :
    freeBehind (c :: cs) = false :=
  forall_ascii (P := fun c => isNameChar c = true → freeBehind (c :: []) = false) (by decide)
    (isNameChar_ascii h) h

theorem Follows.freeBehind {r : List Char} (hr : Follows r) : freeBehind r = true := by
  obtain ⟨c, hc, hbreak⟩ := hr.first
  obtain ⟨cs, rfl⟩ := List.head?_eq_some_iff.mp hc
  exact forall_ascii (P := fun c => isBreak c = true → Reading.freeBehind (c :: []) = true)
    (by decide) (hr.ascii c List.mem_cons_self) hbreak

/-- A word that is read in either case starts with as much of a name as was compared with it. -/
theorem Follows.take_eq {u r w : List Char} {m : Nat} (hu : ∀ c ∈ u, isNameChar c = true)
    (hr : Follows r) (h : eqIgnoringCase ((u ++ r).take m) w = true) :
    u.take m = (w.map Char.toLower).takeWhile isNameChar := by
  obtain ⟨c, hc, hbreak⟩ := hr.first
  obtain ⟨cs, rfl⟩ := List.head?_eq_some_iff.mp hc
  have hname : ∀ d ∈ u.take m, isNameChar d = true := fun d hd => hu d (List.mem_of_mem_take hd)
  have hlower : (u.take m).map Char.toLower = u.take m :=
    (List.map_congr_left fun d hd => toLower_of_isNameChar (hname d hd)).trans (List.map_id _)
  have hstop : isNameChar c.toLower = false :=
    forall_ascii (P := fun c => isBreak c = true → isNameChar c.toLower = false) (by decide)
      (hr.ascii c List.mem_cons_self) hbreak
  have hbehind : (((c :: cs).take (m - u.length)).map Char.toLower).takeWhile isNameChar = [] := by
    cases m - u.length with
    | zero => rfl
    | succ k => simp [hstop]
  rw [eqIgnoringCase, beq_iff_eq] at h
  rw [← h, List.take_append, List.map_append, hlower, List.takeWhile_append_of_pos hname, hbehind,
    List.append_nil]

/-- The word is found at a name only if it is what is left of the name. -/
theorem Follows.eq_from {u r : List Char} (hu : ∀ c ∈ u, isNameChar c = true) (hr : Follows r)
    (hword : eqIgnoringCase ((u ++ r).take 4) "FROM".toList = true)
    (hfree : Reading.freeBehind ((u ++ r).drop 4) = true) : u = "from".toList := by
  have htake : u.take 4 = "from".toList := hr.take_eq hu hword
  have hlong : 4 ≤ u.length := by
    have hlength := congrArg List.length htake
    have hfour : "from".toList.length = 4 := rfl
    rw [List.length_take, hfour] at hlength
    omega
  rw [List.drop_append_of_le_length hlong] at hfree
  cases hdrop : u.drop 4 with
  | nil => rw [← htake, List.take_of_length_le (List.drop_eq_nil_iff.mp hdrop)]
  | cons c cs =>
    have hc : c ∈ u := List.mem_of_mem_drop (hdrop ▸ List.mem_cons_self)
    rw [hdrop, List.cons_append, freeBehind_nameChar (hu c hc)] at hfree
    cases hfree

theorem Follows.beforeFrom_eq {c : Char} {u r : List Char}
    (hu : ∀ d ∈ c :: u, isNameChar d = true) (hr : Follows r) (before : Option Char) :
    beforeFrom {} before (c :: u ++ r) =
      if eqIgnoringCase ((c :: u ++ r).take 4) "FROM".toList && freeBefore before
        && Reading.freeBehind ((c :: u ++ r).drop 4) then some []
      else (beforeFrom {} (some c) (u ++ r)).map (c :: ·) := by
  have hascii : ∀ d ∈ c :: (u ++ r).take 3, d.toNat < 128 := by
    intro d hd
    rcases List.mem_cons.mp hd with rfl | hd
    · exact isNameChar_ascii (hu d List.mem_cons_self)
    · rcases List.mem_append.mp (List.mem_of_mem_take hd) with hd | hd
      · exact isNameChar_ascii (hu d (List.mem_cons_of_mem c hd))
      · exact hr.ascii d hd
  have hlength : ((u ++ r).take 3).length = 3 := by
    have hlong := hr.long
    rw [List.length_take, List.length_append]
    omega
  have hstep := beforeFrom_ascii (isNameChar_plain (hu c List.mem_cons_self)).1 hascii hlength
    before ((u ++ r).drop 3)
  rwa [List.cons_append, List.take_append_drop] at hstep

/-- The search goes past a character of a name, if it does not stand before the word. -/
theorem Follows.beforeFrom_cons {c : Char} {u r : List Char}
    (hu : ∀ d ∈ c :: u, isNameChar d = true) (hr : Follows r) {before : Option Char}
    (h : c :: u = "from".toList → freeBefore before = false) :
    beforeFrom {} before (c :: u ++ r) = (beforeFrom {} (some c) (u ++ r)).map (c :: ·) := by
  rw [hr.beforeFrom_eq hu, if_neg]
  intro hstop
  simp only [Bool.and_eq_true] at hstop
  obtain ⟨⟨hword, hbefore⟩, hbehind⟩ := hstop
  rw [h (hr.eq_from hu hword hbehind)] at hbefore
  cases hbefore

/-! ## One name of a list -/

/-- The search goes past a name that does not end in the word, or ends in it right behind a letter
or a digit. -/
theorem beforeFrom_passed {u r : List Char} (hu : ∀ c ∈ u, isNameChar c = true) (hr : Follows r)
    (before : Option Char)
    (h : ∀ x, u = x ++ "from".toList → freeBefore (x.getLast?.or before) = false) :
    beforeFrom {} before (u ++ r) = (beforeFrom {} (u.getLast?.or before) r).map (u ++ ·) := by
  induction u generalizing before with
  | nil => simp
  | cons c u ih =>
    have hrest : ∀ x, u = x ++ "from".toList → freeBefore (x.getLast?.or (some c)) = false := by
      rintro x rfl
      rw [← getLast?_cons_or c x before]
      exact h (c :: x) rfl
    have hfirst : c :: u = "from".toList → freeBefore before = false := h []
    rw [hr.beforeFrom_cons hu hfirst,
      ih (fun d hd => hu d (List.mem_cons_of_mem c hd)) _ hrest, getLast?_cons_or, Option.map_map]
    rfl

/-- The search stops in a name that ends in the word, if nothing before the word holds it back. -/
theorem beforeFrom_stopped {x r : List Char} (hx : ∀ c ∈ x, isNameChar c = true) (hr : Follows r)
    {before : Option Char} (h : freeBefore (x.getLast?.or before) = true) :
    beforeFrom {} before (x ++ "from".toList ++ r) = some x := by
  have hword : ∀ c ∈ "from".toList, isNameChar c = true := List.all_eq_true.mp (by decide)
  induction x generalizing before with
  | nil =>
    have hbefore : freeBefore before = true := h
    have htake : ("from".toList ++ r).take 4 = "from".toList := rfl
    have hdrop : ("from".toList ++ r).drop 4 = r := rfl
    have hsame : eqIgnoringCase "from".toList "FROM".toList = true := by decide
    rw [List.nil_append]
    refine (hr.beforeFrom_eq hword before).trans (if_pos ?_)
    have hbehind := hr.freeBehind
    rw [← hdrop] at hbehind
    rw [Bool.and_eq_true, Bool.and_eq_true]
    exact ⟨⟨htake ▸ hsame, hbefore⟩, hbehind⟩
  | cons c x ih =>
    have hall : ∀ d ∈ c :: (x ++ "from".toList), isNameChar d = true := by
      intro d hd
      rw [← List.cons_append, List.mem_append] at hd
      exact hd.elim (hx d) (hword d)
    rw [getLast?_cons_or] at h
    have hlonger : c :: (x ++ "from".toList) ≠ "from".toList := by
      intro heq
      have hlength := congrArg List.length heq
      simp at hlength
    rw [List.cons_append, hr.beforeFrom_cons hall fun heq => absurd heq hlonger,
      ih (fun d hd => hx d (List.mem_cons_of_mem c hd)) h]
    rfl

/-- A name up to the word `from` at its end, if an underscore stands before the word. -/
def stem? (n : List Char) : Option (List Char) :=
  (dropTail? "_from".toList n).map (· ++ ['_'])

theorem stem?_eq_some {n x : List Char} (h : stem? n = some x) :
    n = x ++ "from".toList ∧ x.getLast? = some '_' := by
  obtain ⟨y, hy, rfl⟩ := Option.map_eq_some_iff.mp h
  rw [dropTail?_eq_some_iff] at hy
  exact ⟨by rw [hy, List.append_assoc]; rfl, List.getLast?_concat⟩

theorem stem?_eq_none {n : List Char} : stem? n = none ↔ ¬ "_from".toList <:+ n := by
  rw [stem?, Option.map_eq_none_iff, Option.eq_none_iff_forall_ne_some]
  constructor
  · rintro h ⟨y, hy⟩
    exact h y (dropTail?_eq_some_iff.mpr hy.symm)
  · intro h y hy
    exact h ⟨y, (dropTail?_eq_some_iff.mp hy).symm⟩

/-- Any other name than the word itself is passed, unless it has a stem. -/
theorem beforeFrom_name {n r : List Char} (hn : Bare n) (hword : n ≠ "from".toList)
    (hr : Follows r) {before : Option Char} :
    beforeFrom {} before (n ++ r) =
      match stem? n with
      | some x => some x
      | none => (beforeFrom {} (n.getLast?.or before) r).map (n ++ ·) := by
  cases hstem : stem? n with
  | some x =>
    obtain ⟨rfl, hlast⟩ := stem?_eq_some hstem
    refine beforeFrom_stopped (fun c hc => hn.2 c (List.mem_append_left _ hc)) hr ?_
    rw [hlast, Option.some_or]
    decide
  | none =>
    refine beforeFrom_passed hn.2 hr before ?_
    rintro x rfl
    have hne : x ≠ [] := by
      rintro rfl
      exact hword rfl
    -- before the word stands a character of the name, and an underscore would make a stem
    obtain ⟨y, c, rfl⟩ := List.eq_nil_or_concat x |>.resolve_left hne
    rw [List.concat_eq_append, List.getLast?_concat, Option.some_or,
      freeBefore_nameChar (hn.2 c (by simp)), beq_eq_false_iff_ne]
    rintro rfl
    exact stem?_eq_none.mp hstem ⟨y, by simp⟩

/-! ## Lists of names -/

/-- The names that are read of a list: those up to the first that has a stem, which is read in its
place. -/
def readNames : List (List Char) → List (List Char)
  | [] => []
  | n :: ns =>
    match stem? n with
    | some x => [x]
    | none => n :: readNames ns

theorem readNames_eq_self {ns : List (List Char)} :
    readNames ns = ns ↔ ∀ n ∈ ns, ¬ "_from".toList <:+ n := by
  induction ns with
  | nil => simp [readNames]
  | cons n ns ih =>
    rw [List.forall_mem_cons, ← stem?_eq_none, ← ih, readNames]
    cases hstem : stem? n with
    | none => simp
    | some x =>
      have hlonger : [x] ≠ n :: ns := by
        intro heq
        have hlength := congrArg List.length (stem?_eq_some hstem).1
        rw [(List.cons.inj heq).1] at hlength
        simp at hlength
      simpa using hlonger

theorem readNames_bare {ns : List (List Char)} (h : ∀ n ∈ ns, Bare n) :
    ∀ n ∈ readNames ns, Bare n := by
  induction ns with
  | nil => exact h
  | cons n ns ih =>
    rw [readNames]
    cases hstem : stem? n with
    | none =>
      intro m hm
      rcases List.mem_cons.mp hm with rfl | hm
      · exact h m List.mem_cons_self
      · exact ih (fun x hx => h x (List.mem_cons_of_mem n hx)) m hm
    | some x =>
      obtain ⟨rfl, hlast⟩ := stem?_eq_some hstem
      intro m hm
      obtain rfl := List.mem_singleton.mp hm
      refine ⟨?_, fun c hc => (h _ List.mem_cons_self).2 c (List.mem_append_left _ hc)⟩
      rintro rfl
      cases hlast

theorem readNames_ne_nil {ns : List (List Char)} (h : ns ≠ []) : readNames ns ≠ [] := by
  cases ns with
  | nil => exact absurd rfl h
  | cons n ns =>
    rw [readNames]
    split
    · simp
    · simp

theorem intercalate_ascii {ns : List (List Char)} (h : ∀ n ∈ ns, Bare n) :
    ∀ c ∈ [',', ' '].intercalate ns, c.toNat < 128 :=
  all_intercalate (by simp) fun n hn c hc => isNameChar_ascii ((h n hn).2 c hc)

/-- What stands behind a list: the word that ends it, and a table. -/
def listEnd : List Char := " FROM t".toList

theorem follows_listEnd : Follows listEnd :=
  ⟨⟨' ', rfl, rfl⟩, fun c hc => by
    have hascii : listEnd.all (·.toNat < 128) = true := by decide
    simpa using List.all_eq_true.mp hascii c hc, by decide⟩

theorem follows_comma {ns : List (List Char)} (h : ∀ n ∈ ns, Bare n) :
    Follows (',' :: ' ' :: ([',', ' '].intercalate ns ++ listEnd)) := by
  refine ⟨⟨',', rfl, rfl⟩, ?_, ?_⟩
  · intro c hc
    rw [List.mem_cons, List.mem_cons, List.mem_append] at hc
    rcases hc with rfl | rfl | hc | hc
    · decide
    · decide
    · exact intercalate_ascii h c hc
    · exact follows_listEnd.ascii c hc
  · have hend : listEnd.length = 7 := rfl
    rw [List.length_cons, List.length_cons, List.length_append, hend]
    omega

/-- The search through a list of names ends in the first that has a stem, and else behind the
list. -/
theorem beforeFrom_list {ns : List (List Char)} (hne : ns ≠ [])
    (h : ∀ n ∈ ns, Bare n ∧ n ≠ "from".toList) (before : Option Char) :
    ∃ pad, (∀ c ∈ pad, isBlank c = true) ∧
      beforeFrom {} before ([',', ' '].intercalate ns ++ listEnd) =
        some ([',', ' '].intercalate (readNames ns) ++ pad) := by
  induction ns generalizing before with
  | nil => exact absurd rfl hne
  | cons n ns ih =>
    obtain ⟨hn, hword⟩ := h n List.mem_cons_self
    cases ns with
    | nil =>
      rw [List.intercalate_singleton, beforeFrom_name hn hword follows_listEnd, readNames]
      cases stem? n with
      | some x => exact ⟨[], by simp, by simp⟩
      | none =>
        have hend : beforeFrom {} (n.getLast?.or before) listEnd = some [' '] := rfl
        exact ⟨[' '], by simp [isBlank], by simp [hend, readNames]⟩
    | cons m ms =>
      -- behind a comma and a space the search starts as at the start of a list
      have hbare : ∀ x ∈ m :: ms, Bare x := fun x hx => (h x (List.mem_cons_of_mem n hx)).1
      have hcomma : ∀ cs, beforeFrom {} (n.getLast?.or before) (',' :: ' ' :: cs) =
          (beforeFrom {} (some ' ') cs).map ([',', ' '] ++ ·) := by
        intro cs
        rw [beforeFrom_plain rfl (by decide), beforeFrom_plain rfl (by decide), Option.map_map]
        rfl
      obtain ⟨pad, hpad, hrest⟩ :=
        ih (by simp) (fun x hx => h x (List.mem_cons_of_mem n hx)) (some ' ')
      have htext : [',', ' '].intercalate (n :: m :: ms) ++ listEnd =
          n ++ ',' :: ' ' :: ([',', ' '].intercalate (m :: ms) ++ listEnd) := by
        simp [List.intercalate_cons_cons]
      rw [htext, beforeFrom_name hn hword (follows_comma hbare), readNames]
      cases stem? n with
      | some x => exact ⟨[], by simp, by simp⟩
      | none =>
        refine ⟨pad, hpad, ?_⟩
        obtain ⟨y, ys, hys⟩ := List.exists_cons_of_ne_nil (readNames_ne_nil (List.cons_ne_nil m ms))
        simp only [hcomma, hrest, hys, List.intercalate_cons_cons, Option.map_some,
          List.append_assoc]

/-! ## Queries -/

/-- A query of the columns of a table. -/
def selectText (names : List String) : List Char :=
  ("SELECT " ++ ", ".intercalate names ++ " FROM t").toList

theorem selectText_eq (names : List String) :
    selectText names =
      "SELECT ".toList ++ ([',', ' '].intercalate (names.map String.toList) ++ listEnd) := by
  rw [selectText, String.toList_append, String.toList_append, String.toList_intercalate,
    List.append_assoc]
  rfl

/-- A name alone is the name of the column. -/
theorem itemName?_bare {n : List Char} (h : Bare n) : itemName? n = some n := by
  have hwords : splitWords n = [n] := by
    have hunwords : splitWords (unwords [n]) = [n] :=
      splitWords_unwords fun w hw => List.mem_singleton.mp hw ▸ ⟨h.whole.words, h.1⟩
    rwa [unwords, List.intercalate_singleton] at hunwords
  have hplain : '(' ∉ n := fun hmem => absurd (h.plain '(' hmem) (by decide)
  have hstar : ¬ (n.getLast? == some '*') = true := by
    rw [beq_iff_eq]
    exact fun hlast => absurd (h.2 '*' (List.mem_of_getLast? hlast)) (by decide)
  simp only [itemName?, hwords, List.reverse_singleton, if_neg hstar,
    Export.cutAt?_of_notMem hplain, h.splitQualified_eq, List.getLast?_singleton]

theorem selection?_list {ns : List (List Char)} (hne : ns ≠ [])
    (h : ∀ n ∈ ns, Bare n ∧ n ≠ "distinct".toList) :
    selection? ("SELECT ".toList ++ ([',', ' '].intercalate ns ++ listEnd)) =
      .ok (some ((beforeFrom {} none ([',', ' '].intercalate ns ++ listEnd)).getD
        ([',', ' '].intercalate ns ++ listEnd))) := by
  obtain ⟨n, ms, rfl⟩ := List.exists_cons_of_ne_nil hne
  obtain ⟨hn, hword⟩ := h n List.mem_cons_self
  obtain ⟨r, hr, hlist⟩ : ∃ r, Follows r ∧
      [',', ' '].intercalate (n :: ms) ++ listEnd = n ++ r := by
    cases ms with
    | nil => exact ⟨listEnd, follows_listEnd, by rw [List.intercalate_singleton]⟩
    | cons m ms =>
      exact ⟨_, follows_comma fun x hx => (h x (List.mem_cons_of_mem n hx)).1,
        by simp [List.intercalate_cons_cons]⟩
  rw [hlist]
  have htrim : trim ("SELECT ".toList ++ (n ++ r)) = "SELECT ".toList ++ (n ++ r) := by
    rw [← hlist]
    have hlast : ∀ cs, (cs ++ listEnd).getLast? = some 't' := fun cs => by
      rw [List.getLast?_append]
      rfl
    rw [← List.append_assoc]
    exact Trimmed.trim_eq ⟨⟨'S', rfl, rfl⟩, 't', hlast _, rfl⟩
  have hstart : startsWith (upper ("SELECT ".toList ++ (n ++ r))) "SELECT" = true := rfl
  have hbehind : splitBytes? 6 ("SELECT ".toList ++ (n ++ r)) =
      some ("SELECT".toList, ' ' :: (n ++ r)) :=
    splitBytes?_ascii (w := "SELECT".toList) (by simp) (' ' :: (n ++ r))
  have hspace : trimStart (' ' :: (n ++ r)) = n ++ r := by
    obtain ⟨c, cs, rfl⟩ := List.exists_cons_of_ne_nil hn.1
    have hblank := isBlank_of_isNameChar (hn.2 c List.mem_cons_self)
    rw [trimStart, List.dropWhile_cons_of_pos (by rfl)]
    exact dropWhile_isBlank ⟨c, rfl, hblank⟩
  -- the first name would have to be the word itself
  have hdistinct : ¬ eqIgnoringCase ((n ++ r).take 9) "DISTINCT ".toList = true := by
    intro heq
    have htake : n.take 9 = "distinct".toList := hr.take_eq hn.2 heq
    have hshort : n.length ≤ 9 := by
      have hlength := congrArg List.length htake
      have height : "distinct".toList.length = 8 := rfl
      rw [List.length_take, height] at hlength
      omega
    exact hword (by rw [← htake, List.take_of_length_le hshort])
  have hopen : trimStart (("SELECT ".toList ++ (n ++ r)).dropWhile (· == '(')) =
      "SELECT ".toList ++ (n ++ r) := rfl
  simp only [selection?, htrim, hopen, hstart, hbehind, hspace, if_neg hdistinct, ↓reduceIte]

/-- Names that are no key words of a query. -/
def IsColumnName (n : List Char) : Prop :=
  Bare n ∧ n ≠ "from".toList ∧ n ≠ "distinct".toList

theorem IsColumnName.of_needsQuotes {name : String} (h : needsQuotes name = false) :
    IsColumnName name.toList := by
  have hreserved : ∀ word ∈ ["from", "distinct"], name.toList ≠ word.toList := by
    intro word hword heq
    have hneeds : ∀ word ∈ ["from", "distinct"], needsQuotes word = true := by decide
    rw [String.toList_inj.mp heq, hneeds word hword] at h
    cases h
  exact ⟨Export.bare_of_needsQuotes h, hreserved "from" (by simp), hreserved "distinct" (by simp)⟩

/-- The items of a list of names are the names that are read of it. -/
theorem projectionNames_list {ns : List (List Char)} (hne : ns ≠ [])
    (h : ∀ n ∈ ns, IsColumnName n) :
    projectionNames ("SELECT ".toList ++ ([',', ' '].intercalate ns ++ listEnd)) =
      .ok (readNames ns) := by
  have hbare := readNames_bare fun n hn => (h n hn).1
  obtain ⟨pad, hpad, hread⟩ :=
    beforeFrom_list hne (fun n hn => ⟨(h n hn).1, (h n hn).2.1⟩) none
  have hselection := selection?_list hne fun n hn => ⟨(h n hn).1, (h n hn).2.2⟩
  rw [hread, Option.getD_some] at hselection
  have hsplit : splitTopLevel ',' ([] ++ [',', ' '].intercalate (readNames ns) ++ pad) =
      readNames ns :=
    splitTopLevel_join (by decide) (by decide) (List.all_eq_true.mp (by decide)) hpad
      (readNames_ne_nil hne) (fun n hn => ⟨(hbare n hn).whole.elements, (hbare n hn).trimmed⟩)
      [] (by simp)
  rw [List.nil_append] at hsplit
  rw [projectionNames, hselection]
  change Except.ok ((splitTopLevel ',' _).filterMap itemName?) = _
  rw [hsplit, List.filterMap_congr fun n hn => itemName?_bare (hbare n hn), List.filterMap_some]

/-- Of the columns that a query lists, those up to the first that ends in `_from` are read, and of
that one only what stands before `from`. So they are read in full exactly if none ends so. -/
theorem columns_are_read_up_to_one_that_ends_in_from {names : List String} (hne : names ≠ [])
    (h : ∀ n ∈ names, needsQuotes n = false) :
    projectionNames (selectText names) = .ok (readNames (names.map String.toList)) ∧
      (projectionNames (selectText names) = .ok (names.map String.toList) ↔
        ∀ n ∈ names, ¬ "_from".toList <:+ n.toList) := by
  have hcolumns : ∀ n ∈ names.map String.toList, IsColumnName n := by
    intro n hn
    obtain ⟨name, hname, rfl⟩ := List.mem_map.mp hn
    exact .of_needsQuotes (h name hname)
  have hread : projectionNames (selectText names) =
      .ok (readNames (names.map String.toList)) := by
    rw [selectText_eq]
    exact projectionNames_list (by simpa using hne) hcolumns
  refine ⟨hread, ?_⟩
  rw [hread, Except.ok.injEq, readNames_eq_self]
  simp

/-- A letter before the word or an underscore behind it keep it in its name; an underscore before it
does not, and what stands behind is lost. -/
theorem a_validity_column_ends_the_list :
    (∀ n ∈ ["wherefrom", "from_date", "valid_from", "b"], needsQuotes n = false) ∧
      projectionNames (selectText ["wherefrom", "from_date", "valid_from", "b"]) =
        .ok ["wherefrom".toList, "from_date".toList, "valid_".toList] ∧
      projectionNames (selectText ["wherefrom", "from_date", "valid_from", "b"]) ≠
        .ok ["wherefrom".toList, "from_date".toList, "valid_from".toList, "b".toList] := by
  have hbare : ∀ n ∈ ["wherefrom", "from_date", "valid_from", "b"], needsQuotes n = false := by
    decide
  obtain ⟨hread, hfull⟩ := columns_are_read_up_to_one_that_ends_in_from (by simp) hbare
  refine ⟨hbare, hread, fun heq => hfull.mp heq "valid_from" (by simp) ?_⟩
  exact ⟨"valid".toList, rfl⟩

end SchemaChart.Reading
