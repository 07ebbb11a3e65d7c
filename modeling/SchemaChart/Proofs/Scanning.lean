-- Scans over texts that close what they open: such a text leaves a scan where it stood, so that
-- lists, words and groups are cut exactly where they were joined.
import SchemaChart.Proofs.Matching
import SchemaChart.Text.Identifier

namespace SchemaChart.Text

open Pattern (QuotePair)

/-! ## Ends of a text -/

/-- A text that starts and ends with something other than a blank. -/
def Trimmed (cs : List Char) : Prop :=
  (∃ c ∈ cs.head?, isBlank c = false) ∧ ∃ c ∈ cs.getLast?, isBlank c = false

theorem Trimmed.ne_nil {cs : List Char} (h : Trimmed cs) : cs ≠ [] := by
  rintro rfl
  obtain ⟨⟨c, hc, -⟩, -⟩ := h
  simp at hc

theorem dropWhile_isBlank {cs : List Char} (h : ∃ c ∈ cs.head?, isBlank c = false) :
    cs.dropWhile isBlank = cs := by
  obtain ⟨c, hc, hb⟩ := h
  obtain ⟨ds, rfl⟩ := List.head?_eq_some_iff.mp hc
  simp [hb]

theorem trim_pad {pre cs post : List Char} (h : Trimmed cs) (hpre : ∀ c ∈ pre, isBlank c = true)
    (hpost : ∀ c ∈ post, isBlank c = true) : trim (pre ++ cs ++ post) = cs := by
  have hstart : trimStart (pre ++ cs ++ post) = cs ++ post := by
    rw [trimStart, List.append_assoc, List.dropWhile_append_of_pos hpre]
    refine dropWhile_isBlank ?_
    obtain ⟨⟨c, hc, hb⟩, -⟩ := h
    exact ⟨c, by simp [List.head?_append, Option.mem_def.mp hc], hb⟩
  have hlast : ∃ c ∈ cs.reverse.head?, isBlank c = false := by
    simpa [List.head?_reverse] using h.2
  rw [trim, hstart, trimEnd, List.reverse_append,
    List.dropWhile_append_of_pos (fun c hc => hpost c (List.mem_reverse.mp hc)),
    dropWhile_isBlank hlast, List.reverse_reverse]

theorem Trimmed.trim_eq {cs : List Char} (h : Trimmed cs) : trim cs = cs := by
  have hpad : trim ([] ++ cs ++ []) = cs := trim_pad h (by simp) (by simp)
  rwa [List.nil_append, List.append_nil] at hpad

theorem Trimmed.append {cs ds : List Char} (hcs : Trimmed cs) (x : List Char) (hds : Trimmed ds) :
    Trimmed (cs ++ (x ++ ds)) := by
  obtain ⟨⟨c, hc, hb⟩, -⟩ := hcs
  obtain ⟨-, e, he, hb'⟩ := hds
  exact ⟨⟨c, by simp [List.head?_append, Option.mem_def.mp hc], hb⟩,
    e, by simp [List.getLast?_append, Option.mem_def.mp he], hb'⟩

theorem length_trim_le (cs : List Char) : (trim cs).length ≤ cs.length := by
  have hstart := (List.dropWhile_sublist isBlank (l := cs)).length_le
  have hend := (List.dropWhile_sublist isBlank (l := (trimStart cs).reverse)).length_le
  rw [List.length_reverse] at hend
  unfold trim trimEnd
  rw [List.length_reverse]
  exact Nat.le_trans hend hstart

/-- What is left between blanks starts and ends with something else. -/
theorem trimmed_trim {cs : List Char} (h : trim cs ≠ []) : Trimmed (trim cs) := by
  have hfirst : ∀ {ds : List Char}, ds.dropWhile isBlank ≠ [] →
      ∃ c ∈ (ds.dropWhile isBlank).head?, isBlank c = false := by
    intro ds hds
    refine ⟨_, List.head?_eq_some_head hds, ?_⟩
    have hhead := List.head_dropWhile_not isBlank hds
    simpa using hhead
  have hend : (trimStart cs).reverse.dropWhile isBlank ≠ [] := by
    intro hnil
    exact h (by simp [trim, trimEnd, hnil])
  obtain ⟨c, hc, hblank⟩ := hfirst hend
  have hlast : ∃ c ∈ (trim cs).getLast?, isBlank c = false :=
    ⟨c, by simpa [trim, trimEnd] using hc, hblank⟩
  refine ⟨?_, hlast⟩
  -- what stands before the blanks at the end starts as the text does
  have hprefix : trim cs <+: trimStart cs := by
    have hsuffix := List.dropWhile_suffix isBlank (l := (trimStart cs).reverse)
    rw [← List.reverse_prefix, List.reverse_reverse] at hsuffix
    exact hsuffix
  obtain ⟨rest, hrest⟩ := hprefix
  have hstart : trimStart cs ≠ [] := by
    rintro hnil
    rw [hnil, List.append_eq_nil_iff] at hrest
    exact h hrest.1
  obtain ⟨d, hd, hblank⟩ := hfirst hstart
  obtain ⟨e, es, htext⟩ := List.exists_cons_of_ne_nil h
  rw [← trimStart, ← hrest, htext] at hd
  rw [htext]
  exact ⟨d, hd, hblank⟩

theorem trim_trim (cs : List Char) : trim (trim cs) = trim cs := by
  by_cases h : trim cs = []
  · rw [h]
    rfl
  · exact (trimmed_trim h).trim_eq

theorem trimStart_of_blank {cs : List Char} (h : cs.all isBlank = true) : trimStart cs = [] := by
  have hnone : (cs ++ []).dropWhile isBlank = [] :=
    List.dropWhile_append_of_pos (List.all_eq_true.mp h)
  rwa [List.append_nil] at hnone

/-- A character at the end stays, unless all of the text is blank. -/
theorem trimStart_concat {cs : List Char} (h : cs.all isBlank = false) (c : Char) :
    trimStart (cs ++ [c]) = trimStart cs ++ [c] := by
  have hne : ¬ (trimStart cs).isEmpty = true := by
    intro hempty
    have hcs := List.takeWhile_append_dropWhile (p := isBlank) (l := cs)
    rw [← trimStart, List.isEmpty_iff.mp hempty, List.append_nil] at hcs
    rw [← hcs, List.all_takeWhile] at h
    cases h
  exact List.dropWhile_append.trans (if_neg hne)

theorem trim_concat_of_blank {c : Char} (hc : isBlank c = true) (cs : List Char) :
    trim (cs ++ [c]) = trim cs := by
  cases hcs : cs.all isBlank with
  | true => rw [trim, trim, trimStart_of_blank hcs, trimStart_of_blank (by simp [hcs, hc])]
  | false =>
    rw [trim, trimStart_concat hcs, trim, trimEnd, trimEnd]
    simp [hc]

theorem trimStart_concat_of_not_blank {c : Char} (hc : isBlank c = false) (cs : List Char) :
    trimStart (cs ++ [c]) = trimStart cs ++ [c] := by
  cases hcs : cs.all isBlank with
  | false => exact trimStart_concat hcs c
  | true =>
    rw [trimStart_of_blank hcs, trimStart,
      List.dropWhile_append_of_pos (List.all_eq_true.mp hcs)]
    simp [hc]

theorem trim_concat_of_not_blank {c : Char} (hc : isBlank c = false) (cs : List Char) :
    trim (cs ++ [c]) = trimStart cs ++ [c] := by
  rw [trim, trimStart_concat_of_not_blank hc, trimEnd]
  simp [hc]

/-! ## Closed texts -/

/-- Characters that neither open nor close anything. -/
def isPlain (c : Char) : Bool := !(['\'', '"', '`', '[', ']', '(', ')'].contains c)

/-- Texts that close every quote and every group they open, with no separator outside of groups. -/
inductive Closed : (Char → Bool) → List Char → Prop
  | nil {sep : Char → Bool} : Closed sep []
  | char {sep : Char → Bool} {c : Char} {cs : List Char} :
      isPlain c = true → sep c = false → Closed sep cs → Closed sep (c :: cs)
  | quoted {sep : Char → Bool} {l r : Char} {name cs : List Char} :
      QuotePair l r → (∀ c ∈ name, isPlain c = true) →
      (∀ c ∈ l :: name ++ [r], sep c = false) → Closed sep cs →
      Closed sep (l :: name ++ r :: cs)
  | group {sep : Char → Bool} {inner cs : List Char} :
      Closed (fun _ => false) inner → Closed sep cs → Closed sep ('(' :: inner ++ ')' :: cs)

variable {sep : Char → Bool} {cs ds rest : List Char}

theorem Closed.append (h : Closed sep cs) (h' : Closed sep ds) : Closed sep (cs ++ ds) := by
  induction h with
  | nil => exact h'
  | char hp hs _ ih => exact .char hp hs (ih h')
  | quoted hq hp hs _ ih => simpa using Closed.quoted hq hp hs (ih h')
  | group hi _ _ ih => simpa using Closed.group hi (ih h')

theorem Closed.weaken {sep' : Char → Bool} (h : Closed sep cs)
    (hsep : ∀ c, sep c = false → sep' c = false) : Closed sep' cs := by
  induction h generalizing sep' with
  | nil => exact .nil
  | char hp hs _ ih => exact .char hp (hsep _ hs) (ih hsep)
  | quoted hq hp hs _ ih => exact .quoted hq hp (fun c hc => hsep c (hs c hc)) (ih hsep)
  | group hi _ _ ih => exact .group hi (ih hsep)

/-- Inside a group nothing separates. -/
theorem Closed.inside (h : Closed sep cs) : Closed (fun _ => false) cs :=
  h.weaken fun _ _ => rfl

theorem Closed.of_plain (h : ∀ c ∈ cs, isPlain c = true ∧ sep c = false) : Closed sep cs := by
  induction cs with
  | nil => exact .nil
  | cons c cs ih =>
    have hc := h c List.mem_cons_self
    exact .char hc.1 hc.2 (ih fun x hx => h x (List.mem_cons_of_mem c hx))

/-- For a given text, it can be decided that nothing in it opens, closes or cuts. -/
theorem Closed.of_all (h : cs.all (fun c => isPlain c && !sep c) = true) : Closed sep cs := by
  refine of_plain fun c hc => ?_
  simpa using List.all_eq_true.mp h c hc

/-- A closed text does not end in a separator. -/
theorem Closed.getLast? (h : Closed sep cs) (hsep : sep ')' = false) :
    ∀ c ∈ cs.getLast?, sep c = false := by
  have hlast : ∀ {x : Char} {cs : List Char}, sep x = false → (∀ c ∈ cs.getLast?, sep c = false) →
      ∀ c ∈ (x :: cs).getLast?, sep c = false := by
    intro x cs hx hcs c hc
    rw [List.getLast?_cons, Option.mem_def, Option.some.injEq] at hc
    subst hc
    cases hl : cs.getLast? with
    | none => exact hx
    | some d => exact hcs d hl
  induction h with
  | nil => simp
  | char _ hs _ ih => exact hlast hs (ih hsep hlast)
  | @quoted _ l r name cs _ _ hs _ ih =>
    have hend := hlast (hs r (by simp)) (ih hsep hlast)
    simpa [List.getLast?_append, List.getLast?_cons] using hend
  | @group _ inner cs _ _ _ ih =>
    have hend := hlast hsep (ih hsep hlast)
    simpa [List.getLast?_append, List.getLast?_cons] using hend

/-- A closed text without blanks outside of groups has no blanks at its ends. -/
theorem Closed.trimmed (h : Closed isBlank cs) (hne : cs ≠ []) : Trimmed cs := by
  constructor
  · cases h with
    | nil => exact absurd rfl hne
    | char _ hs _ => exact ⟨_, rfl, hs⟩
    | quoted _ _ hs _ => exact ⟨_, rfl, hs _ (by simp)⟩
    | group _ _ => exact ⟨_, rfl, by decide⟩
  · exact ⟨cs.getLast hne, List.getLast?_eq_some_getLast hne,
      h.getLast? rfl _ (List.getLast?_eq_some_getLast hne)⟩

/-! ## Cuts -/

theorem foldr_consHead (cs p : List Char) (ps : List (List Char)) :
    cs.foldr consHead (p :: ps) = (cs ++ p) :: ps := by
  induction cs with
  | nil => rfl
  | cons c cs ih => simp [ih, consHead]

namespace Grouping

/-- A scan inside a quote goes on to where the quote is closed. -/
theorem segments_inQuote (g : Grouping) (sep : Char → Bool) (d : Int) {q : Char}
    {name : List Char} (hq : q ∉ name) (rest : List Char) :
    g.segments sep ⟨d, some q⟩ (name ++ q :: rest)
      = (name ++ [q]).foldr consHead (g.segments sep ⟨d, none⟩ rest) := by
  induction name with
  | nil => simp [segments, cuts, step]
  | cons c name ih =>
    have hc : c ≠ q := fun h => hq (h ▸ List.mem_cons_self)
    have ih := ih (fun h => hq (List.mem_cons_of_mem c h))
    simpa [segments, cuts, step, hc] using congrArg (consHead c) ih

theorem segments_quoted (g : Grouping) (sep : Char → Bool) (d : Int) {l r : Char}
    {name : List Char} (hl : g.opens l = some r) (hr : r ∉ name) (rest : List Char) :
    g.segments sep ⟨d, none⟩ (l :: name ++ r :: rest)
      = (l :: name ++ [r]).foldr consHead (g.segments sep ⟨d, none⟩ rest) := by
  have hname := g.segments_inQuote sep d hr rest
  simpa [segments, cuts, step, hl] using congrArg (consHead l) hname

/-- Characters that open nothing and are no parentheses leave the scan where it stood. -/
theorem segments_passed {g : Grouping} {sep : Char → Bool} {d : Int} {w : List Char}
    (hw : ∀ c ∈ w, g.opens c = none ∧ c ≠ '(' ∧ c ≠ ')' ∧ (d = 0 → sep c = false))
    (rest : List Char) :
    g.segments sep ⟨d, none⟩ (w ++ rest) = w.foldr consHead (g.segments sep ⟨d, none⟩ rest) := by
  induction w with
  | nil => rfl
  | cons c w ih =>
    obtain ⟨hopens, hleft, hright, hsep⟩ := hw c List.mem_cons_self
    have hcuts : g.cuts sep ⟨d, none⟩ c = false := by
      by_cases hd : d = 0
      · simp [cuts, hsep hd]
      · simp [cuts, hd]
    have ih := ih fun x hx => hw x (List.mem_cons_of_mem c hx)
    simp [segments, hcuts, step, hopens, hleft, hright, ih]

theorem opens_plain {g : Grouping} (hg : g = elements ∨ g = words) {c : Char}
    (hc : isPlain c = true) : g.opens c = none ∧ c ≠ '(' ∧ c ≠ ')' := by
  simp only [isPlain, List.contains_cons, List.contains_nil, Bool.not_eq_true',
    Bool.or_eq_false_iff, beq_eq_false_iff_ne] at hc
  refine ⟨?_, by simp [hc], by simp [hc]⟩
  rcases hg with rfl | rfl <;> simp [elements, words, anyQuote, plainQuote, hc]

/-- Quotes are quotes to every scan, but for brackets, which words do not know. -/
theorem opens_quote {g : Grouping} (hg : g = elements ∨ g = words) {l r : Char}
    (hq : QuotePair l r) :
    g.opens l = some r ∨
      (l = '[' ∧ r = ']' ∧ g.opens l = none ∧ g.opens r = none) := by
  rcases hg with rfl | rfl <;> rcases hq.cases with ⟨rfl, rfl⟩ | ⟨rfl, rfl⟩ | ⟨rfl, rfl⟩ <;>
    simp [elements, words, anyQuote, plainQuote]

theorem not_mem_of_plain {l r : Char} (hq : QuotePair l r) {name : List Char}
    (hp : ∀ c ∈ name, isPlain c = true) : r ∉ name := by
  intro hr
  have hplain := hp r hr
  rcases hq.cases with ⟨-, rfl⟩ | ⟨-, rfl⟩ | ⟨-, rfl⟩ <;> exact absurd hplain (by decide)

/-- A closed text leaves the scan where it stood, and the scan cuts nowhere in it. -/
theorem segments_closed {g : Grouping} (hg : g = elements ∨ g = words) {sep sep' : Char → Bool}
    (h : Closed sep' cs) {d : Int}
    (hd : 0 < d ∨ d = 0 ∧ ∀ c, sep' c = false → sep c = false) (rest : List Char) :
    g.segments sep ⟨d, none⟩ (cs ++ rest) = cs.foldr consHead (g.segments sep ⟨d, none⟩ rest) := by
  induction h generalizing d rest with
  | nil => rfl
  | @char sep' c cs hp hs _ ih =>
    obtain ⟨hopens, hleft, hright⟩ := opens_plain hg hp
    have hcut := fun h0 : d = 0 => (hd.resolve_left (by omega)).2 _ hs
    have hc := segments_passed (w := [c]) (by simpa using ⟨hopens, hleft, hright, hcut⟩)
      (cs ++ rest)
    rw [List.cons_append, ← List.singleton_append, hc, ih hd]
    rfl
  | @quoted sep' l r name cs hq hp hs _ ih =>
    have hname : g.segments sep ⟨d, none⟩ ((l :: name ++ [r]) ++ (cs ++ rest))
        = (l :: name ++ [r]).foldr consHead (g.segments sep ⟨d, none⟩ (cs ++ rest)) := by
      rcases opens_quote hg hq with hl | ⟨rfl, rfl, hl, hr⟩
      · simpa using g.segments_quoted sep d hl (not_mem_of_plain hq hp) (cs ++ rest)
      · refine segments_passed (fun c hc => ?_) _
        have hcut := fun h0 : d = 0 => (hd.resolve_left (by omega)).2 c (hs c hc)
        have hcases : c = '[' ∨ c ∈ name ∨ c = ']' := by simpa using hc
        rcases hcases with rfl | hc | rfl
        · exact ⟨hl, by decide, by decide, hcut⟩
        · obtain ⟨hopens, hleft, hright⟩ := opens_plain hg (hp c hc)
          exact ⟨hopens, hleft, hright, hcut⟩
        · exact ⟨hr, by decide, by decide, hcut⟩
    rw [ih hd] at hname
    simpa using hname
  | @group sep' inner cs hi _ ihi ih =>
    have hparens : g.parens = true ∧ g.opens '(' = none ∧ g.opens ')' = none := by
      rcases hg with rfl | rfl <;> decide
    -- Inside the group the scan is one deeper, where no separator cuts.
    have hinner := ihi (d := d + 1) (Or.inl (by omega)) (')' :: (cs ++ rest))
    simp [segments, cuts, step, hparens, hinner, ih hd]

/-- A scan passes over a text: it cuts nowhere in it, and stands behind it as before it. -/
def Passes (g : Grouping) (sep : Char → Bool) (cs : List Char) : Prop :=
  ∀ rest, g.segments sep {} (cs ++ rest) = cs.foldr consHead (g.segments sep {} rest)

theorem Passes.append {g : Grouping} (hcs : g.Passes sep cs) (hds : g.Passes sep ds) :
    g.Passes sep (cs ++ ds) := by
  intro rest
  rw [List.append_assoc, hcs, hds, List.foldr_append]

theorem passes_of_closed {g : Grouping} (hg : g = elements ∨ g = words) (h : Closed sep cs) :
    g.Passes sep cs :=
  segments_closed hg h (Or.inr ⟨rfl, fun _ => id⟩)

theorem cuts_plain {g : Grouping} (hg : g = elements ∨ g = words) {c : Char}
    (hc : isPlain c = true) (hsep : sep c = true) : g.cuts sep {} c = true := by
  obtain ⟨hopens, hleft, hright⟩ := opens_plain hg hc
  simp [cuts, hopens, hleft, hright, hsep]

/-- A separator behind a text that is passed over cuts there. -/
theorem Passes.cut {g : Grouping} (h : g.Passes sep cs) {c : Char} (hc : g.cuts sep {} c = true)
    (rest : List Char) :
    g.segments sep {} (cs ++ c :: rest) = cs :: g.segments sep {} rest := by
  have hhere : g.segments sep {} (c :: rest) = [] :: g.segments sep {} rest := by
    rw [segments, if_pos hc]
  rw [h, hhere, foldr_consHead, List.append_nil]

theorem Passes.last {g : Grouping} (h : g.Passes sep cs) : g.segments sep {} cs = [cs] := by
  have hend := h []
  rwa [List.append_nil, segments, foldr_consHead, List.append_nil] at hend

theorem segments_cut {g : Grouping} (hg : g = elements ∨ g = words) (h : Closed sep cs) {c : Char}
    (hc : isPlain c = true) (hsep : sep c = true) (rest : List Char) :
    g.segments sep {} (cs ++ c :: rest) = cs :: g.segments sep {} rest :=
  (passes_of_closed hg h).cut (cuts_plain hg hc hsep) rest

theorem segments_last {g : Grouping} (hg : g = elements ∨ g = words) (h : Closed sep cs) :
    g.segments sep {} cs = [cs] :=
  (passes_of_closed hg h).last

end Grouping

/-! ## Joined texts -/

theorem isPlain_of_isBlank {c : Char} (h : isBlank c = true) : isPlain c = true := by
  have hnone : ['\'', '"', '`', '[', ']', '(', ')'].all (!isBlank ·) = true := by decide
  rw [isPlain, Bool.not_eq_true', ← Bool.not_eq_true, List.contains_iff_mem]
  intro hc
  have hblank := List.all_eq_true.mp hnone c hc
  rw [h] at hblank
  exact absurd hblank (by decide)

theorem Closed.of_blank {sep : Char} (hsep : isBlank sep = false)
    (h : ∀ c ∈ cs, isBlank c = true) : Closed (· == sep) cs := by
  refine Closed.of_plain fun c hc => ⟨isPlain_of_isBlank (h c hc), ?_⟩
  rw [beq_eq_false_iff_ne]
  rintro rfl
  rw [h c hc] at hsep
  exact absurd hsep (by decide)

/-- A list between separators is cut back into its parts, blanks around them left out. -/
theorem splitTopLevel_passed {sep : Char} (hsep : isBlank sep = false) (hplain : isPlain sep = true)
    {pad post : List Char} (hpad : ∀ c ∈ pad, isBlank c = true)
    (hpost : ∀ c ∈ post, isBlank c = true) {parts : List (List Char)} (hne : parts ≠ [])
    (hparts : ∀ p ∈ parts, Grouping.elements.Passes (· == sep) p ∧ Trimmed p) (pre : List Char)
    (hpre : ∀ c ∈ pre, isBlank c = true) :
    splitTopLevel sep (pre ++ (sep :: pad).intercalate parts ++ post) = parts := by
  induction parts generalizing pre with
  | nil => exact absurd rfl hne
  | cons p ps ih =>
    obtain ⟨hpasses, htrimmed⟩ := hparts p List.mem_cons_self
    have hblank : ∀ {bs : List Char}, (∀ c ∈ bs, isBlank c = true) →
        Grouping.elements.Passes (· == sep) bs :=
      fun hbs => Grouping.passes_of_closed (.inl rfl) (Closed.of_blank hsep hbs)
    have hfront := (hblank hpre).append hpasses
    cases ps with
    | nil =>
      have hseg := (hfront.append (hblank hpost)).last
      rw [splitTopLevel, List.intercalate_singleton, hseg, List.map_singleton,
        trim_pad htrimmed hpre hpost, List.filter_cons_of_pos (by simpa using htrimmed.ne_nil),
        List.filter_nil]
    | cons q qs =>
      have hseg := hfront.cut (Grouping.cuts_plain (.inl rfl) hplain (beq_self_eq_true sep))
        (pad ++ (sep :: pad).intercalate (q :: qs) ++ post)
      have htext : pre ++ (sep :: pad).intercalate (p :: q :: qs) ++ post
          = pre ++ p ++ sep :: (pad ++ (sep :: pad).intercalate (q :: qs) ++ post) := by
        simp [List.intercalate_cons_cons]
      have hp : trim (pre ++ p ++ []) = p := trim_pad htrimmed hpre (by simp)
      rw [List.append_nil] at hp
      have hrest := ih (by simp) (fun x hx => hparts x (List.mem_cons_of_mem p hx)) pad hpad
      rw [splitTopLevel] at hrest
      rw [splitTopLevel, htext, hseg, List.map_cons, hp,
        List.filter_cons_of_pos (by simpa using htrimmed.ne_nil), hrest]

theorem splitTopLevel_join {sep : Char} (hsep : isBlank sep = false) (hplain : isPlain sep = true)
    {pad post : List Char} (hpad : ∀ c ∈ pad, isBlank c = true)
    (hpost : ∀ c ∈ post, isBlank c = true) {parts : List (List Char)} (hne : parts ≠ [])
    (hparts : ∀ p ∈ parts, Closed (· == sep) p ∧ Trimmed p) (pre : List Char)
    (hpre : ∀ c ∈ pre, isBlank c = true) :
    splitTopLevel sep (pre ++ (sep :: pad).intercalate parts ++ post) = parts :=
  splitTopLevel_passed hsep hplain hpad hpost hne
    (fun p hp => ⟨Grouping.passes_of_closed (.inl rfl) (hparts p hp).1, (hparts p hp).2⟩) pre hpre

/-- Words with spaces between them are cut back into the words. -/
theorem splitWords_unwords {ws : List (List Char)} (h : ∀ w ∈ ws, Closed isBlank w ∧ w ≠ []) :
    splitWords (unwords ws) = ws := by
  induction ws with
  | nil => rfl
  | cons w ws ih =>
    obtain ⟨hclosed, hne⟩ := h w List.mem_cons_self
    have hrest := ih fun x hx => h x (List.mem_cons_of_mem w hx)
    cases ws with
    | nil => simp [splitWords, unwords, List.intercalate_singleton,
        Grouping.segments_last (.inr rfl) hclosed, hne]
    | cons v vs =>
      have hseg := Grouping.segments_cut (.inr rfl) hclosed (c := ' ') (by decide) rfl
        (unwords (v :: vs))
      have htext : unwords (w :: v :: vs) = w ++ ' ' :: unwords (v :: vs) := by
        simp [unwords, List.intercalate_cons_cons]
      rw [splitWords] at hrest
      rw [splitWords, htext, hseg, List.filter_cons_of_pos (by simpa using hne), hrest]

/-! ## Groups -/

/-- The straight quotes close themselves. -/
theorem plainQuote_cases {q r : Char} (h : plainQuote q = some r) :
    r = q ∧ (q = '\'' ∨ q = '"' ∨ q = '`') := by
  unfold plainQuote at h
  split at h
  · rename_i hq
    exact ⟨(Option.some.inj h).symm, by simpa [or_assoc] using hq⟩
  · cases h

attribute [local simp] closing?

theorem closing?_passed {d : Nat} {w : List Char}
    (hw : ∀ c ∈ w, plainQuote c = none ∧ c ≠ '(' ∧ c ≠ ')') (rest : List Char) :
    closing? d none (w ++ rest) = (closing? d none rest).map (· + w.length) := by
  induction w with
  | nil => simp
  | cons c w ih =>
    obtain ⟨hquote, hleft, hright⟩ := hw c List.mem_cons_self
    have ih := ih fun x hx => hw x (List.mem_cons_of_mem c hx)
    simp [hquote, hleft, hright, ih, Function.comp_def, Nat.add_assoc]

theorem closing?_inQuote {d : Nat} {q : Char} {name : List Char} (hq : q ∉ name)
    (rest : List Char) :
    closing? d (some q) (name ++ q :: rest)
      = (closing? d none rest).map (· + (name.length + 1)) := by
  induction name with
  | nil => simp
  | cons c name ih =>
    have hc : c ≠ q := fun h => hq (h ▸ List.mem_cons_self)
    have ih := ih (fun h => hq (List.mem_cons_of_mem c h))
    simp [hc, ih, Function.comp_def, Nat.add_assoc]

/-- The search for a closing parenthesis goes past a closed text. -/
theorem closing?_closed (h : Closed sep cs) (d : Nat) (rest : List Char) :
    closing? (d + 1) none (cs ++ rest) = (closing? (d + 1) none rest).map (· + cs.length) := by
  induction h generalizing d rest with
  | nil => simp
  | @char _ c cs hp _ _ ih =>
    have hplain : ∀ x ∈ [c], plainQuote x = none ∧ x ≠ '(' ∧ x ≠ ')' := fun x hx =>
      List.mem_singleton.mp hx ▸ Grouping.opens_plain (.inr rfl) hp
    have hc := closing?_passed (d := d + 1) hplain (cs ++ rest)
    simp only [List.singleton_append] at hc
    rw [List.cons_append, hc, ih]
    simp [Function.comp_def, Nat.add_assoc]
  | @quoted _ l r name cs hq hp _ _ ih =>
    have hname : closing? (d + 1) none ((l :: name ++ [r]) ++ (cs ++ rest))
        = (closing? (d + 1) none (cs ++ rest)).map (· + (l :: name ++ [r]).length) := by
      rcases Grouping.opens_quote (.inr rfl) hq with hl | ⟨rfl, rfl, hl, hr⟩
      · have hin := closing?_inQuote (d := d + 1) (Grouping.not_mem_of_plain hq hp) (cs ++ rest)
        have hl : plainQuote l = some r := hl
        simp [hl, hin, Function.comp_def, Nat.add_assoc]
      · refine closing?_passed (fun c hc => ?_) _
        have hcases : c = '[' ∨ c ∈ name ∨ c = ']' := by simpa using hc
        rcases hcases with rfl | hc | rfl
        · exact ⟨hl, by decide, by decide⟩
        · exact Grouping.opens_plain (.inr rfl) (hp c hc)
        · exact ⟨hr, by decide, by decide⟩
    rw [ih] at hname
    simpa [Function.comp_def, Nat.add_assoc, Nat.add_comm, Nat.add_left_comm] using hname
  | @group _ inner cs hi _ ihi ih =>
    have hinner := ihi (d + 1) (')' :: (cs ++ rest))
    have hquotes : plainQuote '(' = none ∧ plainQuote ')' = none := by decide
    simp only [closing?, hquotes, hinner, ih, List.cons_append, List.append_assoc, Option.map_map,
      beq_self_eq_true, ↓reduceIte, show (')' == '(') = false from rfl, Bool.false_eq_true]
    congr 1
    funext x
    simp only [Function.comp_apply, List.length_cons, List.length_append]
    omega

/-- A closed text in parentheses is a group. -/
theorem splitGroup?_closed (h : Closed sep cs) (rest : List Char) :
    splitGroup? (cs ++ ')' :: rest) = some (cs, rest) := by
  have hclose : closing? 1 none (')' :: rest) = some 0 := rfl
  have hcs := closing?_closed h 0 (')' :: rest)
  rw [hclose] at hcs
  simp [splitGroup?, hcs]

/-! ## Quoted names -/

theorem double_cons_self (q : Char) (cs : List Char) :
    double q (q :: cs) = q :: q :: double q cs := by
  simp [double]

theorem double_cons_of_ne {c q : Char} (hc : c ≠ q) (cs : List Char) :
    double q (c :: cs) = c :: double q cs := by
  simp [double, hc]

theorem undouble_double (q : Char) (cs : List Char) : undouble q (double q cs) = cs := by
  induction cs with
  | nil => rfl
  | cons c cs ih =>
    by_cases hc : c = q
    · subst hc
      rw [double_cons_self, undouble, ih]
      simp
    · rw [double_cons_of_ne hc]
      cases hd : double q cs with
      | nil =>
        rw [hd] at ih
        rw [← ih]
        rfl
      | cons d ds =>
        rw [hd] at ih
        rw [undouble, ih]
        simp [hc]

variable {l r : Char} {name : List Char}

theorem isBlank_quote (hq : QuotePair l r) : isBlank l = false ∧ isBlank r = false := by
  rcases hq.cases with ⟨rfl, rfl⟩ | ⟨rfl, rfl⟩ | ⟨rfl, rfl⟩ <;> decide

theorem trimmed_quoted (hq : QuotePair l r) : Trimmed (l :: name ++ [r]) :=
  ⟨⟨l, rfl, (isBlank_quote hq).1⟩, r, List.getLast?_concat, (isBlank_quote hq).2⟩

theorem unquoteWith?_cons {l' r' : Char} {cs : List Char} (h : cs ≠ []) :
    unquoteWith? l' r' (l :: cs)
      = if l == l' && cs.getLast? == some r' then some (undouble r' cs.dropLast) else none := by
  cases cs with
  | nil => exact absurd rfl h
  | cons c cs => rfl

theorem unquoteWith?_doubled : unquoteWith? l r (l :: double r name ++ [r]) = some name := by
  rw [List.cons_append, unquoteWith?_cons (by simp), List.getLast?_concat, List.dropLast_concat,
    undouble_double]
  simp

theorem unquoteWith?_of_ne {l' r' : Char} (hl : l ≠ l') :
    unquoteWith? l' r' (l :: name ++ [r]) = none := by
  rw [List.cons_append, unquoteWith?_cons (by simp)]
  simp [hl]

theorem unquoteWith?_quoted (hr : r ∉ name) : unquoteWith? l r (l :: name ++ [r]) = some name := by
  have hdoubled : unquoteWith? l r (l :: double r name ++ [r]) = some name := unquoteWith?_doubled
  rwa [double_eq_self hr] at hdoubled

/-- The first pair of quotes that opens a quoted name is the one that is stripped. -/
theorem findSome?_unquoteWith? (hr : r ∉ name) :
    ∀ {pairs : List (Char × Char)}, (l, r) ∈ pairs → (pairs.map Prod.fst).Nodup →
      pairs.findSome? (fun q => unquoteWith? q.1 q.2 (l :: name ++ [r])) = some name
  | q :: pairs, hmem, hnodup => by
    rcases List.mem_cons.mp hmem with rfl | hmem
    · rw [List.findSome?_cons, unquoteWith?_quoted hr]
    · have hne : l ≠ q.1 := fun h =>
        (List.nodup_cons.mp hnodup).1 (h ▸ List.mem_map_of_mem (f := Prod.fst) hmem)
      rw [List.findSome?_cons, unquoteWith?_of_ne hne]
      exact findSome?_unquoteWith? hr hmem (List.nodup_cons.mp hnodup).2

theorem unquoteIdentifier_doubled (hq : QuotePair l r) :
    unquoteIdentifier (l :: double r name ++ [r]) = name := by
  rw [unquoteIdentifier, (trimmed_quoted hq).trim_eq]
  rcases hq.cases with ⟨rfl, rfl⟩ | ⟨rfl, rfl⟩ | ⟨rfl, rfl⟩
  · simp only [unquoteWith?_doubled, Option.orElse_eq_orElse, Option.orElse_some, Option.getD_some]
  · rw [unquoteWith?_of_ne (by decide), unquoteWith?_doubled]
    rfl
  · rw [unquoteWith?_of_ne (by decide), unquoteWith?_of_ne (by decide), unquoteWith?_doubled]
    rfl

/-- A text that does not end in a quote has none to strip. -/
theorem unquoteIdentifier_eq_self {cs : List Char} (h : Trimmed cs) {c : Char}
    (hc : cs.getLast? = some c) (hquote : ∀ q ∈ ['"', '`', ']'], c ≠ q) :
    unquoteIdentifier cs = cs := by
  have hnone : ∀ l, ∀ q ∈ ['"', '`', ']'], unquoteWith? l q cs = none := by
    intro l q hq
    unfold unquoteWith?
    split
    · next a b bs =>
      have hlast : (b :: bs).getLast? = some c := by
        rw [← hc, List.getLast?_cons_cons]
      rw [hlast]
      simp [hquote q hq]
    · rfl
  rw [unquoteIdentifier, h.trim_eq, hnone _ _ (by simp), hnone _ _ (by simp), hnone _ _ (by simp)]
  rfl

/-! ## Bare names -/

/-- Characters of names that need no quotes. -/
def isNameChar (c : Char) : Bool := c.isLower || c == '_' || c.isDigit

/-- Characters that cut lists and words. -/
def isBreak (c : Char) : Bool := isBlank c || c == ','

/-- Names that need no quotes. -/
def Bare (cs : List Char) : Prop := cs ≠ [] ∧ ∀ c ∈ cs, isNameChar c = true

theorem forall_ascii {P : Char → Prop} (h : ∀ n < 128, P (Char.ofNat n)) {c : Char}
    (hc : c.toNat < 128) : P c := by
  have hP := h c.toNat hc
  rwa [Char.ofNat_toNat] at hP

theorem isNameChar_ascii {c : Char} (h : isNameChar c = true) : c.toNat < 128 := by
  have hlower : c.isLower = (decide (c.val ≥ 'a'.val) && decide (c.val ≤ 'z'.val)) := rfl
  simp only [isNameChar, hlower, Char.isDigit, Bool.or_eq_true, Bool.and_eq_true,
    decide_eq_true_eq, beq_iff_eq, UInt32.le_iff_toNat_le] at h
  rcases h with (⟨-, h⟩ | rfl) | ⟨-, h⟩
  · exact Nat.lt_of_le_of_lt h (by decide)
  · decide
  · exact Nat.lt_of_le_of_lt h (by decide)

/-- A character of a bare name opens, closes and cuts nothing. -/
theorem isNameChar_plain {c : Char} (h : isNameChar c = true) :
    isPlain c = true ∧ isBreak c = false :=
  forall_ascii (P := fun c => isNameChar c = true → isPlain c = true ∧ isBreak c = false)
    (by decide) (isNameChar_ascii h) h

theorem isBlank_of_isNameChar {c : Char} (h : isNameChar c = true) : isBlank c = false := by
  have hbreak := (isNameChar_plain h).2
  simp only [isBreak, Bool.or_eq_false_iff] at hbreak
  exact hbreak.1

theorem toLower_of_isNameChar {c : Char} (h : isNameChar c = true) : c.toLower = c :=
  forall_ascii (P := fun c => isNameChar c = true → c.toLower = c) (by decide)
    (isNameChar_ascii h) h

theorem Bare.plain (h : Bare name) : ∀ c ∈ name, isPlain c = true :=
  fun c hc => (isNameChar_plain (h.2 c hc)).1

/-- A name that needs no quotes is whole to every scan. -/
theorem Bare.whole (h : Bare name) : Closed isBreak name :=
  .of_plain fun c hc => isNameChar_plain (h.2 c hc)

theorem Bare.close_not_mem (h : Bare name) (hq : QuotePair l r) : r ∉ name :=
  Grouping.not_mem_of_plain hq h.plain

theorem isBreak_quote (hq : QuotePair l r) : isBreak l = false ∧ isBreak r = false := by
  rcases hq.cases with ⟨rfl, rfl⟩ | ⟨rfl, rfl⟩ | ⟨rfl, rfl⟩ <;> decide

theorem Bare.quoted_not_break (h : Bare name) (hq : QuotePair l r) :
    ∀ c ∈ l :: name ++ [r], isBreak c = false := by
  intro c hc
  have hcases : c = l ∨ c ∈ name ∨ c = r := by simpa using hc
  rcases hcases with rfl | hc | rfl
  · exact (isBreak_quote hq).1
  · exact (isNameChar_plain (h.2 c hc)).2
  · exact (isBreak_quote hq).2

theorem Bare.closed (h : Bare name) (hq : QuotePair l r) : Closed isBreak (l :: name ++ [r]) :=
  .quoted hq h.plain (h.quoted_not_break hq) .nil

theorem Closed.words (h : Closed isBreak cs) : Closed isBlank cs :=
  h.weaken fun c hc => by simp only [isBreak, Bool.or_eq_false_iff] at hc; exact hc.1

theorem Closed.elements (h : Closed isBreak cs) : Closed (· == ',') cs :=
  h.weaken fun c hc => by simp only [isBreak, Bool.or_eq_false_iff] at hc; exact hc.2

theorem Bare.trimmed (h : Bare name) : Trimmed name := h.whole.words.trimmed h.1

/-- A name that needs no quotes has none to strip. -/
theorem Bare.unquoteIdentifier_eq (h : Bare name) : unquoteIdentifier name = name := by
  have hlast := List.getLast?_eq_some_getLast h.1
  refine unquoteIdentifier_eq_self h.trimmed hlast fun q hq heq => ?_
  have hplain := h.plain _ (List.getLast_mem h.1)
  rw [heq] at hplain
  have hquotes : ['"', '`', ']'].all (!isPlain ·) = true := by decide
  have hquote := List.all_eq_true.mp hquotes q hq
  rw [hplain] at hquote
  cases hquote

theorem Bare.unquoteIdentifier_quoted (h : Bare name) (hq : QuotePair l r) :
    unquoteIdentifier (l :: name ++ [r]) = name := by
  have hdoubled : unquoteIdentifier (l :: double r name ++ [r]) = name :=
    unquoteIdentifier_doubled hq
  rwa [double_eq_self (h.close_not_mem hq)] at hdoubled

/-! ## Lists of names -/

theorem pieces_eq_singleton {cut : Char → Bool} (h : ∀ c ∈ cs, cut c = false) :
    pieces cut cs = [cs] := by
  induction cs with
  | nil => rfl
  | cons c cs ih =>
    rw [pieces, h c List.mem_cons_self, ih fun x hx => h x (List.mem_cons_of_mem c hx)]
    rfl

theorem pieces_ne_nil (cut : Char → Bool) (cs : List Char) : pieces cut cs ≠ [] := by
  cases cs with
  | nil => simp [pieces]
  | cons c cs =>
    rw [pieces]
    split
    · simp
    · cases pieces cut cs <;> simp [consHead]

theorem pieces_append {cut : Char → Bool} {c : Char} (hc : cut c = true) (as bs : List Char) :
    pieces cut (as ++ c :: bs) = pieces cut as ++ pieces cut bs := by
  induction as with
  | nil => simp [pieces, hc]
  | cons a as ih =>
    rw [List.cons_append, pieces, pieces, ih]
    split
    · rfl
    · cases h : pieces cut as with
      | nil => exact absurd h (pieces_ne_nil cut as)
      | cons p ps => rfl

theorem lines_ended (cs : List Char) :
    lines (cs ++ ['\n']) = (pieces (· == '\n') cs).map dropReturn := by
  rw [lines, pieces_append (by decide)]
  simp [pieces]

theorem words_eq_singleton (h : ∀ c ∈ cs, isBreak c = false) (hne : cs ≠ []) :
    words cs = [cs] := by
  have hblank : ∀ c ∈ cs, isBlank c = false := fun c hc => by
    have hb := h c hc
    simp only [isBreak, Bool.or_eq_false_iff] at hb
    exact hb.1
  simp [words, pieces_eq_singleton hblank, hne]

/-- What stands between commas is unquoted part by part, if there are neither blanks nor commas in
the parts. -/
theorem splitIdentifiers_parts {parts : List (List Char)} (hne : parts ≠ [])
    (hparts : ∀ p ∈ parts, Closed isBreak p ∧ Trimmed p ∧ (∀ c ∈ p, isBreak c = false) ∧
      unquoteIdentifier p ≠ []) :
    splitIdentifiers ([',', ' '].intercalate parts) = parts.map unquoteIdentifier := by
  have hsplit : splitTopLevel ',' ([] ++ [',', ' '].intercalate parts ++ []) = parts :=
    splitTopLevel_join (by decide) (by decide) (List.all_eq_true.mp (by decide)) (by simp) hne
      (fun p hp => ⟨(hparts p hp).1.elements, (hparts p hp).2.1⟩) [] (by simp)
  have hword : ∀ p ∈ parts, unquoteIdentifier (unwords (dropSortWords (words p)))
      = unquoteIdentifier p := by
    intro p hp
    obtain ⟨-, htrimmed, hbreak, -⟩ := hparts p hp
    have hsingle : unwords (dropSortWords [p]) = p := List.intercalate_singleton
    rw [words_eq_singleton hbreak htrimmed.ne_nil, hsingle]
  rw [List.nil_append, List.append_nil] at hsplit
  rw [splitIdentifiers, hsplit, List.map_congr_left hword, List.filter_eq_self]
  intro n hn
  obtain ⟨p, hp, rfl⟩ := List.mem_map.mp hn
  simpa using (hparts p hp).2.2.2

theorem map_unquoteIdentifier_quoted (hq : QuotePair l r) {names : List (List Char)}
    (hnames : ∀ n ∈ names, Bare n) :
    (names.map fun n => l :: n ++ [r]).map unquoteIdentifier = names := by
  rw [List.map_map]
  exact (List.map_congr_left fun n hn => (hnames n hn).unquoteIdentifier_quoted hq).trans
    (List.map_id names)

/-- Quoted names between commas are read back. -/
theorem splitIdentifiers_quoted (hq : QuotePair l r) {names : List (List Char)}
    (hnames : ∀ n ∈ names, Bare n) (hne : names ≠ []) :
    splitIdentifiers ([',', ' '].intercalate (names.map fun n => l :: n ++ [r])) = names := by
  rw [splitIdentifiers_parts (by simpa using hne), map_unquoteIdentifier_quoted hq hnames]
  intro p hp
  obtain ⟨n, hn, rfl⟩ := List.mem_map.mp hp
  refine ⟨(hnames n hn).closed hq, trimmed_quoted hq, (hnames n hn).quoted_not_break hq, ?_⟩
  rw [(hnames n hn).unquoteIdentifier_quoted hq]
  exact (hnames n hn).1

/-! ## Qualified names -/

theorem names_opens (hq : QuotePair l r) : Grouping.names.opens l = some r := by
  rcases hq.cases with ⟨rfl, rfl⟩ | ⟨rfl, rfl⟩ | ⟨rfl, rfl⟩ <;> rfl

/-- Names between dots are read one by one, if the scan passes over each of them. -/
theorem splitQualified_parts {parts : List (List Char)} (hne : parts ≠ [])
    (hparts : ∀ p ∈ parts, Grouping.names.Passes (· == '.') p ∧ Trimmed p ∧
      unquoteIdentifier p ≠ []) :
    splitQualified (['.'].intercalate parts) = parts.map unquoteIdentifier := by
  have hjoined : Trimmed (['.'].intercalate parts) ∧
      Grouping.names.segments (· == '.') {} (['.'].intercalate parts) = parts := by
    induction parts with
    | nil => exact absurd rfl hne
    | cons p ps ih =>
      obtain ⟨hpasses, htrimmed, -⟩ := hparts p List.mem_cons_self
      cases ps with
      | nil =>
        rw [List.intercalate_singleton]
        exact ⟨htrimmed, hpasses.last⟩
      | cons q qs =>
        obtain ⟨hrest, hseg⟩ := ih (by simp) fun x hx => hparts x (List.mem_cons_of_mem p hx)
        rw [List.intercalate_cons_cons, List.append_assoc]
        exact ⟨htrimmed.append ['.'] hrest, by rw [List.singleton_append, hpasses.cut rfl, hseg]⟩
  rw [splitQualified, hjoined.1.trim_eq, hjoined.2, List.filter_eq_self]
  intro n hn
  obtain ⟨p, hp, rfl⟩ := List.mem_map.mp hn
  simpa using (hparts p hp).2.2

theorem passes_name (hq : QuotePair l r) (hname : Bare name) :
    Grouping.names.Passes (· == '.') (l :: name ++ [r]) := by
  intro rest
  have hseg := Grouping.names.segments_quoted (· == '.') 0 (names_opens hq)
    (hname.close_not_mem hq) rest
  rwa [List.append_assoc, List.singleton_append]

/-- A scan for dots passes over a name that needs no quotes. -/
theorem Bare.passes_names (h : Bare name) : Grouping.names.Passes (· == '.') name := by
  have hpass : ∀ c ∈ name, Grouping.names.opens c = none ∧ c ≠ '(' ∧ c ≠ ')' ∧
      ((0 : Int) = 0 → (c == '.') = false) := by
    intro c hc
    refine forall_ascii (P := fun c => isNameChar c = true → Grouping.names.opens c = none ∧
      c ≠ '(' ∧ c ≠ ')' ∧ ((0 : Int) = 0 → (c == '.') = false)) (by decide)
      (isNameChar_ascii (h.2 c hc)) (h.2 c hc)
  exact Grouping.segments_passed hpass

/-- A name that needs no quotes is qualified by nothing. -/
theorem Bare.splitQualified_eq (h : Bare name) : splitQualified name = [name] := by
  have hone : ∀ p ∈ [name], Grouping.names.Passes (· == '.') p ∧ Trimmed p ∧
      unquoteIdentifier p ≠ [] := by
    simpa [h.unquoteIdentifier_eq] using ⟨h.passes_names, h.trimmed, h.1⟩
  simpa [h.unquoteIdentifier_eq] using splitQualified_parts (by simp) hone

theorem splitQualified_names (hq : QuotePair l r) {names : List (List Char)} (hne : names ≠ [])
    (hnames : ∀ n ∈ names, Bare n) :
    splitQualified (['.'].intercalate (names.map fun n => l :: n ++ [r])) = names := by
  rw [splitQualified_parts (by simpa using hne), map_unquoteIdentifier_quoted hq hnames]
  intro p hp
  obtain ⟨n, hn, rfl⟩ := List.mem_map.mp hp
  refine ⟨passes_name hq (hnames n hn), trimmed_quoted hq, ?_⟩
  rw [(hnames n hn).unquoteIdentifier_quoted hq]
  exact (hnames n hn).1

theorem splitQualified_name (hq : QuotePair l r) (hname : Bare name) :
    splitQualified (l :: name ++ [r]) = [name] := by
  have hone := splitQualified_names hq (List.cons_ne_nil name []) (by simpa using hname)
  simpa using hone

theorem splitQualified_dotted (hq : QuotePair l r) {schema : List Char} (hschema : Bare schema)
    (hname : Bare name) :
    splitQualified (l :: schema ++ r :: '.' :: l :: name ++ [r]) = [schema, name] := by
  have htwo := splitQualified_names hq (List.cons_ne_nil schema [name])
    (by simpa using ⟨hschema, hname⟩)
  simpa [List.intercalate_cons_cons] using htwo

end SchemaChart.Text
