-- The parts of a list. A text is cut in exactly one way at the separators that stand outside of
-- quotes and groups, and neither a part by itself nor the parts joined anew are cut otherwise.
import Mathlib.Data.List.Infix
import Mathlib.Data.Nat.Init
import SchemaChart.Proofs.Cuts

namespace SchemaChart.Text

/-! ## Where the first cut is -/

namespace Grouping

variable (g : Grouping) {sep : Char → Bool} {n : Nesting} {c : Char} {x y cs : List Char}

theorem behind_append : g.behind n (x ++ y) = g.behind (g.behind n x) y := List.foldl_append

theorem uncut_append :
    g.uncut sep n (x ++ y) = (g.uncut sep n x && g.uncut sep (g.behind n x) y) := by
  induction x generalizing n with
  | nil => rfl
  | cons a x ih => rw [List.cons_append, uncut, uncut, ih, behind_cons, Bool.and_assoc]

/-- A scan cuts at a separator just if it stands outside of quotes and groups before it and behind
it: a separator that is a quote or a parenthesis belongs to what it opens or closes. -/
theorem cuts_iff : g.cuts sep n c = true ↔ sep c = true ∧ n = {} ∧ g.step n c = {} := by
  rcases n with ⟨d, _ | q⟩
  · unfold cuts step
    by_cases hd : d = 0
    · subst hd
      rcases g.opens c with _ | q
      · rcases g.parens with _ | _
        · simp
        · by_cases hleft : c = '('
          · simp [hleft]
          · by_cases hright : c = ')'
            · simp [hright]
            · simp [hleft, hright]
      · simp
    · simp [hd]
  · simp [cuts]

theorem uncut_or_cut (sep : Char → Bool) (n : Nesting) (cs : List Char) :
    g.uncut sep n cs = true ∨
      ∃ x c y, cs = x ++ c :: y ∧ g.uncut sep n x = true ∧ g.cuts sep (g.behind n x) c = true := by
  induction cs generalizing n with
  | nil => exact .inl rfl
  | cons a cs ih =>
    rcases hcut : g.cuts sep n a with _ | _
    · rcases ih (g.step n a) with huncut | ⟨x, c, y, rfl, hx, hc⟩
      · exact .inl (by simp [uncut, hcut, huncut])
      · exact .inr ⟨a :: x, c, y, rfl, by simp [uncut, hcut, hx], hc⟩
    · exact .inr ⟨[], a, cs, rfl, rfl, hcut⟩

/-- What stands before the first cut is the first segment. -/
theorem segments_of_cut (hx : g.uncut sep n x = true) (hc : g.cuts sep (g.behind n x) c = true)
    (y : List Char) :
    g.segments sep n (x ++ c :: y) = x :: g.segments sep (g.behind n x) y := by
  induction x generalizing n with
  | nil => exact if_pos hc
  | cons a x ih =>
    rw [uncut, Bool.and_eq_true, Bool.not_eq_true'] at hx
    rw [List.cons_append, segments, if_neg (by simp [hx.1]), ih hx.2 hc]
    rfl

end Grouping

/-! ## Segments of a list -/

/-- A text that, read from outside of all quotes and parentheses, ends outside of them. -/
def EndsClear (cs : List Char) : Prop := Grouping.elements.behind {} cs = {}

/-- No separator in a text stands outside of quotes and parentheses. One that opens or closes a
quote or a group stands clear on one side only, and is a part of what it opens or closes. -/
def Unseparated (sep : Char) (cs : List Char) : Prop :=
  ∀ before behind, cs = before ++ sep :: behind → ¬ (EndsClear before ∧ EndsClear (before ++ [sep]))

/-- A text is these segments with separators between them: no separator in a segment stands
outside of quotes and parentheses, and every separator between two segments does. -/
structure Decomposes (sep : Char) (cs : List Char) (segs : List (List Char)) : Prop where
  joined : [sep].intercalate segs = cs
  nonempty : segs ≠ []
  unseparated : ∀ seg ∈ segs, Unseparated sep seg
  clear : ∀ seg ∈ segs.dropLast, EndsClear seg ∧ EndsClear (seg ++ [sep])

section

variable {sep : Char} {cs seg : List Char} {segs : List (List Char)}

theorem cuts_behind_iff :
    Grouping.elements.cuts (· == sep) (Grouping.elements.behind {} cs) sep = true ↔
      EndsClear cs ∧ EndsClear (cs ++ [sep]) := by
  unfold EndsClear
  rw [Grouping.cuts_iff, Grouping.behind_append]
  simp [Grouping.behind]

theorem uncut_iff_unseparated :
    Grouping.elements.uncut (· == sep) {} cs = true ↔ Unseparated sep cs := by
  constructor
  · rintro h before behind rfl hclear
    rw [Grouping.uncut_append, Grouping.uncut, cuts_behind_iff.mpr hclear] at h
    simp at h
  · intro h
    rcases Grouping.elements.uncut_or_cut (· == sep) {} cs with huncut | ⟨x, c, y, htext, -, hc⟩
    · exact huncut
    · have hsep : c = sep := by simpa using (Grouping.elements.cuts_iff.mp hc).1
      subst hsep
      exact absurd (cuts_behind_iff.mp hc) (h x y htext)

theorem Decomposes.cons (h : Decomposes sep cs segs) (hseg : Unseparated sep seg)
    (hclear : EndsClear seg ∧ EndsClear (seg ++ [sep])) :
    Decomposes sep (seg ++ sep :: cs) (seg :: segs) := by
  obtain ⟨s, ss, rfl⟩ := List.exists_cons_of_ne_nil h.nonempty
  refine ⟨?_, by simp, List.forall_mem_cons.mpr ⟨hseg, h.unseparated⟩, ?_⟩
  · rw [List.intercalate_cons_cons, h.joined, List.append_assoc, List.singleton_append]
  · rw [List.dropLast_cons_cons]
    exact List.forall_mem_cons.mpr ⟨hclear, h.clear⟩

/-- The scan finds segments. -/
theorem decomposes_segments (sep : Char) (cs : List Char) :
    Decomposes sep cs (Grouping.elements.segments (· == sep) {} cs) := by
  induction hlength : cs.length using Nat.strong_induction_on generalizing cs with
  | h k ih =>
    rcases Grouping.elements.uncut_or_cut (· == sep) {} cs with huncut | ⟨x, c, y, rfl, hx, hc⟩
    · rw [Grouping.elements.segments_eq_whole_iff.mpr huncut]
      exact ⟨by simp, by simp, by simpa using uncut_iff_unseparated.mp huncut, by simp⟩
    · obtain ⟨hsep, hclear, -⟩ := Grouping.elements.cuts_iff.mp hc
      have hsep : c = sep := by simpa using hsep
      subst hsep
      have hrest := ih y.length (by simp [← hlength]; omega) y rfl
      rw [Grouping.segments_of_cut _ hx hc, hclear]
      exact hrest.cons (uncut_iff_unseparated.mp hx) (cuts_behind_iff.mp hc)

/-- There are no other segments than those that the scan finds. -/
theorem Decomposes.segments_eq (h : Decomposes sep cs segs) :
    Grouping.elements.segments (· == sep) {} cs = segs := by
  induction segs generalizing cs with
  | nil => exact absurd rfl h.nonempty
  | cons s ss ih =>
    have hs := uncut_iff_unseparated.mpr (h.unseparated s List.mem_cons_self)
    cases ss with
    | nil =>
      rw [← h.joined, List.intercalate_singleton]
      exact Grouping.elements.segments_eq_whole_iff.mpr hs
    | cons t ts =>
      have hclear := h.clear s (by simp)
      have htail : Decomposes sep ([sep].intercalate (t :: ts)) (t :: ts) :=
        ⟨rfl, by simp, fun w hw => h.unseparated w (List.mem_cons_of_mem s hw),
          fun w hw => h.clear w (List.mem_cons_of_mem s hw)⟩
      have hcut := cuts_behind_iff.mpr hclear
      rw [← h.joined, List.intercalate_cons_cons, List.append_assoc, List.singleton_append,
        Grouping.segments_of_cut _ hs hcut, hclear.1, ih htail]

/-! ## Blanks around segments -/

theorem anyQuote_not_blank {c q : Char} (h : anyQuote c = some q) : isBlank q = false := by
  unfold anyQuote at h
  split at h
  · cases h
    rfl
  · obtain ⟨rfl, rfl | rfl | rfl⟩ := plainQuote_cases h
    · rfl
    · rfl
    · rfl

/-- No blank closes a quote that a scan has opened. -/
theorem behind_quote (cs : List Char) {n : Nesting} (hn : ∀ q ∈ n.quote, isBlank q = false) :
    ∀ q ∈ (Grouping.elements.behind n cs).quote, isBlank q = false := by
  induction cs generalizing n with
  | nil => exact hn
  | cons c cs ih =>
    refine ih ?_
    have hopens : Grouping.elements.opens c = anyQuote c := rfl
    unfold Grouping.step
    rcases n with ⟨d, _ | q⟩
    · rcases hc : anyQuote c with _ | r
      · rw [hopens, hc]
        dsimp only
        split
        · simp
        · split
          · simp
          · simp
      · rw [hopens, hc]
        simpa using anyQuote_not_blank hc
    · dsimp only
      split
      · simp
      · exact hn

/-- Blanks leave a scan where it stands. -/
theorem behind_blanks {n : Nesting} (hn : ∀ q ∈ n.quote, isBlank q = false)
    (h : ∀ c ∈ cs, isBlank c = true) : Grouping.elements.behind n cs = n := by
  induction cs with
  | nil => rfl
  | cons c cs ih =>
    have hc := h c List.mem_cons_self
    obtain ⟨hopens, hleft, hright⟩ := Grouping.opens_plain (.inl rfl) (isPlain_of_isBlank hc)
    have hstep : Grouping.elements.step n c = n := by
      rcases n with ⟨d, _ | q⟩
      · simp [Grouping.step, hopens, hleft, hright]
      · have hq : c ≠ q := by
          rintro rfl
          rw [hn c rfl] at hc
          cases hc
        simp [Grouping.step, hq]
    rw [Grouping.behind_cons, hstep]
    exact ih fun x hx => h x (List.mem_cons_of_mem c hx)

/-- A text is what is left of it between blanks. -/
theorem eq_pad_trim (cs : List Char) :
    ∃ pre post, cs = pre ++ (trim cs ++ post) ∧ (∀ c ∈ pre, isBlank c = true) ∧
      ∀ c ∈ post, isBlank c = true := by
  refine ⟨cs.takeWhile isBlank, ((trimStart cs).reverse.takeWhile isBlank).reverse, ?_,
    List.all_eq_true.mp List.all_takeWhile, ?_⟩
  · rw [trim, trimEnd, ← List.reverse_append, List.takeWhile_append_dropWhile, List.reverse_reverse,
      trimStart, List.takeWhile_append_dropWhile]
  · intro c hc
    exact List.all_eq_true.mp List.all_takeWhile c (List.mem_reverse.mp hc)

/-- Without the blanks around it a text ends as clear as before. -/
theorem endsClear_trim (h : EndsClear cs) : EndsClear (trim cs) := by
  have hstart : ∀ q ∈ ({} : Nesting).quote, isBlank q = false := by simp
  obtain ⟨pre, post, htext, hpre, hpost⟩ := eq_pad_trim cs
  unfold EndsClear at h ⊢
  rw [htext, Grouping.behind_append, behind_blanks hstart hpre, Grouping.behind_append,
    behind_blanks (behind_quote _ hstart) hpost] at h
  exact h

theorem unseparated_trim (h : Unseparated sep cs) : Unseparated sep (trim cs) := by
  rw [← uncut_iff_unseparated] at h ⊢
  obtain ⟨pre, post, htext, hpre, -⟩ := eq_pad_trim cs
  rw [htext, Grouping.uncut_append, behind_blanks (by simp) hpre, Grouping.uncut_append,
    Bool.and_eq_true, Bool.and_eq_true] at h
  exact h.2.1

/-! ## Parts -/

theorem splitTopLevel_unseparated (h : Unseparated sep cs) (htrimmed : Trimmed cs) :
    splitTopLevel sep cs = [cs] := by
  have hwhole := Grouping.elements.segments_eq_whole_iff.mpr (uncut_iff_unseparated.mpr h)
  simp [splitTopLevel, hwhole, htrimmed.trim_eq, htrimmed.ne_nil]

/-- Of the items that are kept, those before the last one stand before the last one of all. -/
theorem mem_dropLast_of_filter {α : Type} {p : α → Bool} {l : List α} {a : α}
    (h : a ∈ (l.filter p).dropLast) : a ∈ l.dropLast := by
  rcases List.eq_nil_or_concat l with rfl | ⟨front, b, rfl⟩
  · simp at h
  · rw [List.concat_eq_append, List.filter_append] at h
    rw [List.concat_eq_append, List.dropLast_concat]
    by_cases hb : p b = true
    · rw [List.filter_cons_of_pos hb, List.filter_nil, List.dropLast_concat] at h
      exact (List.mem_filter.mp h).1
    · rw [List.filter_cons_of_neg hb, List.filter_nil, List.append_nil] at h
      exact (List.mem_filter.mp (List.mem_of_mem_dropLast h)).1

/-- A part is a segment without the blanks around it, and not empty. -/
theorem mem_splitTopLevel {p : List Char} (hp : p ∈ splitTopLevel sep cs) :
    Unseparated sep p ∧ Trimmed p := by
  obtain ⟨hmem, hne⟩ := List.mem_filter.mp hp
  obtain ⟨seg, hseg, rfl⟩ := List.mem_map.mp hmem
  exact ⟨unseparated_trim ((decomposes_segments sep cs).unseparated seg hseg),
    trimmed_trim (by simpa using hne)⟩

/-- The parts of a text, joined anew, are its segments with nothing between them but separators. -/
theorem decomposes_parts (hne : splitTopLevel sep cs ≠ []) :
    Decomposes sep ([sep].intercalate (splitTopLevel sep cs)) (splitTopLevel sep cs) := by
  have h := decomposes_segments sep cs
  refine ⟨rfl, hne, fun p hp => (mem_splitTopLevel hp).1, fun p hp => ?_⟩
  have hmem := mem_dropLast_of_filter hp
  rw [← List.map_dropLast] at hmem
  obtain ⟨seg, hseg, rfl⟩ := List.mem_map.mp hmem
  obtain ⟨hclear, hcut⟩ := h.clear seg hseg
  have htrim := endsClear_trim hclear
  refine ⟨htrim, ?_⟩
  -- both texts end clear, so that the separator does to one what it does to the other
  unfold EndsClear at hclear hcut htrim ⊢
  rw [Grouping.behind_append, hclear] at hcut
  rw [Grouping.behind_append, htrim, hcut]

theorem splitTopLevel_parts (sep : Char) (cs : List Char) :
    splitTopLevel sep ([sep].intercalate (splitTopLevel sep cs)) = splitTopLevel sep cs := by
  by_cases hne : splitTopLevel sep cs = []
  · rw [hne]
    rfl
  · have htrim : (splitTopLevel sep cs).map trim = splitTopLevel sep cs := by
      rw [List.map_congr_left (g := id) fun p hp => (mem_splitTopLevel hp).2.trim_eq, List.map_id]
    have hkept : (splitTopLevel sep cs).filter (!·.isEmpty) = splitTopLevel sep cs :=
      List.filter_eq_self.mpr fun p hp => by simpa using (mem_splitTopLevel hp).2.ne_nil
    have hjoined : splitTopLevel sep ([sep].intercalate (splitTopLevel sep cs)) =
        ((splitTopLevel sep cs).map trim).filter (!·.isEmpty) := by
      rw [splitTopLevel, (decomposes_parts hne).segments_eq]
    rw [hjoined, htrim, hkept]

end

/-- A text has exactly one decomposition into segments at the separators outside of quotes and
parentheses, whatever is left open in it and whatever the separator is. Its parts are those
segments without the blanks around them, the empty ones left out. A part is not cut any further,
and the parts joined by the separator are cut into the same parts. -/
theorem parts_are_the_segments_and_stay_so (sep : Char) (cs : List Char) :
    (∃ segs, Decomposes sep cs segs ∧ (∀ other, Decomposes sep cs other → other = segs) ∧
      splitTopLevel sep cs = (segs.map trim).filter (!·.isEmpty)) ∧
    (∀ p ∈ splitTopLevel sep cs, splitTopLevel sep p = [p]) ∧
    splitTopLevel sep ([sep].intercalate (splitTopLevel sep cs)) = splitTopLevel sep cs := by
  refine ⟨⟨Grouping.elements.segments (· == sep) {} cs, decomposes_segments sep cs, ?_, rfl⟩,
    ?_, splitTopLevel_parts sep cs⟩
  · intro other hother
    exact hother.segments_eq.symm
  · intro p hp
    obtain ⟨hunseparated, htrimmed⟩ := mem_splitTopLevel hp
    exact splitTopLevel_unseparated hunseparated htrimmed

/-- The last part closes a parenthesis that it did not open, and leaves a bracket open: no comma
in it cuts. -/
theorem unbalanced_part_stays :
    splitTopLevel ',' "a numeric(10, 2) , , b),'x,y',[c, (d".toList =
      ["a numeric(10, 2)".toList, "b),'x,y',[c, (d".toList] ∧
    splitTopLevel ',' "b),'x,y',[c, (d".toList = ["b),'x,y',[c, (d".toList] := by
  have hparts : splitTopLevel ',' "a numeric(10, 2) , , b),'x,y',[c, (d".toList =
      ["a numeric(10, 2)".toList, "b),'x,y',[c, (d".toList] := by decide
  have hstay := (parts_are_the_segments_and_stay_so ','
    "a numeric(10, 2) , , b),'x,y',[c, (d".toList).2.1
  exact ⟨hparts, hstay _ (by rw [hparts]; simp)⟩

end SchemaChart.Text
