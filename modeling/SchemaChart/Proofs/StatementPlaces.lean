-- Where statements stand in their script. The scan counts the lines that it has read, and a
-- statement has no more lines than were read since it started: so all of them are in the script.
import Mathlib.Tactic.ByContra
import SchemaChart.Proofs.StatementBreaks

namespace SchemaChart.Text

/-! ## Lines of a text -/

theorem length_pieces (cut : Char → Bool) (cs : List Char) :
    (pieces cut cs).length = cs.countP cut + 1 := by
  induction cs with
  | nil => rfl
  | cons c cs ih =>
    rw [pieces, List.countP_cons]
    split
    · rw [List.length_cons, ih]
    · cases hp : pieces cut cs with
      | nil => exact absurd hp (pieces_ne_nil cut cs)
      | cons p ps => rw [consHead, List.length_cons, ← ih, hp, List.length_cons, Nat.add_zero]

/-- The last piece ends with the last character, if that is no cut. -/
theorem pieces_concat {cut : Char → Bool} {c : Char} (hc : cut c = false) (cs : List Char) :
    ∃ front last, pieces cut (cs ++ [c]) = front ++ [last ++ [c]] := by
  induction cs with
  | nil => exact ⟨[], [], by simp [pieces, hc, consHead]⟩
  | cons a cs ih =>
    obtain ⟨front, last, hp⟩ := ih
    rw [List.cons_append, pieces, hp]
    split
    · exact ⟨[] :: front, last, rfl⟩
    · cases front with
      | nil => exact ⟨[], a :: last, rfl⟩
      | cons p front => exact ⟨(a :: p) :: front, last, rfl⟩

/-- The lines up to a character: it stands in a line of its own or ends one. -/
theorem length_lines_concat (cs : List Char) (c : Char) :
    (lines (cs ++ [c])).length = cs.count '\n' + 1 := by
  by_cases hc : c = '\n'
  · subst hc
    rw [lines_ended, List.length_map, length_pieces]
    rfl
  · have hcut : (c == '\n') = false := beq_false_of_ne hc
    obtain ⟨front, last, hp⟩ : ∃ front last,
        pieces (· == '\n') (cs ++ [c]) = front ++ [last ++ [c]] :=
      pieces_concat (by exact hcut) cs
    have hlength := length_pieces (· == '\n') (cs ++ [c])
    rw [hp, List.countP_append, List.countP_singleton, hcut] at hlength
    rw [lines, hp]
    simpa [List.count] using hlength

theorem length_lines_le_concat (cs : List Char) (c : Char) :
    (lines cs).length ≤ (lines (cs ++ [c])).length := by
  rcases List.eq_nil_or_concat cs with rfl | ⟨front, b, rfl⟩
  · exact Nat.zero_le _
  · rw [List.concat_eq_append, length_lines_concat, length_lines_concat, List.count_append]
    omega

end SchemaChart.Text

namespace SchemaChart.Script

open Text

/-- Does a statement start on a line of a text and end on one. -/
def Statement.StandsIn (st : Statement) (cs : List Char) : Prop :=
  1 ≤ st.line ∧ st.line + st.text.toList.count '\n' ≤ (lines cs).length

theorem Statement.StandsIn.more {st : Statement} {cs : List Char} (h : st.StandsIn cs) (c : Char) :
    st.StandsIn (cs ++ [c]) :=
  ⟨h.1, Nat.le_trans h.2 (length_lines_le_concat cs c)⟩

/-- The modes that a statement is in once it has started. -/
def Mode.inside : Mode → Bool
  | .quoted _ | .body _ | .keeping _ _ => true
  | .dropping _ next => next.inside
  | .code _ | .restOfLine | .comment => false

theorem outside {m : Mode} {P : Prop} (h : m.inside = false) : m.inside = true → P :=
  fun hin => absurd (h.symm.trans hin) Bool.false_ne_true

/-- Only a character that is not blank opens something. -/
theorem opened_inside {c : Char} {rest : List Char} (h : (opened c rest).inside = true) :
    isBlank c = false := by
  unfold opened at h
  split at h
  · rename_i close hquote
    unfold anyQuote at hquote
    split at hquote
    · rename_i hc
      rw [beq_iff_eq.mp hc]
      rfl
    · obtain ⟨rfl, rfl | rfl | rfl⟩ := plainQuote_cases hquote
      · rfl
      · rfl
      · rfl
  · by_cases hc : c = '$'
    · subst hc
      rfl
    · rw [List.take_succ_cons, Scan.dollarTag?_of_ne hc] at h
      cases h

/-- What a scan knows of the lines of the text before it. A statement has started on one of them
and kept no more line feeds than came since; blanks at its end do not count, for they may reach
into a line that is not there. -/
structure Scan.Placed (before : List Char) (s : Scan) : Prop where
  line : s.line = before.count '\n' + 1
  inside : s.mode.inside = true → s.Started
  start : s.Started → 1 ≤ s.start ∧ s.start + (trimStart s.current.reverse).count '\n' ≤ s.line
  text : s.Started → s.start + (trim s.current.reverse).count '\n' ≤ (lines before).length
  done : ∀ st ∈ s.done, st.StandsIn before

namespace Scan

variable {s : Scan} {before : List Char} {m : Mode} {c : Char}

theorem Started.keep (h : s.Started) (c : Char) : (s.keep c).Started := by
  unfold Started at *
  simp [Scan.keep, h]

theorem drop_of_ne (hc : c ≠ '\n') : s.drop c = s := by
  simp [drop, hc]

theorem not_started (h : ¬ s.Started) : s.current.reverse.all isBlank = true := by
  rw [List.all_reverse]
  simpa [Started] using h

theorem placed_start : ({} : Scan).Placed [] where
  line := rfl
  inside := fun h => nomatch h
  start := fun h => nomatch h
  text := fun h => nomatch h
  done := fun _ h => nomatch h

/-- A line more has been read behind a line feed. -/
theorem count_concat (before : List Char) (c : Char) :
    (before ++ [c]).count '\n' =
      if c == '\n' then before.count '\n' + 1 else before.count '\n' := by
  by_cases hc : c = '\n' <;> simp [hc]

theorem Placed.drop_line (h : s.Placed before) (c : Char) :
    (s.drop c).line = (before ++ [c]).count '\n' + 1 := by
  rw [count_concat, Scan.drop, h.line]
  dsimp only
  split
  · rfl
  · rfl

theorem Placed.drop (h : s.Placed before) (hm : m.inside = true → s.Started) (c : Char) :
    ({ s.drop c with mode := m } : Scan).Placed (before ++ [c]) where
  line := h.drop_line c
  inside := hm
  start := fun hs => by
    have hstart := h.start hs
    have hline := h.line
    refine ⟨hstart.1, Nat.le_trans hstart.2 ?_⟩
    dsimp only
    rw [h.drop_line c, List.count_append]
    omega
  text := fun hs => Nat.le_trans (h.text hs) (length_lines_le_concat before c)
  done := fun st hst => (h.done st hst).more c

/-- A character that is passed over, and no line feed. -/
theorem Placed.pass (h : s.Placed before) (hm : m.inside = true → s.Started) (hc : c ≠ '\n') :
    ({ s with mode := m } : Scan).Placed (before ++ [c]) := by
  have hdrop := h.drop hm c
  rwa [drop_of_ne hc] at hdrop

/-- It does not matter which character was read last, if it was no line feed. -/
theorem Placed.swap {d : Char} (h : s.Placed (before ++ [c])) (hc : c ≠ '\n') (hd : d ≠ '\n') :
    s.Placed (before ++ [d]) := by
  have hcount : (before ++ [c]).count '\n' = (before ++ [d]).count '\n' := by simp [hc, hd]
  have hlines : (lines (before ++ [c])).length = (lines (before ++ [d])).length := by
    rw [length_lines_concat, length_lines_concat]
  exact ⟨hcount ▸ h.line, h.inside, h.start, hlines ▸ h.text,
    fun st hst => ⟨(h.done st hst).1, hlines ▸ (h.done st hst).2⟩⟩

theorem Placed.begun (h : s.Placed before) (c : Char) : (s.begun c).Placed before := by
  by_cases hs : s.Started
  · rwa [hs.begun]
  · unfold Scan.begun
    split
    · exact ⟨h.line, h.inside, fun hs' => absurd hs' hs, fun hs' => absurd hs' hs, h.done⟩
    · exact h

theorem Placed.flush (h : s.Placed before) (hm : m.inside = false) :
    ({ s.flush with mode := m } : Scan).Placed before where
  line := h.line
  inside := outside hm
  start := fun hs => nomatch hs
  text := fun hs => nomatch hs
  done := by
    unfold Scan.flush
    dsimp only
    split
    · exact h.done
    · rename_i hne
      have hs : s.Started := by
        by_contra hns
        exact hne (by simp [trim, trimStart_of_blank (not_started hns), trimEnd])
      refine List.forall_mem_cons.mpr ⟨⟨(h.start hs).1, ?_⟩, h.done⟩
      rw [String.toList_ofList]
      exact h.text hs

theorem begun_of_blank (hc : isBlank c = true) : s.begun c = s := by
  simp [begun, hc]

/-- Behind a character that is not blank, the statement that it is in has started in time. -/
theorem Placed.begun_start (h : s.Placed before) (hc : isBlank c = false) :
    1 ≤ (s.begun c).start ∧ (s.begun c).start +
      (trimStart (s.begun c).current.reverse).count '\n' ≤ before.count '\n' + 1 := by
  by_cases hs : s.Started
  · rw [hs.begun, ← h.line]
    exact h.start hs
  · have hall : s.current.all isBlank = true := by simpa [Started] using hs
    have hbegun : s.begun c = { s with start := s.line } := by simp [Scan.begun, hall, hc]
    rw [hbegun]
    dsimp only
    rw [trimStart_of_blank (not_started hs), h.line]
    exact ⟨Nat.le_add_left _ _, Nat.le_refl _⟩

theorem Placed.keep_of_blank (h : s.Placed before) (hc : isBlank c = true)
    (hm : m.inside = true → (s.keep c).Started) :
    ({ s.keep c with mode := m } : Scan).Placed (before ++ [c]) := by
  have hline : (s.keep c).line = (before ++ [c]).count '\n' + 1 := h.drop_line c
  have htext : (s.keep c).current.reverse = s.current.reverse ++ [c] := List.reverse_cons
  have hstarted : (s.keep c).Started → s.Started := by
    intro hs
    simpa [Started, Scan.keep, hc] using hs
  refine ⟨hline, hm, fun hs => ?_, fun hs => ?_, fun st hst => (h.done st hst).more c⟩
  · obtain ⟨hfirst, hstart⟩ := h.start (hstarted hs)
    have hall : s.current.reverse.all isBlank = false := List.all_reverse.trans (hstarted hs)
    have hbound : (s.keep c).start + (trimStart s.current.reverse).count '\n' ≤
        before.count '\n' + 1 := h.line ▸ hstart
    refine ⟨hfirst, ?_⟩
    dsimp only
    rw [hline, htext, trimStart_concat hall, List.count_append, List.count_append]
    omega
  · dsimp only
    rw [htext, trim_concat_of_blank hc]
    exact Nat.le_trans (h.text (hstarted hs)) (length_lines_le_concat before c)

/-- A character that is kept starts a statement, goes on with one, or is a blank before one. -/
theorem Placed.keep (h : s.Placed before) (c : Char)
    (hm : m.inside = true → ((s.begun c).keep c).Started) :
    ({ (s.begun c).keep c with mode := m } : Scan).Placed (before ++ [c]) := by
  have hb := h.begun c
  cases hblank : isBlank c with
  | true => exact hb.keep_of_blank hblank hm
  | false =>
    obtain ⟨hfirst, hstart⟩ := h.begun_start hblank
    have hline : ((s.begun c).keep c).line = (before ++ [c]).count '\n' + 1 := hb.drop_line c
    have htext : ((s.begun c).keep c).current.reverse = (s.begun c).current.reverse ++ [c] :=
      List.reverse_cons
    have hfeed : List.count '\n' [c] = 0 := by
      refine List.count_eq_zero.mpr fun hc => ?_
      rw [← List.mem_singleton.mp hc] at hblank
      cases hblank
    have hbound : ((s.begun c).keep c).start +
        (trimStart (s.begun c).current.reverse ++ [c]).count '\n' ≤ before.count '\n' + 1 := by
      rw [List.count_append, hfeed]
      exact hstart
    refine ⟨hline, hm, fun _ => ⟨hfirst, ?_⟩, fun _ => ?_, fun st hst => (hb.done st hst).more c⟩
    · dsimp only
      have hcount : (before ++ [c]).count '\n' = before.count '\n' := by
        rw [List.count_append, hfeed, Nat.add_zero]
      rw [hline, htext, trimStart_concat_of_not_blank hblank, hcount]
      exact hbound
    · dsimp only
      rw [htext, trim_concat_of_not_blank hblank, length_lines_concat]
      exact hbound

/-- A line feed outside of quotes is kept in a statement and dropped before one. -/
theorem Placed.newline (h : s.Placed before) : s.newline.Placed (before ++ ['\n']) := by
  unfold Scan.newline
  split
  · exact h.drop (m := .code true) (outside rfl) '\n'
  · have hkeep := h.keep (m := .code true) '\n' (outside rfl)
    rwa [begun_of_blank rfl] at hkeep

theorem Placed.code (h : s.Placed before) (c : Char) (rest : List Char) :
    (s.code c rest).Placed (before ++ [c]) := by
  rcases code_cases s c rest with ⟨rfl, hs⟩ | ⟨rfl, hs⟩ | ⟨rfl, -, hs⟩ | ⟨rfl, -, hs⟩ |
    ⟨-, -, hs⟩
  · rw [hs]
    exact h.newline
  · rw [hs]
    exact ((h.begun ';').flush (m := .code false) rfl).pass (outside rfl) (by decide)
  · rw [hs]
    exact h.pass (outside rfl) (by decide)
  · -- a comment leaves a blank
    have hblank := h.keep (m := .dropping 1 .comment) ' ' (outside rfl)
    rw [begun_of_blank rfl] at hblank
    rw [hs]
    exact hblank.swap (by decide) (by decide)
  · rw [hs]
    refine h.keep c fun hin => ?_
    simp [Started, Scan.keep, opened_inside hin]

theorem Placed.step (h : s.Placed before) (c : Char) (rest : List Char) :
    (s.step c rest).Placed (before ++ [c]) := by
  have hkeep : s.Started → ∀ m : Mode,
      ({ s.keep c with mode := m } : Scan).Placed (before ++ [c]) := by
    intro hs m
    have hkept := h.keep (m := m) c fun _ => by
      rw [hs.begun]
      exact hs.keep c
    rwa [hs.begun] at hkept
  unfold Scan.step
  split
  · rename_i lineStart hmode
    split
    · rename_i hbatch
      have hc : c ≠ '\n' := by
        rintro rfl
        simp [isBatchLine, trim, trimStart, trimEnd] at hbatch
      exact (h.flush (m := .restOfLine) rfl).pass (m := .restOfLine) (outside rfl) hc
    · exact h.code c rest
  · rename_i hmode
    split
    · rename_i hc
      rw [beq_iff_eq.mp hc]
      exact h.newline
    · rename_i hc
      exact h.pass h.inside (by simpa using hc)
  · rename_i hmode
    split
    · rename_i hend
      have hc : c ≠ '\n' := by
        rintro rfl
        simp at hend
      exact h.pass (m := .dropping 1 (.code false)) (outside rfl) hc
    · exact h.drop h.inside c
  · rename_i close hmode
    have hs : s.Started := h.inside (by rw [hmode]; rfl)
    dsimp only
    split
    · exact hkeep hs s.mode
    · split
      · exact hkeep hs _
      · exact hkeep hs _
  · rename_i tag hmode
    have hs : s.Started := h.inside (by rw [hmode]; rfl)
    split
    · exact hkeep hs _
    · exact hkeep hs s.mode
  · rename_i n next hmode
    refine h.drop (fun hin => h.inside ?_) c
    rw [hmode]
    split at hin
    · exact hin
    · exact hin
  · rename_i n next hmode
    exact hkeep (h.inside (by rw [hmode]; rfl)) _

/-- What is known of the lines behind a text holds behind all of a script. -/
theorem Placed.run (h : s.Placed before) (cs : List Char) : (s.run cs).Placed (before ++ cs) := by
  induction cs generalizing s before with
  | nil => rwa [List.append_nil]
  | cons c cs ih =>
    have hrest := ih (h.step c cs)
    rwa [List.append_assoc, List.singleton_append] at hrest

end Scan

/-- Every statement stands in the lines of its script. -/
theorem splitStatements_standIn {cs : List Char} {st : Statement}
    (h : st ∈ splitStatements cs) : st.StandsIn cs := by
  have hrun := Scan.placed_start.run cs
  exact (hrun.flush (m := .code true) rfl).done st (List.mem_reverse.mp h)

end SchemaChart.Script
