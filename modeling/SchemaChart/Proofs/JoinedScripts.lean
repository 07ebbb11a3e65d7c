-- Scripts one behind the other. No look ahead of the scan goes past a line feed, so a text is read
-- in the same way before one as at the end of a script; and a semicolon in a line of its own leaves
-- nothing of the scan but its line. What comes then is read as a script of its own.
import SchemaChart.Proofs.StatementStarts

namespace SchemaChart.Script

open Text

/-! ## Looking ahead to a line feed -/

section LookAhead

variable {x : Char} {tag : List Char}

theorem head?_feed (hx : x ≠ '\n') (cs rest : List Char) :
    ((cs ++ '\n' :: rest).head? == some x) = (cs.head? == some x) := by
  cases cs with
  | nil => simpa using hx.symm
  | cons c cs => rfl

theorem takeWhile_feed (cs rest : List Char) :
    (cs ++ '\n' :: rest).takeWhile (· != '\n') = cs.takeWhile (· != '\n') := by
  induction cs with
  | nil => rfl
  | cons c cs ih => rw [List.cons_append, List.takeWhile_cons, ih, List.takeWhile_cons]

theorem prefix_feed (htag : '\n' ∉ tag) (cs rest : List Char) :
    tag <+: cs ++ '\n' :: rest ↔ tag <+: cs := by
  refine ⟨fun h => ?_, fun h => h.trans (List.prefix_append cs _)⟩
  have hline : cs ++ ['\n'] <+: cs ++ '\n' :: rest := ⟨rest, by simp⟩
  rcases List.prefix_or_prefix_of_prefix h hline with hshort | hlong
  · rcases List.prefix_concat_iff.mp hshort with rfl | hcs
    · exact absurd (by simp) htag
    · exact hcs
  · exact absurd (hlong.subset (by simp)) htag

theorem IsTag.feed_not_mem (h : IsTag tag) : '\n' ∉ tag := by
  cases h with
  | plain => decide
  | @named c name hc hname =>
    have hfirst : '\n' ≠ c := by
      rintro rfl
      cases hc
    have hrest : '\n' ∉ name := fun hmem => absurd (hname _ hmem) (by decide)
    simp [hfirst, hrest]

theorem dollarTag?_feed (n : Nat) (cs rest : List Char) :
    dollarTag? ((cs ++ '\n' :: rest).take n) = dollarTag? (cs.take n) := by
  apply Option.ext
  intro tag
  rw [dollarTag?_eq_some_iff, dollarTag?_eq_some_iff, List.prefix_take_iff, List.prefix_take_iff]
  exact and_congr_right fun htag => by rw [prefix_feed htag.feed_not_mem]

end LookAhead

/-! ## Modes and what they wait for -/

/-- The modes between two tokens; what they wait for has no line feed. -/
def Mode.Settled : Mode → Prop
  | .quoted close => close ≠ '\n'
  | .body tag => '\n' ∉ tag
  | .code _ | .restOfLine | .comment => True
  | .dropping _ _ | .keeping _ _ => False

/-- Is all of a token that a mode is in the midst of still in the text before it. -/
inductive Mode.Fits (cs : List Char) : Mode → Prop
  | settled {m : Mode} : m.Settled → Fits cs m
  | dropping {n : Nat} {m : Mode} : 1 ≤ n → n ≤ cs.length → m.Settled → Fits cs (.dropping n m)
  | keeping {n : Nat} {m : Mode} : 1 ≤ n → n ≤ cs.length → m.Settled → Fits cs (.keeping n m)

theorem Mode.Settled.keepRest {m : Mode} {n : Nat} {c : Char} {cs : List Char} (h : m.Settled)
    (hn : n ≤ (c :: cs).length) : (m.keepRest n).Fits cs := by
  unfold Mode.keepRest
  split
  · exact .settled h
  · rw [List.length_cons] at hn
    exact .keeping (by omega) (by omega) h

theorem length_of_head? {cs : List Char} {x : Char} (h : cs.head? = some x) : 1 ≤ cs.length := by
  cases cs with
  | nil => cases h
  | cons c cs => exact Nat.le_add_left 1 cs.length

theorem fits_opened (c : Char) (cs : List Char) : (opened c cs).Fits cs := by
  unfold opened
  split
  · rename_i close hquote
    refine .settled ?_
    rintro rfl
    unfold anyQuote plainQuote at hquote
    split at hquote
    · cases hquote
    · split at hquote
      · obtain rfl := Option.some.inj hquote
        contradiction
      · cases hquote
  · split
    · rename_i tag htag
      obtain ⟨htag, htext⟩ := isTag_of_dollarTag? htag
      have hlength := (htext.trans (List.take_prefix _ _)).length_le
      exact Mode.Settled.keepRest (m := .body tag) htag.feed_not_mem hlength
    · exact .settled trivial

namespace Scan

variable {s : Scan} {c : Char} {cs : List Char}

/-- A token that is begun is looked at to its end before. -/
theorem fits_code (s : Scan) (c : Char) (cs : List Char) : (s.code c cs).mode.Fits cs := by
  rcases code_cases s c cs with ⟨-, hs⟩ | ⟨-, hs⟩ | ⟨-, -, hs⟩ | ⟨-, hnext, hs⟩ | ⟨-, -, hs⟩
  · rw [hs]
    exact .settled trivial
  · rw [hs]
    exact .settled trivial
  · rw [hs]
    exact .settled trivial
  · rw [hs]
    exact .dropping (Nat.le_refl 1) (length_of_head? hnext) trivial
  · rw [hs]
    exact fits_opened c cs

theorem fits_step (h : s.mode.Fits (c :: cs)) : (s.step c cs).mode.Fits cs := by
  unfold step
  rcases hm : s.mode with lineStart | _ | _ | close | tag | ⟨n, next⟩ | ⟨n, next⟩
  · dsimp only
    split
    · exact .settled trivial
    · exact fits_code s c cs
  · dsimp only
    split
    · exact .settled trivial
    · rw [hm]
      exact .settled trivial
  · dsimp only
    split
    · rename_i hend
      have hnext : cs.head? = some '/' := by simpa using (Bool.and_eq_true_iff.mp hend).2
      exact .dropping (Nat.le_refl 1) (length_of_head? hnext) trivial
    · change s.mode.Fits cs
      rw [hm]
      exact .settled trivial
  all_goals rw [hm] at h
  · cases h with
    | settled hclose =>
      dsimp only
      split
      · change s.mode.Fits cs
        rw [hm]
        exact .settled hclose
      · split
        · rename_i hdouble
          have hnext : cs.head? = some close := by
            simpa using (Bool.and_eq_true_iff.mp hdouble).2
          exact .keeping (Nat.le_refl 1) (length_of_head? hnext) hclose
        · exact .settled trivial
  · cases h with
    | settled htag =>
      dsimp only
      split
      · rename_i hend
        have hlength := (List.isPrefixOf_iff_prefix.mp hend).length_le
        exact Mode.Settled.keepRest (m := .code false) trivial hlength
      · change s.mode.Fits cs
        rw [hm]
        exact .settled htag
  · cases h with
    | settled hnone => cases hnone
    | dropping _ hn hnext =>
      rw [List.length_cons] at hn
      dsimp only
      split
      · exact .settled hnext
      · exact .dropping (by omega) (by omega) hnext
  · cases h with
    | settled hnone => cases hnone
    | keeping _ hn hnext => exact hnext.keepRest hn

/-- A step does not look behind a line feed. -/
theorem step_feed (h : s.mode.Fits (c :: cs)) (rest : List Char) :
    s.step c (cs ++ '\n' :: rest) = s.step c cs := by
  have hcode : s.code c (cs ++ '\n' :: rest) = s.code c cs := by
    have htag := dollarTag?_feed 64 (c :: cs) rest
    rw [List.cons_append] at htag
    unfold code
    rw [head?_feed (by decide), head?_feed (by decide), htag]
  have hline := takeWhile_feed (c :: cs) rest
  rw [List.cons_append] at hline
  unfold step
  rcases hm : s.mode with lineStart | _ | _ | close | tag | ⟨n, next⟩ | ⟨n, next⟩
  · dsimp only
    rw [hline, hcode]
  · rfl
  · dsimp only
    rw [head?_feed (by decide)]
  · rw [hm] at h
    cases h with
    | settled hclose =>
      dsimp only
      rw [head?_feed hclose]
  · rw [hm] at h
    cases h with
    | settled htag =>
      have hend : tag.isPrefixOf (c :: (cs ++ '\n' :: rest)) = tag.isPrefixOf (c :: cs) := by
        rw [Bool.eq_iff_iff, List.isPrefixOf_iff_prefix, List.isPrefixOf_iff_prefix,
          ← List.cons_append]
        exact prefix_feed htag (c :: cs) rest
      dsimp only
      rw [hend]
  · rfl
  · rfl

/-- Before a line feed a text is read as at the end of a script, and the tokens in it are whole. -/
theorem through_feed (h : s.mode.Fits cs) (rest : List Char) :
    s.through cs ('\n' :: rest) = s.run cs ∧ (s.run cs).mode.Settled := by
  induction cs generalizing s with
  | nil =>
    refine ⟨rfl, ?_⟩
    change s.mode.Settled
    generalize s.mode = m at h
    cases h with
    | settled h => exact h
    | dropping hpos hn _ => exact absurd (Nat.le_trans hpos hn) (by decide)
    | keeping hpos hn _ => exact absurd (Nat.le_trans hpos hn) (by decide)
  | cons c cs ih =>
    rw [through, step_feed h, run]
    exact ih (fits_step h)

end Scan

/-! ## Two scans of one text -/

/-- The same statement, `n` lines further down. -/
def Statement.later (st : Statement) (n : Nat) : Statement := { st with line := st.line + n }

namespace Scan

/-- Does a scan go on as another one does, `n` lines further down and behind other statements. The
lines that statements start on need not go together before the statement has started. -/
structure Trails (n : Nat) (earlier : List Statement) (s t : Scan) : Prop where
  mode : t.mode = s.mode
  line : t.line = s.line + n
  current : t.current = s.current
  start : s.Started → t.start = s.start + n
  done : t.done = s.done.map (·.later n) ++ earlier

variable {n : Nat} {earlier : List Statement} {s t : Scan} {before : List Char} {c : Char}

theorem Trails.started (h : Trails n earlier s t) : t.Started ↔ s.Started := by
  rw [Started, Started, h.current]

theorem Trails.with_mode (h : Trails n earlier s t) (m : Mode) :
    Trails n earlier { s with mode := m } { t with mode := m } :=
  ⟨rfl, h.line, h.current, h.start, h.done⟩

theorem Trails.drop (h : Trails n earlier s t) (c : Char) :
    Trails n earlier (s.drop c) (t.drop c) := by
  refine ⟨h.mode, ?_, h.current, h.start, h.done⟩
  unfold Scan.drop
  dsimp only
  rw [h.line]
  split
  · omega
  · rfl

/-- A statement that has started before goes on, or both scans start one on their line. -/
theorem Trails.begun_start (h : Trails n earlier s t)
    (hs : s.Started ∨ isBlank c = false) : (t.begun c).start = (s.begun c).start + n := by
  by_cases hstarted : s.Started
  · rw [hstarted.begun, (h.started.mpr hstarted).begun]
    exact h.start hstarted
  · have hc := hs.resolve_left hstarted
    have hall : s.current.all isBlank = true := by simpa [Started] using hstarted
    have hbegun : s.begun c = { s with start := s.line } := by simp [begun, hall, hc]
    have hbegun' : t.begun c = { t with start := t.line } := by simp [begun, h.current, hall, hc]
    rw [hbegun, hbegun']
    exact h.line

theorem begun_fields (s : Scan) (c : Char) :
    (s.begun c).mode = s.mode ∧ (s.begun c).line = s.line ∧ (s.begun c).current = s.current ∧
      (s.begun c).done = s.done := by
  unfold begun
  split
  · exact ⟨rfl, rfl, rfl, rfl⟩
  · exact ⟨rfl, rfl, rfl, rfl⟩

theorem Trails.begun (h : Trails n earlier s t) (c : Char) :
    Trails n earlier (s.begun c) (t.begun c) := by
  obtain ⟨hmode, hline, hcurrent, hdone⟩ := begun_fields s c
  obtain ⟨hmode', hline', hcurrent', hdone'⟩ := begun_fields t c
  refine ⟨?_, ?_, ?_, fun hs => h.begun_start (.inl ?_), ?_⟩
  · rw [hmode', hmode, h.mode]
  · rw [hline', hline, h.line]
  · rw [hcurrent', hcurrent, h.current]
  · rwa [Started, hcurrent] at hs
  · rw [hdone', hdone, h.done]

theorem Trails.keep (h : Trails n earlier s t) (c : Char) :
    Trails n earlier ((s.begun c).keep c) ((t.begun c).keep c) := by
  have hb := h.begun c
  refine ⟨hb.mode, (hb.drop c).line, ?_, fun hs => h.begun_start ?_, hb.done⟩
  · rw [Scan.keep, hb.current, Scan.keep]
  · rw [Started, Scan.keep, List.all_cons, (begun_fields s c).2.2.1, Bool.and_eq_false_iff] at hs
    exact hs.symm

theorem Trails.blank (h : Trails n earlier s t) (hc : isBlank c = true) :
    Trails n earlier { s with current := c :: s.current } { t with current := c :: t.current } := by
  refine ⟨h.mode, h.line, by rw [h.current], fun hs => h.start ?_, h.done⟩
  rwa [Started, List.all_cons, hc, Bool.true_and] at hs

theorem Trails.newline (h : Trails n earlier s t) :
    Trails n earlier s.newline t.newline := by
  unfold Scan.newline
  rw [h.current]
  split
  · exact (h.drop '\n').with_mode _
  · have hkeep := h.keep '\n'
    rw [begun_of_blank rfl, begun_of_blank rfl] at hkeep
    exact hkeep.with_mode _

theorem not_started_nil (h : s.current = []) : ¬ s.Started := by
  rw [Started, h]
  exact Bool.false_ne_true.symm

theorem Trails.flush (h : Trails n earlier s t) : Trails n earlier s.flush t.flush := by
  refine ⟨h.mode, h.line, rfl, fun hs => absurd hs (not_started_nil rfl), ?_⟩
  by_cases hs : s.Started
  · unfold Scan.flush
    dsimp only
    rw [h.current, h.start hs, h.done]
    split
    · rfl
    · rfl
  · have hblank : s.current.all isBlank = true := by simpa [Started] using hs
    rw [flush_of_blank hblank, flush_of_blank (h.current ▸ hblank), h.done]

theorem Trails.apply (h : Trails n earlier s t) (c : Char) (act : Act) :
    Trails n earlier (s.apply c act) (t.apply c act) := by
  cases act with
  | keep => exact h.keep c
  | drop => exact h.drop c
  | feed => exact h.newline
  | blank => exact h.blank rfl
  | finish => exact (h.begun c).flush
  | batch => exact h.flush

theorem Trails.step (h : Trails n earlier s t) (hs : s.mode.inside = true → s.Started) (c : Char)
    (rest : List Char) : Trails n earlier (s.step c rest) (t.step c rest) := by
  have ht : t.mode.inside = true → t.Started := by
    rw [h.mode, h.started]
    exact hs
  rw [step_eq hs, step_eq ht, h.mode]
  exact (h.apply c _).with_mode _

theorem Trails.run (h : Trails n earlier s t) (hs : s.Placed before) (cs : List Char) :
    Trails n earlier (s.run cs) (t.run cs) := by
  induction cs generalizing s t before with
  | nil => exact h
  | cons c cs ih => exact ih (h.step hs.inside c cs) (hs.step c cs)

/-- Behind the start of a script a scan reads what a scan of its own reads there. -/
theorem Trails.statements (h : Trails n earlier {} t) (cs : List Char) :
    (t.run cs).flush.done.reverse =
      earlier.reverse ++ (splitStatements cs).map (·.later n) := by
  rw [((h.run placed_start cs).flush).done, List.reverse_append, ← List.map_reverse]
  rfl

end Scan

/-! ## Scripts one behind the other -/

/-- Is a mode inside of a quote, a bracket, a comment over lines or a body. -/
def Mode.isOpen : Mode → Bool
  | .quoted _ | .body _ | .comment => true
  | .dropping _ next | .keeping _ next => next.isOpen
  | .code _ | .restOfLine => false

/-- Does the scan of a script end inside of something that is still open. -/
def endsOpen (cs : List Char) : Bool := (({} : Scan).run cs).mode.isOpen

namespace Scan

variable {s : Scan}

/-- A line feed outside of quotes and comments starts a line. -/
theorem step_outside (hs : s.mode.Settled) (hopen : s.mode.isOpen = false) (rest : List Char) :
    s.step '\n' rest = s.newline := by
  unfold step
  rcases hm : s.mode with lineStart | _ | _ | close | tag | ⟨n, next⟩ | ⟨n, next⟩
  · have hline : isBatchLine (('\n' :: rest).takeWhile (· != '\n')) = false := rfl
    dsimp only
    rw [hline, Bool.and_false]
    rfl
  · rfl
  all_goals rw [hm] at hs hopen
  · cases hopen
  · cases hopen
  · cases hopen
  · cases hs
  · cases hs

/-- A semicolon in a line of its own ends what came before, and nothing else is left of it. -/
theorem step_boundary (s : Scan) (rest : List Char) :
    ((s.newline.step ';' ('\n' :: rest)).step '\n' rest) =
      { ((s.newline.begun ';').flush.drop '\n') with mode := .code true } := rfl

theorem trails_boundary {before : List Char} (h : s.Placed before) (rest : List Char) :
    Trails (2 + before.count '\n') s.flush.done {}
      ((s.newline.step ';' ('\n' :: rest)).step '\n' rest) := by
  have hplaced := (h.newline.step ';' ('\n' :: rest)).step '\n' rest
  have hline := hplaced.line
  rw [step_boundary] at hline ⊢
  refine ⟨rfl, ?_, rfl, fun hs => absurd hs (not_started_nil rfl), ?_⟩
  · rw [hline, List.append_assoc, List.append_assoc, List.count_append]
    simp
    omega
  · change (s.newline.begun ';').flush.done = _
    rw [done_flush_begun, done_flush_newline]
    rfl

end Scan

/-- Of two scripts with a semicolon in a line of its own between them, the first is read as it is
alone, if it leaves nothing open; and so is the second one, on its own lines further down. -/
theorem scripts_are_read_one_by_one (as bs : List Char) (h : endsOpen as = false) :
    splitStatements (as ++ ['\n', ';', '\n'] ++ bs) =
      splitStatements as ++ (splitStatements bs).map (·.later (2 + as.count '\n')) := by
  have hfits : ({} : Scan).mode.Fits as := .settled trivial
  obtain ⟨hthrough, hsettled⟩ := Scan.through_feed hfits (';' :: '\n' :: bs)
  have htext : as ++ ['\n', ';', '\n'] ++ bs = as ++ '\n' :: ';' :: '\n' :: bs := by simp
  have hplaced := Scan.placed_start.run as
  rw [splitStatements, htext, Scan.run_append, hthrough, Scan.run, Scan.run, Scan.run,
    Scan.step_outside hsettled h, (Scan.trails_boundary hplaced bs).statements bs]
  rfl

-- A quote with a doubled mark, a comment up to the end, and a batch line behind the boundary.
theorem a_remark_and_a_batch_line_stay_apart :
    endsOpen "a 'it''s;\n' -- b".toList = false ∧
      splitStatements ("a 'it''s;\n' -- b".toList ++ ['\n', ';', '\n'] ++ "GO\n c".toList) =
        splitStatements "a 'it''s;\n' -- b".toList ++
          (splitStatements "GO\n c".toList).map (·.later 3) := by
  have hclosed : endsOpen "a 'it''s;\n' -- b".toList = false := by decide +kernel
  exact ⟨hclosed, scripts_are_read_one_by_one _ _ hclosed⟩

end SchemaChart.Script
