-- Where statements start. A step of the scan does one of six things with the character that it
-- reads, and only one of them lets a statement start: with a character that is kept, is not blank
-- and has nothing but blanks before it. So each statement can be traced to its place.
import Mathlib.Data.List.Forall2
import Mathlib.Data.List.TakeWhile
import SchemaChart.Proofs.StatementPlaces

namespace SchemaChart.Text

theorem isBlank_of_trimStart {c : Char} {cs ds : List Char} (h : trimStart cs = c :: ds) :
    isBlank c = false := by
  have hhead := List.head?_dropWhile_not isBlank cs
  rw [← trimStart, h] at hhead
  simpa using hhead

/-- What is cut off at the end leaves the first character. -/
theorem head?_trim (cs : List Char) : (trim cs).head? = (trimStart cs).head? := by
  cases hcs : trimStart cs with
  | nil => rw [trim, hcs, trimEnd, List.reverse_nil, List.dropWhile_nil, List.reverse_nil]
  | cons c ds =>
    have hc := isBlank_of_trimStart hcs
    have hstart : trimStart (c :: ds) = c :: ds :=
      List.dropWhile_cons_of_neg (by simp [hc])
    rw [trim, hcs, ← hstart, ← trim, Script.trim_cons hc, hstart, List.head?_cons, List.head?_cons]

theorem trimStart_ne_nil {cs : List Char} (h : cs.all isBlank = false) : trimStart cs ≠ [] := by
  intro hnil
  rw [trimStart, List.dropWhile_eq_nil_iff, ← List.all_eq_true, h] at hnil
  cases hnil

end SchemaChart.Text

namespace SchemaChart.Script

open Text

/-! ## What a step does -/

/-- What a scan does with the character that it reads. -/
inductive Act where
  | keep
  | drop
  /-- A line feed outside quotes and comments. -/
  | feed
  /-- A comment starts; it counts as one blank. -/
  | blank
  /-- A semicolon ends the statement. -/
  | finish
  /-- A line that ends the batch starts. -/
  | batch
deriving DecidableEq

/-- What a mode and the text say about the next character. -/
def Mode.act : Mode → Char → List Char → Act
  | .code lineStart, c, rest =>
    if lineStart && isBatchLine ((c :: rest).takeWhile (· != '\n')) then .batch
    else if c == '\n' then .feed
    else if c == ';' then .finish
    else if c == '-' && rest.head? == some '-' then .drop
    else if c == '/' && rest.head? == some '*' then .blank
    else .keep
  | .restOfLine, c, _ => if c == '\n' then .feed else .drop
  | .comment, _, _ | .dropping _ _, _, _ => .drop
  | .quoted _, _, _ | .body _, _, _ | .keeping _ _, _, _ => .keep

namespace Scan

variable {s : Scan} {before : List Char}

/-- Does to the statements what an act says. -/
def apply (s : Scan) (c : Char) : Act → Scan
  | .keep => (s.begun c).keep c
  | .drop => s.drop c
  | .feed => s.newline
  | .blank => { s with current := ' ' :: s.current }
  | .finish => (s.begun c).flush
  | .batch => s.flush

theorem code_eq (s : Scan) (c : Char) (rest : List Char) :
    s.code c rest =
      { s.apply c (Mode.act (.code false) c rest) with mode := (s.code c rest).mode } := by
  rcases code_cases s c rest with ⟨rfl, hs⟩ | ⟨rfl, hs⟩ | ⟨rfl, hnext, hs⟩ | ⟨rfl, hnext, hs⟩ |
    ⟨hline, hkept, hs⟩
  · rw [hs]
    rfl
  · rw [hs]
    rfl
  · have hact : Mode.act (.code false) '-' rest = .drop := by simp [Mode.act, hnext]
    rw [hs, hact, apply, drop_of_ne (by decide)]
  · have hact : Mode.act (.code false) '/' rest = .blank := by simp [Mode.act, hnext]
    rw [hs, hact, apply]
  · have hact : Mode.act (.code false) c rest = .keep := by
      simp only [leaves, Bool.or_eq_false_iff] at hkept
      simp [Mode.act, hline, hkept]
    rw [hs, hact, apply]

/-- A step is an act, chosen by the mode and the text alone, and a new mode. -/
theorem step_eq (h : s.mode.inside = true → s.Started) (c : Char) (rest : List Char) :
    s.step c rest =
      { s.apply c (s.mode.act c rest) with mode := s.mode.next c rest } := by
  have hkeep : s.Started → s.apply c .keep = s.keep c := by
    intro hs
    rw [apply, hs.begun]
  rw [← step_mode]
  unfold step
  rcases hm : s.mode with lineStart | _ | _ | close | tag | ⟨n, next⟩ | ⟨n, next⟩
  · dsimp only
    split
    · rename_i hbatch
      rw [Mode.act, if_pos hbatch]
      rfl
    · rename_i hbatch
      have hact : Mode.act (.code lineStart) c rest = Mode.act (.code false) c rest := by
        rw [Mode.act, if_neg hbatch]
        rfl
      rw [hact]
      exact code_eq s c rest
  · dsimp only
    split
    · rename_i hc
      rw [Mode.act, if_pos hc]
      rfl
    · rename_i hc
      rw [Mode.act, if_neg hc, apply, drop_of_ne (by simpa using hc)]
  · dsimp only
    split
    · rename_i hend
      have hc : c ≠ '\n' := by
        rintro rfl
        simp at hend
      rw [Mode.act, apply, drop_of_ne hc]
    · rfl
  all_goals rw [hm] at h
  · dsimp only
    rw [Mode.act, hkeep (h rfl)]
    split
    · rfl
    · split
      · rfl
      · rfl
  · dsimp only
    rw [Mode.act, hkeep (h rfl)]
    split
    · rfl
    · rfl
  · rfl
  · dsimp only
    rw [Mode.act, hkeep (h rfl)]

/-! ## A text with more behind it -/

/-- Moves the scan past a text that has more behind it. -/
def through (s : Scan) : List Char → List Char → Scan
  | [], _ => s
  | c :: cs, rest => (s.step c (cs ++ rest)).through cs rest

theorem run_append (s : Scan) (cs rest : List Char) :
    s.run (cs ++ rest) = (s.through cs rest).run rest := by
  induction cs generalizing s with
  | nil => rfl
  | cons c cs ih => exact ih (s.step c (cs ++ rest))

theorem through_concat (s : Scan) (cs : List Char) (c : Char) (rest : List Char) :
    s.through (cs ++ [c]) rest = (s.through cs (c :: rest)).step c rest := by
  induction cs generalizing s with
  | nil => rfl
  | cons d cs ih =>
    rw [List.cons_append, through, ih, through, List.append_assoc, List.singleton_append]

theorem Placed.through (h : s.Placed before) (cs rest : List Char) :
    (s.through cs rest).Placed (before ++ cs) := by
  induction cs generalizing s before with
  | nil => rwa [List.append_nil]
  | cons c cs ih =>
    have hrest := ih (h.step c (cs ++ rest))
    rwa [List.append_assoc, List.singleton_append] at hrest

end Scan

/-! ## Where a script could end -/

namespace Scan

variable {s : Scan} {c : Char}

theorem flush_of_blank (h : s.current.all isBlank = true) : s.flush.done = s.done := by
  have htrim : trim s.current.reverse = [] := by
    rw [trim, trimStart_of_blank (List.all_reverse.trans h)]
    rfl
  simp [flush, htrim]

theorem done_flush_flush (s : Scan) : s.flush.flush.done = s.flush.done := flush_of_blank rfl

/-- Where a statement starts does not matter before it has started. -/
theorem done_flush_begun (s : Scan) (c : Char) : (s.begun c).flush.done = s.flush.done := by
  unfold begun
  split
  · rename_i hbegun
    have hblank := (Bool.and_eq_true_iff.mp hbegun).1
    rw [flush_of_blank hblank, flush_of_blank (by exact hblank)]
  · rfl

/-- A blank starts no statement, and at the end of one it is cut off. -/
theorem done_flush_blank (hc : isBlank c = true) (n : Nat) :
    ({ s with current := c :: s.current, line := n } : Scan).flush.done = s.flush.done := by
  simp only [flush, List.reverse_cons, trim_concat_of_blank hc]

theorem done_flush_newline (s : Scan) : s.newline.flush.done = s.flush.done := by
  unfold newline
  split
  · rfl
  · exact done_flush_blank (c := '\n') rfl (s.line + 1)

end Scan

/-! ## First characters and lines -/

/-- How a statement opens: its first character and the line that it starts on. -/
def Statement.opening (st : Statement) : Option Char × Nat := (st.text.toList.head?, st.line)

namespace Scan

variable {s : Scan} {c : Char}

/-- How the statements open that a scan has if its text ends here. -/
def openings (s : Scan) : List (Option Char × Nat) := s.flush.done.reverse.map Statement.opening

theorem openings_congr {t : Scan} (h : t.flush.done = s.flush.done) : t.openings = s.openings := by
  rw [openings, h, openings]

theorem openings_of_blank (h : s.current.all isBlank = true) :
    s.openings = s.done.reverse.map Statement.opening := by
  rw [openings, flush_of_blank h]

theorem openings_of_started (h : s.current.all isBlank = false) :
    s.openings = s.done.reverse.map Statement.opening ++
      [((trimStart s.current.reverse).head?, s.start)] := by
  have hhead := head?_trim s.current.reverse
  have hne : trim s.current.reverse ≠ [] := by
    intro hnil
    rw [hnil] at hhead
    exact trimStart_ne_nil (List.all_reverse.trans h) (List.head?_eq_none_iff.mp hhead.symm)
  simp [openings, flush, hne, Statement.opening, hhead]

/-- A character that is kept starts a statement if it is the first that is not blank. -/
theorem openings_keep (s : Scan) (c : Char) :
    ((s.begun c).keep c).openings =
      s.openings ++ if s.current.all isBlank && !isBlank c then [(some c, s.line)] else [] := by
  cases hc : isBlank c with
  | true =>
    rw [begun_of_blank hc, Bool.not_true, Bool.and_false, if_neg Bool.false_ne_true,
      List.append_nil]
    exact openings_congr (done_flush_blank hc _)
  | false =>
    have hkept : ((s.begun c).keep c).current.all isBlank = false := by simp [Scan.keep, hc]
    have htext : trimStart ((s.begun c).keep c).current.reverse =
        trimStart (s.begun c).current.reverse ++ [c] := by
      rw [Scan.keep, List.reverse_cons, trimStart_concat_of_not_blank hc]
    rw [openings_of_started hkept, htext]
    cases hs : s.current.all isBlank with
    | true =>
      have hbegun : s.begun c = { s with start := s.line } := by simp [begun, hs, hc]
      rw [openings_of_blank hs, hbegun, trimStart_of_blank (List.all_reverse.trans hs)]
      rfl
    | false =>
      rw [Started.begun hs, openings_of_started hs,
        List.head?_append_of_ne_nil _ (trimStart_ne_nil (List.all_reverse.trans hs))]
      simp [Scan.keep]

/-- Does a statement start with the next character: it is kept and not blank, and the scan has
kept nothing but blanks since the last statement ended. -/
def starts (s : Scan) (c : Char) (rest : List Char) : Bool :=
  decide (s.mode.act c rest = .keep) && (s.current.all isBlank && !isBlank c)

/-- A step adds a statement where one starts, and changes neither the first character nor the line
of those before. -/
theorem openings_step (h : s.mode.inside = true → s.Started) (c : Char) (rest : List Char) :
    (s.step c rest).openings =
      s.openings ++ if s.starts c rest then [(some c, s.line)] else [] := by
  have hstep : (s.step c rest).openings = (s.apply c (s.mode.act c rest)).openings := by
    rw [step_eq h]
    rfl
  rw [hstep, starts]
  cases s.mode.act c rest with
  | keep => exact openings_keep s c
  | drop => exact (List.append_nil _).symm
  | feed => exact (openings_congr (done_flush_newline s)).trans (List.append_nil _).symm
  | blank => exact (openings_congr (done_flush_blank rfl _)).trans (List.append_nil _).symm
  | finish =>
    have hdone := (done_flush_flush (s.begun c)).trans (done_flush_begun s c)
    exact (openings_congr hdone).trans (List.append_nil _).symm
  | batch => exact (openings_congr (done_flush_flush s)).trans (List.append_nil _).symm

end Scan

/-! ## Places of a script -/

/-- The scan of a script when it comes to a place. -/
def scanAt (cs : List Char) (p : Nat) : Scan := ({} : Scan).through (cs.take p) (cs.drop p)

/-- Does a statement start at a place of a script. -/
def startsAt (cs : List Char) (p : Nat) : Bool :=
  match cs.drop p with
  | [] => false
  | c :: rest => (scanAt cs p).starts c rest

theorem placed_scanAt (cs : List Char) (p : Nat) : (scanAt cs p).Placed (cs.take p) :=
  Scan.placed_start.through (cs.take p) (cs.drop p)

theorem getElem?_of_drop {c : Char} {cs rest : List Char} {p : Nat} (h : cs.drop p = c :: rest) :
    cs[p]? = some c := by
  rw [← List.head?_drop, h, List.head?_cons]

theorem scanAt_succ {c : Char} {cs rest : List Char} {p : Nat} (h : cs.drop p = c :: rest) :
    scanAt cs (p + 1) = (scanAt cs p).step c rest := by
  have htake : cs.take (p + 1) = cs.take p ++ [c] := by
    rw [List.take_add_one, getElem?_of_drop h, Option.toList_some]
  have hdrop : cs.drop (p + 1) = rest := by
    rw [← List.tail_drop, h, List.tail_cons]
  rw [scanAt, htake, hdrop, Scan.through_concat, ← h, scanAt]

/-- Up to each place, the statements open at the places where one starts. -/
theorem openings_scanAt (cs : List Char) {p : Nat} (hp : p ≤ cs.length) :
    (scanAt cs p).openings =
      ((List.range p).filter (startsAt cs)).map fun q =>
        (cs[q]?, 1 + (cs.take q).count '\n') := by
  induction p with
  | zero => rfl
  | succ p ih =>
    obtain ⟨c, rest, hrest⟩ : ∃ c rest, cs.drop p = c :: rest :=
      List.exists_cons_of_ne_nil (by simpa using Nat.lt_of_succ_le hp)
    have hplaced := placed_scanAt cs p
    have hstarts : startsAt cs p = (scanAt cs p).starts c rest := by
      rw [startsAt, hrest]
    rw [scanAt_succ hrest, Scan.openings_step hplaced.inside, ih (Nat.le_of_succ_le hp),
      hplaced.line, List.range_succ, List.filter_append, List.map_append, List.filter_singleton,
      hstarts]
    cases (scanAt cs p).starts c rest with
    | true => rw [if_pos rfl, cond_true, List.map_singleton, getElem?_of_drop hrest, Nat.add_comm 1]
    | false => rfl

theorem lt_of_startsAt {cs : List Char} {p : Nat} (h : startsAt cs p = true) : p < cs.length := by
  by_contra hp
  rw [startsAt, List.drop_of_length_le (Nat.le_of_not_lt hp)] at h
  cases h

/-- The places of a script where statements start. -/
def places (cs : List Char) : List Nat := (List.range cs.length).filter (startsAt cs)

theorem mem_places {cs : List Char} {p : Nat} : p ∈ places cs ↔ startsAt cs p = true := by
  rw [places, List.mem_filter, List.mem_range]
  exact ⟨And.right, fun h => ⟨lt_of_startsAt h, h⟩⟩

theorem map_opening_splitStatements (cs : List Char) :
    (splitStatements cs).map Statement.opening =
      (places cs).map fun p => (cs[p]?, 1 + (cs.take p).count '\n') := by
  have hrun : scanAt cs cs.length = ({} : Scan).run cs := by
    have happend := Scan.run_append {} cs []
    rw [List.append_nil] at happend
    rw [scanAt, List.take_length, List.drop_length, happend]
    rfl
  have hopenings := openings_scanAt cs (Nat.le_refl cs.length)
  rw [hrun] at hopenings
  exact hopenings

/-- Does a statement start at a place of a text: with the character there, and on its line. -/
structure Statement.StartsAt (st : Statement) (cs : List Char) (p : Nat) : Prop where
  nonempty : st.text ≠ ""
  first : ∃ c, cs[p]? = some c ∧ st.text.toList.head? = some c
  line : st.line = 1 + (cs.take p).count '\n'

theorem Statement.startsAt_of_opening {cs : List Char} {st : Statement} {p : Nat}
    (hp : p < cs.length) (h : (cs[p]?, 1 + (cs.take p).count '\n') = st.opening) :
    st.StartsAt cs p := by
  obtain ⟨hfirst, hline⟩ := Prod.mk.inj h
  have hget : cs[p]? = some cs[p] := List.getElem?_eq_getElem hp
  refine ⟨?_, ⟨cs[p], hget, hfirst.symm.trans hget⟩, hline.symm⟩
  intro hempty
  rw [hget, hempty] at hfirst
  cases hfirst

/-- The statements of a script are those that start at its places, in their order: the text of each
is not empty and begins with the character there, and its line is counted by the line feeds before
that place, whatever quotes, comments, bodies and batch lines come before it. -/
theorem statements_stand_where_they_start (cs : List Char) :
    ∃ ps : List Nat, ps.Pairwise (· < ·) ∧ (∀ p, p ∈ ps ↔ startsAt cs p = true) ∧
      List.Forall₂ (fun p st => st.StartsAt cs p) ps (splitStatements cs) := by
  have hopenings : List.Forall₂ (fun p st => (cs[p]?, 1 + (cs.take p).count '\n') =
      Statement.opening st) (places cs) (splitStatements cs) := by
    rw [← List.forall₂_map_left_iff (R := fun o st => o = Statement.opening st),
      ← List.forall₂_map_right_iff, List.forall₂_eq_eq_eq, map_opening_splitStatements]
  have hinside : ∀ p ∈ places cs, p < cs.length := fun p hp => lt_of_startsAt (mem_places.mp hp)
  refine ⟨places cs, List.pairwise_lt_range.filter _, fun p => mem_places, ?_⟩
  exact ((List.forall₂_and_left _ _).mpr ⟨hinside, hopenings⟩).imp fun p st h =>
    Statement.startsAt_of_opening h.1 h.2

-- The comment and the quote hold what would start or end a statement elsewhere.
example : places "/* a;\n*/ b 'c;\nd';\nGO\n e".toList = [9, 23] := by decide +kernel

end SchemaChart.Script
