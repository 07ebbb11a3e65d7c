-- Where a statement of a script loses text. A text that is read without such a place is kept as it
-- stands; otherwise fewer characters are left than were read.
import Mathlib.Algebra.GroupWithZero.Nat
import SchemaChart.Proofs.StatementLines

namespace SchemaChart.Script

open Text

/-! ## Where a statement loses text -/

/-- Does a statement lose text here: outside quotes it ends, a comment starts, or a line ends its
batch. -/
def Mode.breaks : Mode → Char → List Char → Bool
  | .code lineStart, c, rest =>
    leaves c rest || (lineStart && isBatchLine ((c :: rest).takeWhile (· != '\n')))
  | _, _, _ => false

/-- The mode of a scan behind a character. -/
def Mode.next (m : Mode) (c : Char) (rest : List Char) : Mode :=
  (({ mode := m } : Scan).step c rest).mode

/-- Does a statement keep all of a text that is read from a mode. -/
def Mode.unbroken : Mode → List Char → Bool
  | _, [] => true
  | m, c :: cs => !m.breaks c cs && (m.next c cs).unbroken cs

/-- The modes in which characters are kept. -/
def Mode.keeps : Mode → Bool
  | .code _ | .quoted _ | .body _ => true
  | .keeping _ next => next.keeps
  | .restOfLine | .comment | .dropping _ _ => false

theorem keeps_keepRest (n : Nat) (m : Mode) : (m.keepRest n).keeps = m.keeps := by
  unfold Mode.keepRest
  split
  · rfl
  · rfl

theorem keeps_opened (c : Char) (rest : List Char) : (opened c rest).keeps = true := by
  unfold opened
  split
  · rfl
  · split
    · rw [keeps_keepRest]
      rfl
    · rfl

namespace Scan

variable {s : Scan} {c : Char} {cs rest : List Char}

/-- What a character outside quotes does to a scan. -/
theorem code_cases (s : Scan) (c : Char) (rest : List Char) :
    (c = '\n' ∧ s.code c rest = s.newline) ∨
    (c = ';' ∧ s.code c rest = { (s.begun ';').flush with mode := .code false }) ∨
    (c = '-' ∧ rest.head? = some '-' ∧ s.code c rest = { s with mode := .restOfLine }) ∨
    (c = '/' ∧ rest.head? = some '*' ∧
      s.code c rest = { s with current := ' ' :: s.current, mode := .dropping 1 .comment }) ∨
    (c ≠ '\n' ∧ leaves c rest = false ∧
      s.code c rest = { (s.begun c).keep c with mode := opened c rest }) := by
  by_cases hline : c = '\n'
  · subst hline
    exact .inl ⟨rfl, rfl⟩
  by_cases hsemi : c = ';'
  · subst hsemi
    exact .inr (.inl ⟨rfl, rfl⟩)
  by_cases hdash : c = '-' ∧ rest.head? = some '-'
  · exact .inr (.inr (.inl ⟨hdash.1, hdash.2, by simp [code, hdash]⟩))
  by_cases hslash : c = '/' ∧ rest.head? = some '*'
  · exact .inr (.inr (.inr (.inl ⟨hslash.1, hslash.2, by simp [code, hslash]⟩)))
  have hkept : leaves c rest = false := by
    simp only [not_and] at hdash hslash
    simpa [leaves, hsemi] using ⟨hdash, hslash⟩
  exact .inr (.inr (.inr (.inr ⟨hline, hkept, code_kept hline hkept⟩)))

/-- Outside quotes the next mode depends on the text alone. -/
theorem code_mode (s t : Scan) (c : Char) (rest : List Char) :
    (s.code c rest).mode = (t.code c rest).mode := by
  rcases code_cases s c rest with ⟨rfl, -⟩ | ⟨rfl, -⟩ | ⟨rfl, hnext, hs⟩ | ⟨rfl, hnext, hs⟩ |
    ⟨hline, hkept, hs⟩
  · rfl
  · rfl
  · rw [hs]
    simp [code, hnext]
  · rw [hs]
    simp [code, hnext]
  · rw [hs, code_kept hline hkept]

theorem step_mode (s : Scan) (c : Char) (rest : List Char) :
    (s.step c rest).mode = s.mode.next c rest := by
  unfold Mode.next step
  rcases hm : s.mode with lineStart | _ | _ | close | tag | ⟨n, next⟩ | ⟨n, next⟩
  · dsimp only
    split
    · rfl
    · exact code_mode s _ c rest
  · dsimp only
    split
    · rfl
    · exact hm
  · dsimp only
    split
    · rfl
    · exact hm
  · dsimp only
    split
    · exact hm
    · split
      · rfl
      · rfl
  · dsimp only
    split
    · rfl
    · exact hm
  · rfl
  · rfl

/-- In a mode that keeps, a character that breaks nothing is kept, and the next mode keeps too. -/
theorem step_kept (hs : s.Started) (hk : s.mode.keeps = true)
    (hb : s.mode.breaks c rest = false) :
    s.step c rest = { s.keep c with mode := s.mode.next c rest } ∧
      (s.mode.next c rest).keeps = true := by
  have hmode := step_mode s c rest
  suffices h : ∃ m : Mode, m.keeps = true ∧ s.step c rest = { s.keep c with mode := m } by
    obtain ⟨m, hm, hstep⟩ := h
    have hnext : m = s.mode.next c rest := by
      rw [← hmode, hstep]
    exact ⟨hnext ▸ hstep, hnext ▸ hm⟩
  rcases hm : s.mode with lineStart | _ | _ | close | tag | ⟨n, next⟩ | ⟨n, next⟩
  · rw [hm] at hb
    obtain ⟨hleaves, hbatch⟩ := Bool.or_eq_false_iff.mp hb
    have hcode : s.step c rest = s.code c rest := by
      simp only [step, hm]
      rw [hbatch]
      rfl
    rw [hcode]
    by_cases hline : c = '\n'
    · subst hline
      have hne : s.current.isEmpty = false := by
        unfold Started at hs
        cases hcurrent : s.current with
        | nil => simp [hcurrent] at hs
        | cons x xs => rfl
      refine ⟨.code true, rfl, ?_⟩
      simp [code, newline, hne]
    · exact ⟨_, keeps_opened c rest, by rw [code_kept hline hleaves, hs.begun]⟩
  · rw [hm] at hk
    cases hk
  · rw [hm] at hk
    cases hk
  · simp only [step, hm]
    split
    · exact ⟨.quoted close, rfl, by rw [← hm]; rfl⟩
    · split
      · exact ⟨_, rfl, rfl⟩
      · exact ⟨_, rfl, rfl⟩
  · simp only [step, hm]
    split
    · exact ⟨_, by rw [keeps_keepRest]; rfl, rfl⟩
    · exact ⟨.body tag, rfl, by rw [← hm]; rfl⟩
  · rw [hm] at hk
    cases hk
  · rw [hm] at hk
    exact ⟨next.keepRest n, by rw [keeps_keepRest]; exact hk, by simp only [step, hm]⟩

/-- An unbroken text is kept as it stands. -/
theorem run_unbroken (hs : s.Started) (hk : s.mode.keeps = true)
    (h : s.mode.unbroken cs = true) : ∃ m, s.run cs = { s.keepAll cs with mode := m } := by
  induction cs generalizing s with
  | nil => exact ⟨s.mode, rfl⟩
  | cons c cs ih =>
    obtain ⟨hb, hrest⟩ := Bool.and_eq_true_iff.mp h
    obtain ⟨hstep, hnext⟩ := step_kept hs hk (by simpa using hb)
    obtain ⟨m, hm⟩ := ih (s := { s.keep c with mode := s.mode.next c cs }) (hs.keepAll [c]) hnext
      hrest
    exact ⟨m, by rw [run, hstep, hm, keepAll_cons]; rfl⟩

/-! ## What is kept, counted -/

/-- The characters of the statements so far. -/
def weight (s : Scan) : Nat := s.current.length + (s.done.map (·.text.length)).sum

theorem weight_flush (s : Scan) : s.flush.weight ≤ s.weight := by
  have htrim := length_trim_le s.current.reverse
  rw [List.length_reverse] at htrim
  unfold flush weight
  dsimp only
  split
  · simp
  · simp
    omega

theorem weight_keep (s : Scan) (c : Char) : (s.keep c).weight = s.weight + 1 := by
  simp [keep, weight]
  omega

theorem weight_begun (s : Scan) (c : Char) : (s.begun c).weight = s.weight := by
  unfold begun
  split
  · rfl
  · rfl

theorem weight_newline (s : Scan) : s.newline.weight ≤ s.weight + 1 := by
  unfold newline
  split
  · exact Nat.le_succ _
  · exact Nat.le_of_eq (weight_keep s '\n')

/-- A character outside quotes adds at most itself, and none if it ends the statement or starts a
comment to the end of the line. -/
theorem weight_code (s : Scan) (c : Char) (rest : List Char) :
    (s.code c rest).weight ≤ s.weight + 1 ∧
      (c = ';' ∨ (c = '-' ∧ rest.head? = some '-') → (s.code c rest).weight ≤ s.weight) := by
  rcases code_cases s c rest with ⟨rfl, hs⟩ | ⟨rfl, hs⟩ | ⟨rfl, hnext, hs⟩ | ⟨rfl, hnext, hs⟩ |
    ⟨hline, hkept, hs⟩
  · rw [hs]
    exact ⟨weight_newline s, fun hends => absurd hends (by simp)⟩
  · have hflush := weight_flush (s.begun ';')
    rw [weight_begun] at hflush
    rw [hs]
    exact ⟨Nat.le_succ_of_le hflush, fun _ => hflush⟩
  · rw [hs]
    exact ⟨Nat.le_succ _, fun _ => Nat.le_refl _⟩
  · rw [hs]
    refine ⟨?_, fun hends => absurd hends (by simp)⟩
    simp [weight]
    omega
  · have hkeep := weight_keep (s.begun c) c
    rw [weight_begun] at hkeep
    rw [hs]
    refine ⟨Nat.le_of_eq hkeep, fun hends => ?_⟩
    simp only [leaves, Bool.or_eq_false_iff, Bool.and_eq_false_iff, beq_eq_false_iff_ne] at hkept
    rcases hends with rfl | ⟨rfl, hnext⟩
    · exact absurd rfl hkept.1.1
    · simp [hnext] at hkept

/-- A step adds at most the character that it reads. -/
theorem weight_step (s : Scan) (c : Char) (rest : List Char) :
    (s.step c rest).weight ≤ s.weight + 1 := by
  have hkeep := Nat.le_of_eq (weight_keep s c)
  unfold step
  split
  · split
    · exact Nat.le_succ_of_le (weight_flush s)
    · exact (weight_code s c rest).1
  · split
    · exact weight_newline s
    · exact Nat.le_succ _
  · split
    · exact Nat.le_succ _
    · exact Nat.le_succ _
  · dsimp only
    split
    · exact hkeep
    · split
      · exact hkeep
      · exact hkeep
  · split
    · exact hkeep
    · exact hkeep
  · exact Nat.le_succ _
  · exact hkeep

theorem weight_run (s : Scan) (cs : List Char) : (s.run cs).weight ≤ s.weight + cs.length := by
  induction cs generalizing s with
  | nil => exact Nat.le_refl _
  | cons c cs ih =>
    have hstep := weight_step s c cs
    have hrun := ih (s.step c cs)
    rw [run, List.length_cons]
    omega

/-- Where a statement is broken, characters are lost. -/
theorem weight_breaks (h : s.mode.breaks c cs = true) :
    (s.run (c :: cs)).weight < s.weight + (c :: cs).length := by
  have hrun := weight_run (s.step c cs) cs
  suffices hlost : (s.step c cs).weight ≤ s.weight ∨
      ∃ ds, cs = '*' :: ds ∧ ((s.step c cs).step '*' ds).weight ≤ s.weight + 1 by
    rw [run, List.length_cons]
    rcases hlost with hlost | ⟨ds, rfl, hlost⟩
    · omega
    · have hrest := weight_run ((s.step c ('*' :: ds)).step '*' ds) ds
      rw [run, List.length_cons]
      omega
  rcases hm : s.mode with lineStart | _ | _ | close | tag | ⟨n, next⟩ | ⟨n, next⟩
  · rw [hm] at h
    simp only [step, hm]
    rcases hbatch : lineStart && isBatchLine ((c :: cs).takeWhile (· != '\n')) with _ | _
    · have hleaves : leaves c cs = true := by simpa [Mode.breaks, hbatch] using h
      simp only [leaves, Bool.or_eq_true, beq_iff_eq, Bool.and_eq_true] at hleaves
      rcases hleaves with hends | ⟨rfl, hstar⟩
      · exact .inl ((weight_code s c cs).2 hends)
      · obtain ⟨ds, rfl⟩ := List.head?_eq_some_iff.mp hstar
        exact .inr ⟨ds, rfl, by simp [code, drop, weight]; omega⟩
    · exact .inl (weight_flush s)
  all_goals
    rw [hm] at h
    cases h

theorem run_broken (h : s.mode.unbroken cs = false) :
    (s.run cs).weight < s.weight + cs.length := by
  induction cs generalizing s with
  | nil => cases h
  | cons c cs ih =>
    rcases hb : s.mode.breaks c cs with _ | _
    · have hrest : (s.step c cs).mode.unbroken cs = false := by
        rw [step_mode]
        simpa [Mode.unbroken, hb] using h
      have hstep := weight_step s c cs
      have hrun := ih hrest
      rw [run, List.length_cons]
      omega
    · exact weight_breaks hb

end Scan

end SchemaChart.Script
