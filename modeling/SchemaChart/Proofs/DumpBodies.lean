-- Bodies of functions in dumps. A dump is cut line by line, and whether a body is open is told by
-- the number of marks so far; a tag with a digit is no mark, and any other mark inside a body
-- counts like its tag. So a body stays in one statement just while these marks come out odd.
import Mathlib.Algebra.GroupWithZero.Nat
import Mathlib.Logic.Basic
import Mathlib.Tactic.ByContra
import Mathlib.Tactic.Tauto
import Mathlib.Tactic.TypeStar
import SchemaChart.Proofs.StatementBreaks
import SchemaChart.Script.Dump

namespace SchemaChart.Script

open Text
open Text.Pattern (Fails Takes findFrom_of_fails)

/-! ## Marks -/

/-- May a character stand between the two signs of a mark. -/
def inMark (c : Char) : Bool := c.isAlpha || c == '_'

section

variable {name v w cs : List Char}

theorem dollarMark_fails (h : cs.head? ≠ some '$') : Fails dollarMark cs :=
  (Fails.char "$" '$' rfl h).seq.seq

/-- A mark begins with a sign and goes on to the next one. -/
theorem dollarMark_fails_behind (h : Fails (Pattern.run true inMark ++ Pattern.lit "$") cs) :
    Fails dollarMark ('$' :: cs) := by
  have hsign : Fails (Pattern.one (· == '$') ++
      (Pattern.empty ++ (Pattern.run true inMark ++ Pattern.lit "$"))) ('$' :: cs) :=
    Fails.seq_one h
  exact hsign

theorem dollarMark_fails_lone (h : '$' ∉ cs) : Fails dollarMark ('$' :: cs) :=
  dollarMark_fails_behind (Fails.needs rfl h)

/-- Two signs with something else than a name between them are no mark. -/
theorem dollarMark_fails_broken (hname : '$' ∉ name) (hbroken : ∃ c ∈ name, inMark c = false) :
    Fails dollarMark ('$' :: name ++ '$' :: v) := by
  refine dollarMark_fails_behind ?_
  induction name with
  | nil =>
    obtain ⟨c, hc, -⟩ := hbroken
    cases hc
  | cons d name ih =>
    have hd : d ≠ '$' := fun h => hname (h ▸ List.mem_cons_self)
    refine Fails.run_seq (Fails.char "$" '$' rfl (by simpa using hd)) ?_
    intro x xs hx hin
    obtain ⟨rfl, rfl⟩ := List.cons.inj hx
    refine ih (fun h => hname (List.mem_cons_of_mem d h)) ?_
    obtain ⟨c, hc, hout⟩ := hbroken
    rcases List.mem_cons.mp hc with rfl | hc
    · rw [hin] at hout
      cases hout
    · exact ⟨c, hc, hout⟩

theorem dollarMark_takes (hname : ∀ c ∈ name, inMark c = true) :
    Takes dollarMark ('$' :: name ++ ['$']) v [] := by
  have hrun : Takes (Pattern.run true inMark) name (['$'] ++ v) [] :=
    Takes.run hname (by simp [inMark])
  exact ((Takes.char "$" '$' rfl).seq hrun).seq (Takes.char "$" '$' rfl)

/-- The search for a mark goes past a text without a sign. -/
theorem findFrom_passed_over (hw : '$' ∉ w) (cs : List Char) (prev : Option Char)
    (passed : List Char) :
    ∃ prev' passed', dollarMark.findFrom prev passed (w ++ cs) =
      dollarMark.findFrom prev' passed' cs := by
  induction w generalizing prev passed with
  | nil => exact ⟨prev, passed, rfl⟩
  | cons d w ih =>
    have hd : d ≠ '$' := fun h => hw (h ▸ List.mem_cons_self)
    have hfails : Fails dollarMark (d :: (w ++ cs)) := dollarMark_fails (by simpa using hd)
    rw [List.cons_append, findFrom_of_fails hfails]
    exact ih (fun h => hw (List.mem_cons_of_mem d h)) _ _

theorem findFrom_unmarked (hv : '$' ∉ v) (prev : Option Char) (passed : List Char) :
    dollarMark.findFrom prev passed v = none := by
  obtain ⟨prev', passed', h⟩ := findFrom_passed_over hv [] prev passed
  rw [List.append_nil] at h
  rw [h]
  rfl

theorem allFrom_eq_nil {p : Pattern} {n : Nat} {prev : Option Char}
    (h : p.findFrom prev [] cs = none) : p.allFrom n prev cs = [] := by
  cases n with
  | zero => rfl
  | succ n => rw [Pattern.allFrom, h]

/-- A text with two signs in it has one mark if a name stands between them, and none otherwise. -/
theorem count_dollarMark (hw : '$' ∉ w) (hname : '$' ∉ name) (hv : '$' ∉ v) :
    dollarMark.count (w ++ ('$' :: name ++ '$' :: v)) = if name.all inMark then 1 else 0 := by
  have hlength : (w ++ ('$' :: name ++ '$' :: v)).length =
      (w.length + name.length + v.length + 1) + 1 := by
    simp only [List.length_append, List.length_cons]
    omega
  unfold Pattern.count
  rw [hlength, Pattern.allFrom]
  obtain ⟨prev, passed, hfind⟩ := findFrom_passed_over hw ('$' :: name ++ '$' :: v) none []
  rw [hfind]
  by_cases hall : name.all inMark = true
  · have htakes := dollarMark_takes (v := v) (List.all_eq_true.mp hall) some
      ⟨prev, '$' :: name ++ '$' :: v, 0, []⟩ _ (by simp) rfl
    rw [Pattern.findFrom.eq_def, htakes, if_pos hall]
    simp [Cursor.beyond, allFrom_eq_nil (findFrom_unmarked hv _ [])]
  · have hbroken : ∃ c ∈ name, inMark c = false := by simpa using hall
    obtain ⟨prev', passed', hnext⟩ :=
      findFrom_passed_over hname ('$' :: v) (some '$') ('$' :: passed)
    have hfails : Fails dollarMark ('$' :: (name ++ '$' :: v)) :=
      dollarMark_fails_broken hname hbroken
    rw [List.cons_append, findFrom_of_fails hfails, hnext,
      findFrom_of_fails (dollarMark_fails_lone hv), findFrom_unmarked hv, if_neg hall]
    rfl

end

/-! ## Tags -/

theorem isDigit_not_inMark {c : Char} (h : c.isDigit = true) : inMark c = false := by
  have hascii : c.toNat < 128 := by
    simp only [Char.isDigit, Bool.and_eq_true, decide_eq_true_eq, UInt32.le_iff_toNat_le] at h
    exact Nat.lt_of_le_of_lt h.2 (by decide)
  exact forall_ascii (P := fun c => c.isDigit = true → inMark c = false) (by decide) hascii h

/-- A tag is two signs with a name between them, in which there may be digits. -/
theorem IsTag.name {tag : List Char} (h : IsTag tag) :
    ∃ name, tag = '$' :: name ++ ['$'] ∧ ∀ c ∈ name, inMark c = true ∨ c.isDigit = true := by
  cases h with
  | plain => exact ⟨[], rfl, by simp⟩
  | @named first name hfirst hname =>
    refine ⟨first :: name, rfl, List.forall_mem_cons.mpr ⟨.inl hfirst, fun c hc => ?_⟩⟩
    have hword := hname c hc
    simp only [Char.isAlphanum, Bool.or_eq_true] at hword
    rcases hword with (halpha | hdigit) | hbar
    · exact .inl (by simp [inMark, halpha])
    · exact .inr hdigit
    · exact .inl (by simp [inMark, hbar])

theorem dollarTag?_shape {tag : List Char} (h : dollarTag? tag = some tag) :
    ∃ name, tag = '$' :: name ++ ['$'] ∧ '$' ∉ name ∧
      name.all inMark = !tag.any Char.isDigit := by
  obtain ⟨name, rfl, hname⟩ := (isTag_of_dollarTag? h).1.name
  refine ⟨name, rfl, fun hsign => ?_, ?_⟩
  · exact absurd (hname _ hsign) (by decide)
  · rw [Bool.eq_iff_iff]
    simp only [List.all_eq_true, Bool.not_eq_true', List.any_eq_false]
    constructor
    · intro hall c hc hdigit
      have hcases : c = '$' ∨ c ∈ name := by
        simp only [List.cons_append, List.mem_cons, List.mem_append, List.not_mem_nil] at hc
        tauto
      rcases hcases with rfl | hc
      · cases hdigit
      · have hin := hall c hc
        rw [isDigit_not_inMark hdigit] at hin
        cases hin
    · intro hnone c hc
      exact (hname c hc).resolve_right (hnone c (by simp [hc]))

/-! ## Lines of a body -/

/-- Would a line outside of bodies be left out of the statement it stands in. -/
def isLeftOut (line : List Char) : Bool :=
  (trim line).isEmpty || startsWith (trim line) "--" || setsDelimiter (trim line)

/-- Does a statement end with a line outside of bodies. -/
def endsStatement (line : List Char) : Bool := endsWith (trim line) ";"

/-- Is a body open behind a line: every mark opens or closes one, unless the line is left out. -/
def openAfter (inBody : Bool) (line : List Char) : Bool :=
  if inBody || !isLeftOut line then inBody != (dollarMark.count line % 2 == 1) else inBody

/-- Is a body open behind lines. -/
def openBehind (inBody : Bool) (body : List (List Char)) : Bool := body.foldl openAfter inBody

/-- Is no line left out, and does none end the statement: a line may be left out only before which
no body is open, and may end the statement only behind which none is. -/
def AllKept (inBody : Bool) (body : List (List Char)) : Prop :=
  ∀ before line after, body = before ++ line :: after →
    (openBehind inBody before = true ∨ isLeftOut line = false) ∧
      (endsStatement line = true → openBehind inBody (before ++ [line]) = true)

/-- Does no line end the statement. -/
def Uncut (inBody : Bool) (body : List (List Char)) : Prop :=
  ∀ before line after, body = before ++ line :: after → endsStatement line = true →
    openBehind inBody (before ++ [line]) = true ∨
      (openBehind inBody before = false ∧ isLeftOut line = true)

theorem forall_split_cons {α : Type*} {P : List α → α → Prop} {x : α} {xs : List α} :
    (∀ before y after, x :: xs = before ++ y :: after → P before y) ↔
      P [] x ∧ ∀ before y after, xs = before ++ y :: after → P (x :: before) y := by
  constructor
  · intro h
    exact ⟨h [] x xs rfl, fun before y after hxs => h (x :: before) y after (by rw [hxs]; rfl)⟩
  · rintro ⟨hx, hxs⟩ before y after h
    cases before with
    | nil =>
      obtain ⟨rfl, -⟩ := List.cons.inj h
      exact hx
    | cons z before =>
      obtain ⟨rfl, htail⟩ := List.cons.inj h
      exact hxs before y after htail

section

variable {inBody : Bool} {line : List Char} {body : List (List Char)}

theorem allKept_nil : AllKept inBody [] := by
  intro before line after h
  simp at h

theorem uncut_nil : Uncut inBody [] := by
  intro before line after h
  simp at h

theorem allKept_cons : AllKept inBody (line :: body) ↔
    ((inBody = true ∨ isLeftOut line = false) ∧
      (endsStatement line = true → openAfter inBody line = true)) ∧
      AllKept (openAfter inBody line) body :=
  forall_split_cons (P := fun before line =>
    (openBehind inBody before = true ∨ isLeftOut line = false) ∧
      (endsStatement line = true → openBehind inBody (before ++ [line]) = true))

theorem uncut_cons : Uncut inBody (line :: body) ↔
    (endsStatement line = true →
      openAfter inBody line = true ∨ (inBody = false ∧ isLeftOut line = true)) ∧
      Uncut (openAfter inBody line) body :=
  forall_split_cons (P := fun before line => endsStatement line = true →
    openBehind inBody (before ++ [line]) = true ∨
      (openBehind inBody before = false ∧ isLeftOut line = true))

end

instance decidableAllKept : (inBody : Bool) → (body : List (List Char)) →
    Decidable (AllKept inBody body)
  | _, [] => .isTrue allKept_nil
  | inBody, line :: body =>
    have := decidableAllKept (openAfter inBody line) body
    decidable_of_iff _ allKept_cons.symm

instance decidableUncut : (inBody : Bool) → (body : List (List Char)) →
    Decidable (Uncut inBody body)
  | _, [] => .isTrue uncut_nil
  | inBody, line :: body =>
    have := decidableUncut (openAfter inBody line) body
    decidable_of_iff _ uncut_cons.symm

namespace DumpScan

variable {s : DumpScan} {n : Nat} {line : List Char}

/-! ## One line -/

/-- The scan with a line in the current statement. -/
def taking (s : DumpScan) (n : Nat) (line : List Char) : DumpScan :=
  { s with
    start := if s.current.isEmpty then n else s.start
    current := s.current ++ line ++ ['\n']
    inBody := s.inBody != (dollarMark.count line % 2 == 1) }

theorem take_eq (s : DumpScan) (n : Nat) (line : List Char) :
    s.take n line =
      if !(s.taking n line).inBody && endsStatement line then (s.taking n line).flush
      else s.taking n line := rfl

/-- What a line does to the scan: it may be taken, and otherwise the statements stay as they are. -/
theorem step_cases (s : DumpScan) (n : Nat) (line : List Char) :
    s.step n line = s.take n line ∨
      ∃ other, s.step n line = { s with otherDelimiter := other } := by
  unfold step
  dsimp only
  split
  · exact .inr ⟨_, rfl⟩
  · split
    · exact .inl rfl
    · split
      · exact .inr ⟨s.otherDelimiter, rfl⟩
      · split
        · exact .inr ⟨s.otherDelimiter, rfl⟩
        · split
          · exact .inr ⟨_, rfl⟩
          · exact .inl rfl

/-- A line is taken, unless it is left out or only instructs the server. -/
theorem step_of_kept (hother : s.otherDelimiter = false)
    (hdirective : s.current ≠ [] ∨ isDirective (trim line) = false)
    (h : s.inBody = true ∨ isLeftOut line = false) : s.step n line = s.take n line := by
  unfold step
  by_cases hbody : s.inBody = true
  · simp [hother, hbody]
  · have hout := h.resolve_left hbody
    simp only [isLeftOut, Bool.or_eq_false_iff] at hout
    rcases hdirective with hcurrent | hdirective
    · simp [hother, hbody, hcurrent, hout]
    · simp [hother, hbody, hdirective, hout]

theorem step_of_leftOut (hother : s.otherDelimiter = false) (hbody : s.inBody = false)
    (hout : isLeftOut line = true) :
    ∃ other, s.step n line = { s with otherDelimiter := other } ∧
      (setsDelimiter (trim line) = false → other = false) := by
  have hsame : s = { s with otherDelimiter := false } := by rw [← hother]
  unfold step
  dsimp only
  rw [if_neg (by simp [hother]), if_neg (by simp [hbody])]
  split
  · exact ⟨false, hsame, fun _ => rfl⟩
  · next hskip =>
    split
    · exact ⟨false, hsame, fun _ => rfl⟩
    · have hdelimiter : setsDelimiter (trim line) = true := by
        simp only [isLeftOut, Bool.or_eq_true] at hout hskip
        tauto
      rw [if_pos hdelimiter]
      refine ⟨_, rfl, fun h => ?_⟩
      rw [h] at hdelimiter
      cases hdelimiter

theorem taking_inBody (hkept : s.inBody = true ∨ isLeftOut line = false) :
    (s.taking n line).inBody = openAfter s.inBody line := by
  unfold openAfter
  rcases hkept with hbody | hout
  · simp [taking, hbody]
  · simp [taking, hout]

theorem flush_flush (s : DumpScan) : s.flush.flush = s.flush := rfl

theorem run_append (s : DumpScan) (n : Nat) (xs ys : List (List Char)) :
    s.run n (xs ++ ys) = (s.run n xs).run (n + xs.length) ys := by
  induction xs generalizing s n with
  | nil => rfl
  | cons x xs ih =>
    rw [List.cons_append, run, run, ih, List.length_cons]
    congr 1
    omega

/-! ## A statement that is held whole -/

/-- The scan inside the first statement of a dump. -/
def held (text : List Char) (inBody : Bool) : DumpScan :=
  { current := text, start := 1, inBody := inBody }

section

variable {text : List Char} {inBody : Bool} {body : List (List Char)}

theorem taking_held (htext : text ≠ []) (hkept : inBody = true ∨ isLeftOut line = false) :
    (held text inBody).taking n line =
      held (text ++ line ++ ['\n']) (openAfter inBody line) := by
  have hopen := taking_inBody (s := held text inBody) (n := n) hkept
  simp only [taking, held, htext, List.isEmpty_iff, ↓reduceIte] at hopen ⊢
  rw [hopen]

theorem step_held (htext : text ≠ []) (hkept : inBody = true ∨ isLeftOut line = false)
    (hend : endsStatement line = true → openAfter inBody line = true) :
    (held text inBody).step n line =
      held (text ++ line ++ ['\n']) (openAfter inBody line) := by
  rw [step_of_kept rfl (.inl htext) hkept, take_eq, taking_held htext hkept, if_neg]
  intro hcut
  obtain ⟨hclosed, hends⟩ := Bool.and_eq_true_iff.mp hcut
  have hopen : (held (text ++ line ++ ['\n']) (openAfter inBody line)).inBody = true := hend hends
  rw [hopen] at hclosed
  cases hclosed

theorem run_held (htext : text ≠ []) (h : AllKept inBody body) :
    (held text inBody).run n body =
      held (text ++ body.flatMap (· ++ ['\n'])) (openBehind inBody body) := by
  induction body generalizing text inBody n with
  | nil => simp [run, openBehind]
  | cons line body ih =>
    obtain ⟨⟨hkept, hend⟩, hbody⟩ := allKept_cons.mp h
    rw [run, step_held htext hkept hend, ih (by simp) hbody]
    simp [openBehind]

end

/-! ## The text of a statement -/

/-- The text that a flush makes of the current statement. -/
def flushed (cs : List Char) : List Char := trim (trimEndOf ';' (trim cs))

theorem flush_done (s : DumpScan) :
    s.flush.done = if (flushed s.current).isEmpty then s.done
      else ⟨String.ofList (flushed s.current), s.start⟩ :: s.done := rfl

theorem length_trimEndOf_le (c : Char) (cs : List Char) : (trimEndOf c cs).length ≤ cs.length := by
  have hle := (List.dropWhile_sublist (· == c) (l := cs.reverse)).length_le
  unfold trimEndOf
  rw [List.length_reverse]
  simpa using hle

theorem trimEndOf_concat (c : Char) (cs : List Char) :
    trimEndOf c (cs ++ [c]) = trimEndOf c cs := by
  simp [trimEndOf]

theorem length_flushed_le (cs : List Char) : (flushed cs).length ≤ cs.length := by
  unfold flushed
  have hinner := length_trim_le cs
  have hmiddle := length_trimEndOf_le ';' (trim cs)
  have houter := length_trim_le (trimEndOf ';' (trim cs))
  omega

theorem flushed_newline (cs : List Char) : flushed (cs ++ ['\n']) = flushed cs := by
  rw [flushed, trim_concat_of_blank rfl, flushed]

/-- The semicolon at the end of a line is dropped with the line feed. -/
theorem length_flushed_semicolon (cs : List Char) :
    (flushed (cs ++ [';'] ++ ['\n'])).length ≤ cs.length := by
  have hstart := (List.dropWhile_sublist isBlank (l := cs)).length_le
  have hmiddle := length_trimEndOf_le ';' (trimStart cs)
  have houter := length_trim_le (trimEndOf ';' (trimStart cs))
  rw [flushed_newline, flushed, trim_concat_of_not_blank rfl, trimEndOf_concat]
  unfold trimStart at *
  omega

theorem mem_dropWhile {p : Char → Bool} {c : Char} {cs : List Char} (hc : p c = false)
    (h : c ∈ cs) : c ∈ cs.dropWhile p := by
  induction cs with
  | nil => cases h
  | cons d cs ih =>
    rw [List.dropWhile_cons]
    split
    · next hd =>
      rcases List.mem_cons.mp h with rfl | h
      · rw [hc] at hd
        cases hd
      · exact ih h
    · exact h

theorem mem_trim {c : Char} {cs : List Char} (hc : isBlank c = false) (h : c ∈ cs) :
    c ∈ trim cs := by
  unfold trim trimEnd trimStart
  rw [List.mem_reverse]
  exact mem_dropWhile hc (List.mem_reverse.mpr (mem_dropWhile hc h))

/-- Only blanks and semicolons are dropped from a statement. -/
theorem mem_flushed {c : Char} {cs : List Char} (hc : isBlank c = false) (hne : c ≠ ';')
    (h : c ∈ cs) : c ∈ flushed cs := by
  have hmiddle : c ∈ trimEndOf ';' (trim cs) := by
    unfold trimEndOf
    rw [List.mem_reverse]
    exact mem_dropWhile (by simpa using hne) (List.mem_reverse.mpr (mem_trim hc h))
  exact mem_trim hc hmiddle

/-! ## What is kept, counted -/

/-- The characters of the statements so far. -/
def weight (s : DumpScan) : Nat := s.current.length + (s.done.map (·.text.length)).sum

theorem weight_flush (s : DumpScan) :
    s.flush.weight = (flushed s.current).length + (s.done.map (·.text.length)).sum := by
  unfold weight
  rw [flush_done]
  split
  · next hempty => simp [List.isEmpty_iff.mp hempty, flush]
  · simp [flush]

theorem weight_flush_le (s : DumpScan) : s.flush.weight ≤ s.weight := by
  have hle := length_flushed_le s.current
  rw [weight_flush, weight]
  omega

theorem weight_taking (s : DumpScan) (n : Nat) (line : List Char) :
    (s.taking n line).weight = s.weight + line.length + 1 := by
  simp only [taking, weight, List.length_append, List.length_singleton]
  omega

/-- A line that ends a statement loses its line feed. -/
theorem weight_flush_taking (s : DumpScan) (n : Nat) (line : List Char) :
    (s.taking n line).flush.weight ≤ s.weight + line.length := by
  have hle := length_flushed_le (s.current ++ line)
  have htext : (s.taking n line).current = s.current ++ line ++ ['\n'] := rfl
  have hdone : (s.taking n line).done = s.done := rfl
  rw [weight_flush, htext, hdone, flushed_newline, weight]
  rw [List.length_append] at hle
  omega

theorem weight_step (s : DumpScan) (n : Nat) (line : List Char) :
    (s.step n line).weight ≤ s.weight + line.length + 1 := by
  rcases s.step_cases n line with h | ⟨other, h⟩
  · have hcut := s.weight_flush_taking n line
    rw [h, take_eq]
    split
    · omega
    · exact Nat.le_of_eq (s.weight_taking n line)
  · rw [h]
    show s.weight ≤ _
    omega

theorem weight_run (s : DumpScan) (n : Nat) (ls : List (List Char)) :
    (s.run n ls).weight ≤ s.weight + (ls.flatMap (· ++ ['\n'])).length := by
  induction ls generalizing s n with
  | nil => simp [run]
  | cons line ls ih =>
    have hstep := s.weight_step n line
    have hrun := ih (s.step n line) (n + 1)
    rw [run]
    simp only [List.flatMap_cons, List.length_append, List.length_singleton] at *
    omega

section

variable {text : List Char} {inBody : Bool} {body : List (List Char)}

/-- A line that is left out or ends the statement weighs less than it has characters. -/
theorem weight_step_held (htext : text ≠ [])
    (h : ¬ ((inBody = true ∨ isLeftOut line = false) ∧
      (endsStatement line = true → openAfter inBody line = true))) :
    ((held text inBody).step n line).weight ≤ text.length + line.length := by
  have hweight : (held text inBody).weight = text.length := by simp [held, weight]
  by_cases hkept : inBody = true ∨ isLeftOut line = false
  · have hcut : ¬ (endsStatement line = true → openAfter inBody line = true) :=
      fun hend => h ⟨hkept, hend⟩
    have hends : endsStatement line = true := by
      by_contra hends
      exact hcut fun he => absurd he hends
    have hclosed : openAfter inBody line = false := by simpa [hends] using hcut
    have hloss := (held text inBody).weight_flush_taking n line
    have hbody : ((held text inBody).taking n line).inBody = false := by
      rw [taking_held htext hkept]
      exact hclosed
    rw [step_of_kept rfl (.inl htext) hkept, take_eq, hbody, hends]
    rw [hweight] at hloss
    exact hloss
  · simp only [not_or, Bool.not_eq_true, Bool.not_eq_false] at hkept
    obtain ⟨other, hstep, -⟩ := step_of_leftOut (s := held text inBody) (n := n) rfl hkept.1 hkept.2
    have hsame : ((held text inBody).step n line).weight = (held text inBody).weight := by
      rw [hstep]
      rfl
    omega

/-- If a line of the body is left out or ends the statement, less is kept than there is. -/
theorem weight_run_held (htext : text ≠ []) (h : ¬ AllKept inBody body) :
    ((held text inBody).run n body).weight < (text ++ body.flatMap (· ++ ['\n'])).length := by
  induction body generalizing text inBody n with
  | nil => exact absurd allKept_nil h
  | cons line body ih =>
    rw [allKept_cons, not_and_or] at h
    simp only [List.flatMap_cons, List.length_append, List.length_singleton]
    rw [run]
    by_cases hline : (inBody = true ∨ isLeftOut line = false) ∧
        (endsStatement line = true → openAfter inBody line = true)
    · have hrest := ih (n := n + 1) (by simp : text ++ line ++ ['\n'] ≠ [])
        (h.resolve_left (not_not_intro hline))
      rw [step_held htext hline.1 hline.2]
      simp only [List.length_append, List.length_singleton] at hrest
      omega
    · have hloss := weight_step_held (n := n) htext hline
      have hrest := ((held text inBody).step n line).weight_run (n + 1) body
      omega

end

/-! ## Statements counted -/

theorem length_done_flush_le (s : DumpScan) : s.done.length ≤ s.flush.done.length := by
  rw [flush_done]
  split
  · exact Nat.le_refl _
  · simp

theorem length_done_step_le (s : DumpScan) (n : Nat) (line : List Char) :
    s.done.length ≤ (s.step n line).done.length := by
  rcases s.step_cases n line with h | ⟨other, h⟩
  · have hflush := (s.taking n line).length_done_flush_le
    rw [h, take_eq]
    split
    · exact hflush
    · exact Nat.le_refl _
  · exact Nat.le_of_eq (by rw [h])

theorem length_done_run_le (s : DumpScan) (n : Nat) (ls : List (List Char)) :
    s.done.length ≤ (s.run n ls).done.length := by
  induction ls generalizing s n with
  | nil => exact Nat.le_refl _
  | cons line ls ih =>
    have hstep := s.length_done_step_le n line
    have hrun := ih (s.step n line) (n + 1)
    rw [run]
    omega

theorem take_otherDelimiter (s : DumpScan) (n : Nat) (line : List Char) :
    (s.take n line).otherDelimiter = s.otherDelimiter := by
  rw [take_eq]
  split <;> rfl

theorem step_otherDelimiter (hother : s.otherDelimiter = false)
    (hline : setsDelimiter (trim line) = false) : (s.step n line).otherDelimiter = false := by
  unfold step
  simp only [hother, hline, Bool.false_eq_true, ↓reduceIte]
  split
  · rw [take_otherDelimiter, hother]
  · split
    · exact hother
    · split
      · exact hother
      · rw [take_otherDelimiter, hother]

theorem run_otherDelimiter (hother : s.otherDelimiter = false) {body : List (List Char)}
    (hbody : ∀ line ∈ body, setsDelimiter (trim line) = false) :
    (s.run n body).otherDelimiter = false := by
  induction body generalizing s n with
  | nil => exact hother
  | cons line body ih =>
    rw [run]
    exact ih (step_otherDelimiter hother (hbody line List.mem_cons_self))
      fun l hl => hbody l (List.mem_cons_of_mem line hl)

/-- A statement with something else than blanks and semicolons in it is one more statement. -/
theorem length_done_flush_taking {c : Char} (hc : isBlank c = false) (hne : c ≠ ';')
    (h : c ∈ s.current ++ line) : (s.taking n line).flush.done.length = s.done.length + 1 := by
  have hmem : c ∈ flushed (s.taking n line).current :=
    mem_flushed hc hne (List.mem_append_left _ h)
  have hsome : (flushed (s.taking n line).current).isEmpty = false := by
    simpa using List.ne_nil_of_mem hmem
  rw [flush_done, hsome]
  rfl

/-- From inside a statement, no statement is done behind the body just if none of its lines ends
the one that it stands in. -/
theorem run_done_eq_nil_iff {c : Char} (hc : isBlank c = false) (hne : c ≠ ';')
    {body : List (List Char)} (hbody : ∀ line ∈ body, setsDelimiter (trim line) = false)
    (hother : s.otherDelimiter = false) (hdone : s.done = []) (hcurrent : c ∈ s.current) :
    (s.run n body).done = [] ↔ Uncut s.inBody body := by
  induction body generalizing s n with
  | nil => exact ⟨fun _ => uncut_nil, fun _ => hdone⟩
  | cons line body ih =>
    have hline := hbody line List.mem_cons_self
    have hbody : ∀ l ∈ body, setsDelimiter (trim l) = false :=
      fun l hl => hbody l (List.mem_cons_of_mem line hl)
    rw [run, uncut_cons]
    by_cases hout : s.inBody = false ∧ isLeftOut line = true
    · obtain ⟨other, hstep, hsets⟩ := step_of_leftOut (n := n) hother hout.1 hout.2
      have hsame : s.step n line = s := by
        rw [hstep, hsets hline, ← hother]
      have hopen : openAfter s.inBody line = s.inBody := by simp [openAfter, hout]
      rw [hsame, hopen, ih hbody hother hdone hcurrent]
      exact ⟨fun h => ⟨fun _ => .inr hout, h⟩, fun h => h.2⟩
    · have hkept : s.inBody = true ∨ isLeftOut line = false := by
        rcases hb : s.inBody with _ | _
        · exact .inr (by simpa [hb] using hout)
        · exact .inl rfl
      have hmem := List.mem_append_left line hcurrent
      rw [step_of_kept hother (.inl (List.ne_nil_of_mem hcurrent)) hkept, take_eq,
        taking_inBody hkept]
      by_cases hstays : endsStatement line = true → openAfter s.inBody line = true
      · have hgoes : (!openAfter s.inBody line && endsStatement line) = false := by
          by_cases hends : endsStatement line = true
          · simp [hstays hends]
          · simp [hends]
        rw [hgoes, if_neg Bool.false_ne_true, ih (s := s.taking n line) hbody hother hdone
          (List.mem_append_left _ hmem), taking_inBody hkept]
        exact ⟨fun h => ⟨fun hends => .inl (hstays hends), h⟩, fun h => h.2⟩
      · -- the statement ends here, and what is done stays done
        obtain ⟨hends, hclosed⟩ := Classical.not_imp.mp hstays
        have hone := length_done_flush_taking (s := s) (n := n) hc hne hmem
        have hmore := (s.taking n line).flush.length_done_run_le (n + 1) body
        have hcut : (!openAfter s.inBody line && endsStatement line) = true := by
          simp [hclosed, hends]
        rw [hcut, if_pos rfl]
        constructor
        · intro hnil
          rw [hnil, hone] at hmore
          simp at hmore
        · intro h
          exact absurd (h.1 hends) (not_or_intro hclosed hout)

end DumpScan

/-! ## A function -/

/-- The words before the body of a function. -/
def functionHead : List Char := "CREATE FUNCTION f() RETURNS void AS ".toList

/-- The lines of a dump that creates a function whose body stands between two tags. -/
def functionLines (tag : List Char) (body : List (List Char)) : List (List Char) :=
  (functionHead ++ tag) :: body ++ [tag ++ [';']]

/-- The statement that creates the function. -/
def functionText (tag : List Char) (body : List (List Char)) : String :=
  String.ofList (['\n'].intercalate ((functionHead ++ tag) :: body ++ [tag]))

section

variable {tag : List Char} {body : List (List Char)}

theorem mem_functionHead : 'C' ∈ functionHead := by decide

theorem trimmed_function (htag : dollarTag? tag = some tag) (inside : List Char) :
    Trimmed (functionHead ++ inside ++ tag) := by
  obtain ⟨name, rfl, -⟩ := dollarTag?_shape htag
  refine ⟨⟨'C', rfl, rfl⟩, '$', ?_, rfl⟩
  rw [← List.append_assoc]
  exact List.getLast?_concat

theorem count_firstLine (htag : dollarTag? tag = some tag) :
    dollarMark.count (functionHead ++ tag) = if tag.any Char.isDigit then 0 else 1 := by
  obtain ⟨name, rfl, hname, hdigits⟩ := dollarTag?_shape htag
  rw [count_dollarMark (v := []) (by decide) hname (by simp), hdigits]
  rcases ('$' :: name ++ ['$']).any Char.isDigit <;> rfl

/-- The first line opens the body, unless its tag has a digit. -/
theorem step_firstLine (htag : dollarTag? tag = some tag) :
    ({} : DumpScan).step 1 (functionHead ++ tag) =
      DumpScan.held (functionHead ++ tag ++ ['\n']) (!tag.any Char.isDigit) := by
  have htrim : trim (functionHead ++ tag) = functionHead ++ tag :=
    (trimmed_function htag []).trim_eq
  have hout : isLeftOut (functionHead ++ tag) = false := by
    unfold isLeftOut
    rw [htrim]
    rfl
  have hdirective : isDirective (trim (functionHead ++ tag)) = false := by
    rw [htrim]
    rfl
  have hends : endsStatement (functionHead ++ tag) = false := by
    obtain ⟨name, rfl, -⟩ := dollarTag?_shape htag
    unfold endsStatement
    rw [htrim]
    simp [endsWith, dropTail?, dropHead?]
  rw [DumpScan.step_of_kept rfl (.inr hdirective) (.inr hout), DumpScan.take_eq, hends,
    Bool.and_false, if_neg Bool.false_ne_true]
  unfold DumpScan.taking
  rw [count_firstLine htag]
  rcases tag.any Char.isDigit <;> rfl

theorem trimmed_lastLine (htag : dollarTag? tag = some tag) : Trimmed (tag ++ [';']) := by
  obtain ⟨name, rfl, -⟩ := dollarTag?_shape htag
  exact ⟨⟨'$', rfl, rfl⟩, ';', List.getLast?_concat, rfl⟩

theorem isLeftOut_lastLine (htag : dollarTag? tag = some tag) :
    isLeftOut (tag ++ [';']) = false := by
  unfold isLeftOut
  rw [(trimmed_lastLine htag).trim_eq]
  obtain ⟨name, rfl, -⟩ := dollarTag?_shape htag
  rfl

/-- Unless another delimiter is set, the last line ends a statement, be it inside a body or not. -/
theorem flush_lastLine (htag : dollarTag? tag = some tag) {s : DumpScan} (n : Nat)
    (hother : s.otherDelimiter = false) :
    (s.step n (tag ++ [';'])).flush = (s.taking n (tag ++ [';'])).flush := by
  have hdirective : isDirective (trim (tag ++ [';'])) = false := by
    rw [(trimmed_lastLine htag).trim_eq]
    obtain ⟨name, rfl, -⟩ := dollarTag?_shape htag
    rfl
  rw [DumpScan.step_of_kept hother (.inr hdirective) (.inr (isLeftOut_lastLine htag)),
    DumpScan.take_eq]
  split
  · rw [DumpScan.flush_flush]
  · rfl

/-- Of the last line not more than the tag is kept. -/
theorem weight_lastLine (htag : dollarTag? tag = some tag) (s : DumpScan) (n : Nat) :
    (s.step n (tag ++ [';'])).flush.weight ≤ s.weight + tag.length := by
  by_cases hother : s.otherDelimiter = true
  · have hstep : s.step n (tag ++ [';']) =
        { s with otherDelimiter := !resetsDelimiter (trim (tag ++ [';'])) } := by
      simp [DumpScan.step, hother]
    have hle : (s.step n (tag ++ [';'])).flush.weight ≤ s.weight := by
      rw [hstep]
      exact DumpScan.weight_flush_le _
    omega
  · have htext : (s.taking n (tag ++ [';'])).current = s.current ++ tag ++ [';'] ++ ['\n'] := by
      simp [DumpScan.taking]
    have hdone : (s.taking n (tag ++ [';'])).done = s.done := rfl
    have hle := DumpScan.length_flushed_semicolon (s.current ++ tag)
    rw [flush_lastLine htag n (by simpa using hother), DumpScan.weight_flush, htext, hdone,
      DumpScan.weight]
    rw [List.length_append] at hle
    omega

theorem intercalate_lines (first last : List Char) (body : List (List Char)) :
    ['\n'].intercalate (first :: body ++ [last]) =
      first ++ ['\n'] ++ body.flatMap (· ++ ['\n']) ++ last := by
  induction body generalizing first with
  | nil => simp [List.intercalate_cons_cons]
  | cons line body ih =>
    rw [List.cons_append, List.cons_append, List.intercalate_cons_cons, ← List.cons_append, ih]
    simp

theorem functionText_toList (tag : List Char) (body : List (List Char)) :
    (functionText tag body).toList =
      functionHead ++ tag ++ ['\n'] ++ body.flatMap (· ++ ['\n']) ++ tag := by
  rw [functionText, String.toList_ofList, intercalate_lines]

theorem flushed_function (htag : dollarTag? tag = some tag) (body : List (List Char)) :
    DumpScan.flushed (functionHead ++ tag ++ ['\n'] ++ body.flatMap (· ++ ['\n']) ++ tag ++ [';']
      ++ ['\n']) = (functionText tag body).toList := by
  rw [functionText_toList]
  generalize body.flatMap (· ++ ['\n']) = inside
  have htrimmed : Trimmed (functionHead ++ tag ++ ['\n'] ++ inside ++ tag) := by
    simpa using trimmed_function htag (tag ++ ['\n'] ++ inside)
  have hstart : trimStart (functionHead ++ tag ++ ['\n'] ++ inside ++ tag) =
      functionHead ++ tag ++ ['\n'] ++ inside ++ tag := dropWhile_isBlank htrimmed.1
  have hlast : trimEndOf ';' (functionHead ++ tag ++ ['\n'] ++ inside ++ tag) =
      functionHead ++ tag ++ ['\n'] ++ inside ++ tag := by
    obtain ⟨name, rfl, -⟩ := dollarTag?_shape htag
    simp [trimEndOf]
  rw [DumpScan.flushed_newline, DumpScan.flushed, trim_concat_of_not_blank rfl, hstart,
    DumpScan.trimEndOf_concat, hlast, htrimmed.trim_eq]

/-- The scan behind the body of a function. -/
def scanBody (tag : List Char) (body : List (List Char)) : DumpScan :=
  (DumpScan.held (functionHead ++ tag ++ ['\n']) (!tag.any Char.isDigit)).run 2 body

theorem splitDump_function {cs : List Char} (htag : dollarTag? tag = some tag)
    (hlines : lines cs = functionLines tag body) :
    splitDump cs =
      ((scanBody tag body).step (2 + body.length) (tag ++ [';'])).flush.done.reverse := by
  rw [splitDump, hlines, functionLines, List.cons_append, DumpScan.run, step_firstLine htag,
    DumpScan.run_append]
  rfl

/-- Behind a body that is kept whole, the function is all there is. -/
theorem done_of_allKept (htag : dollarTag? tag = some tag) (n : Nat)
    (h : AllKept (!tag.any Char.isDigit) body) :
    ((scanBody tag body).step n (tag ++ [';'])).flush.done = [⟨functionText tag body, 1⟩] := by
  have hne : (functionText tag body).toList ≠ [] := by
    rw [functionText_toList]
    exact List.ne_nil_of_mem (a := 'C') (by simp [mem_functionHead])
  have htext := flushed_function htag body
  rw [List.append_assoc _ tag [';']] at htext
  rw [scanBody, DumpScan.run_held (by simp) h, flush_lastLine htag n rfl,
    DumpScan.taking_held (by simp) (.inr (isLeftOut_lastLine htag)), DumpScan.flush_done]
  unfold DumpScan.held
  rw [htext, if_neg (by simpa using hne), String.ofList_toList]

/-- What is kept of a body that is not kept whole is too short for the function. -/
theorem done_of_not_allKept (htag : dollarTag? tag = some tag) (n : Nat)
    (h : ¬ AllKept (!tag.any Char.isDigit) body) :
    ((scanBody tag body).step n (tag ++ [';'])).flush.done ≠ [⟨functionText tag body, 1⟩] := by
  intro hdone
  have hlast := weight_lastLine htag (scanBody tag body) n
  have hne : functionHead ++ tag ++ ['\n'] ≠ [] := by simp
  have hloss : (scanBody tag body).weight < _ := DumpScan.weight_run_held (n := 2) hne h
  have hwhole : ((scanBody tag body).step n (tag ++ [';'])).flush.weight =
      (functionText tag body).toList.length := by
    rw [DumpScan.weight, hdone, String.length_toList]
    simp [DumpScan.flush]
  rw [functionText_toList, List.length_append] at hwhole
  omega

end

/-- The body of a function stays in one statement of a dump, whole and from the first line on, just
if every line that would be left out stands where a body is open, and every line that ends in a
semicolon leaves one open. Whether a body is open is told by the marks so far, of which a tag is one
only if it has no digit. Where no line sets a delimiter, there is one statement just if no line that
is kept ends in a semicolon without a body open behind it. -/
theorem bodies_stay_whole_while_marks_come_out_odd {cs tag : List Char} {body : List (List Char)}
    (htag : dollarTag? tag = some tag) (hlines : lines cs = functionLines tag body) :
    (splitDump cs = [⟨functionText tag body, 1⟩] ↔ AllKept (!tag.any Char.isDigit) body) ∧
      ((∀ line ∈ body, setsDelimiter (trim line) = false) →
        ((splitDump cs).length = 1 ↔ Uncut (!tag.any Char.isDigit) body)) := by
  rw [splitDump_function htag hlines]
  constructor
  · rw [List.reverse_eq_iff]
    constructor
    · intro hwhole
      by_contra h
      exact done_of_not_allKept htag _ h hwhole
    · exact done_of_allKept htag _
  · intro hbody
    have hother : (scanBody tag body).otherDelimiter = false :=
      DumpScan.run_otherDelimiter rfl hbody
    have hmem : '$' ∈ (scanBody tag body).current ++ (tag ++ [';']) := by
      obtain ⟨name, rfl, -⟩ := dollarTag?_shape htag
      simp
    have hnone : (scanBody tag body).done = [] ↔ Uncut (!tag.any Char.isDigit) body :=
      DumpScan.run_done_eq_nil_iff (c := 'C') rfl (by decide) hbody rfl rfl
        (List.mem_append_left _ (List.mem_append_left _ mem_functionHead))
    rw [List.length_reverse, flush_lastLine htag _ hother,
      DumpScan.length_done_flush_taking (c := '$') rfl (by decide) hmem, ← hnone,
      ← List.length_eq_zero_iff]
    omega

/-- A body between tags with a digit. -/
def versionedDump : List Char :=
  "CREATE FUNCTION f() RETURNS void AS $v1$\nBEGIN;\nEND;\n$v1$;".toList

/-- A body with another mark in it. -/
def markedDump : List Char :=
  "CREATE FUNCTION f() RETURNS void AS $$\nSELECT $q$;\n$$;".toList

/-- A body with a comment, an empty line and semicolons, and no mark. -/
def unmarkedDump : List Char :=
  "CREATE FUNCTION f() RETURNS void AS $$\n-- $1;\n\nEND;\n$$;".toList

/-- A body between two tags with a digit is cut at its first semicolon, and so is one with another
mark in it; a body without such marks stays whole, whatever its lines look like. -/
theorem a_digit_or_a_mark_cuts_a_body :
    dollarTag? "$v1$".toList = some "$v1$".toList ∧
      lines versionedDump = functionLines "$v1$".toList ["BEGIN;".toList, "END;".toList] ∧
      (splitDump versionedDump).length ≠ 1 ∧
      dollarTag? "$$".toList = some "$$".toList ∧
      lines markedDump = functionLines "$$".toList ["SELECT $q$;".toList] ∧
      (splitDump markedDump).length ≠ 1 ∧
      lines unmarkedDump = functionLines "$$".toList ["-- $1;".toList, [], "END;".toList] ∧
      splitDump unmarkedDump =
        [⟨functionText "$$".toList ["-- $1;".toList, [], "END;".toList], 1⟩] := by
  have hdigit : dollarTag? "$v1$".toList = some "$v1$".toList := by decide +kernel
  have hplain : dollarTag? "$$".toList = some "$$".toList := by decide +kernel
  have hversioned : lines versionedDump =
      functionLines "$v1$".toList ["BEGIN;".toList, "END;".toList] := by decide +kernel
  have hmarked : lines markedDump = functionLines "$$".toList ["SELECT $q$;".toList] := by
    decide +kernel
  have hunmarked : lines unmarkedDump =
      functionLines "$$".toList ["-- $1;".toList, [], "END;".toList] := by decide +kernel
  refine ⟨hdigit, hversioned, ?_, hplain, hmarked, ?_, hunmarked, ?_⟩
  · rw [ne_eq, (bodies_stay_whole_while_marks_come_out_odd hdigit hversioned).2 (by decide +kernel)]
    decide +kernel
  · rw [ne_eq, (bodies_stay_whole_while_marks_come_out_odd hplain hmarked).2 (by decide +kernel)]
    decide +kernel
  · rw [(bodies_stay_whole_while_marks_come_out_odd hplain hunmarked).1]
    decide +kernel

end SchemaChart.Script
