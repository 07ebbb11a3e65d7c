-- Scripts whose statements stand in lines of their own. A text that closes its quotes, and holds
-- nothing outside of them that means something to a script, is kept in one statement.
import SchemaChart.Proofs.Scanning
import SchemaChart.Script.Statement

namespace SchemaChart.Script

open Text

/-! ## Dollar tags -/

section

variable {tag cs : List Char}

/-- Two dollar signs, with a name between them or none. -/
inductive IsTag : List Char → Prop
  | plain : IsTag ['$', '$']
  | named {c : Char} {name : List Char} : (c.isAlpha || c == '_') = true →
      (∀ x ∈ name, (x.isAlphanum || x == '_') = true) → IsTag ('$' :: c :: name ++ ['$'])

theorem isTag_of_dollarTag? (h : dollarTag? cs = some tag) : IsTag tag ∧ tag <+: cs := by
  unfold dollarTag? at h
  split at h
  · obtain rfl := Option.some.inj h
    exact ⟨.plain, ⟨_, rfl⟩⟩
  · rename_i c rest _
    split at h
    · rename_i hc
      dsimp only at h
      split at h
      · rename_i more hmore
        obtain rfl := Option.some.inj h
        have hname := List.all_takeWhile (p := fun c => c.isAlphanum || c == '_') (l := rest)
        obtain ⟨t, ht⟩ := List.takeWhile_prefix (fun c => c.isAlphanum || c == '_') (l := rest)
        generalize rest.takeWhile (fun c => c.isAlphanum || c == '_') = name at hmore hname ht
        subst ht
        rw [List.drop_left] at hmore
        refine ⟨.named hc (List.all_eq_true.mp hname), more, ?_⟩
        simp [hmore]
      · cases h
    · cases h
  · cases h

theorem IsTag.dollarTag?_append (h : IsTag tag) (rest : List Char) :
    dollarTag? (tag ++ rest) = some tag := by
  cases h with
  | plain => rfl
  | @named c name hc hname =>
    have htake : (name ++ '$' :: rest).takeWhile (fun c => c.isAlphanum || c == '_') = name := by
      rw [List.takeWhile_append_of_pos hname]
      simp
    have htext : '$' :: c :: name ++ ['$'] ++ rest = '$' :: c :: (name ++ '$' :: rest) := by simp
    rw [htext]
    unfold dollarTag?
    split
    · rename_i heq
      obtain rfl := (List.cons.inj (List.cons.inj heq).2).1
      cases hc
    · rename_i heq
      obtain ⟨rfl, rfl⟩ := List.cons.inj (List.cons.inj heq).2
      rw [if_pos hc]
      dsimp only
      rw [htake, List.drop_left]
      rfl
    · rename_i hnone
      exact absurd rfl (hnone c _)

/-- The tag at the start of a text is the only one there. -/
theorem dollarTag?_eq_some_iff : dollarTag? cs = some tag ↔ IsTag tag ∧ tag <+: cs := by
  refine ⟨isTag_of_dollarTag?, ?_⟩
  rintro ⟨htag, rest, rfl⟩
  exact htag.dollarTag?_append rest

end

namespace Scan

/-! ## What a scan keeps -/

/-- Keeps a whole text. -/
def keepAll (s : Scan) (cs : List Char) : Scan :=
  { s with current := cs.reverse ++ s.current, line := s.line + cs.count '\n' }

theorem keepAll_nil (s : Scan) : s.keepAll [] = s := rfl

theorem keepAll_cons (s : Scan) (c : Char) (cs : List Char) :
    s.keepAll (c :: cs) = (s.keep c).keepAll cs := by
  unfold keepAll keep
  by_cases hc : c = '\n'
  · subst hc
    simp [Nat.add_comm 1, Nat.add_assoc]
  · simp [hc]

theorem keepAll_append (s : Scan) (cs ds : List Char) :
    s.keepAll (cs ++ ds) = (s.keepAll cs).keepAll ds := by
  simp [keepAll, Nat.add_assoc]

/-- Does the current statement have something other than blanks. -/
def Started (s : Scan) : Prop := s.current.all isBlank = false

theorem Started.keepAll {s : Scan} (h : s.Started) (cs : List Char) : (s.keepAll cs).Started := by
  unfold Started at *
  simp [Scan.keepAll, h]

/-- The statement starts with the first character that is not blank. -/
def begun (s : Scan) (c : Char) : Scan :=
  if s.current.all isBlank && !isBlank c then { s with start := s.line } else s

theorem Started.begun {s : Scan} (h : s.Started) (c : Char) : s.begun c = s := by
  unfold Scan.begun
  rw [h]
  rfl

end Scan

/-- What a character outside quotes opens. -/
def opened (c : Char) (rest : List Char) : Mode :=
  match anyQuote c with
  | some close => .quoted close
  | none =>
    match dollarTag? ((c :: rest).take 64) with
    | some tag => .keepRest tag.length (.body tag)
    | none => .code false

/-- Does a character outside quotes end a statement or start a comment. -/
def leaves (c : Char) (rest : List Char) : Bool :=
  c == ';' || (c == '-' && rest.head? == some '-') || (c == '/' && rest.head? == some '*')

namespace Scan

variable {s : Scan} {c q : Char} {cs rest : List Char}

theorem dollarTag?_of_ne {cs : List Char} (hc : c ≠ '$') : dollarTag? (c :: cs) = none := by
  unfold dollarTag?
  split
  · rename_i h
    exact absurd (List.cons.inj h).1 hc
  · rename_i h
    exact absurd (List.cons.inj h).1 hc
  · rfl

/-- A character outside quotes is kept, unless it is dropped with what it ends or starts. -/
theorem code_kept (hline : c ≠ '\n') (hc : leaves c rest = false) :
    s.code c rest = { (s.begun c).keep c with mode := opened c rest } := by
  simp only [leaves, Bool.or_eq_false_iff, beq_eq_false_iff_ne] at hc
  obtain ⟨⟨hsemi, hdash⟩, hslash⟩ := hc
  unfold code
  rw [if_neg (by simpa using hline), hdash, hslash]
  simp only [Bool.false_eq_true, ↓reduceIte]
  unfold opened
  split
  · rfl
  · rfl
  · rfl
  · rfl
  · exact absurd rfl hsemi
  · have hquote : anyQuote '$' = none := rfl
    rw [hquote]
    rcases dollarTag? (('$' :: rest).take 64) with _ | tag
    · rfl
    · rfl
  · rename_i h1 h2 h3 h4 h5 h6
    have hquote : anyQuote c = none := by simp_all [anyQuote, plainQuote]
    have htag : dollarTag? ((c :: rest).take 64) = none := by
      rw [List.take_succ_cons]
      exact dollarTag?_of_ne (by simpa using h6)
    rw [hquote, htag]
    rfl

/-- A quoted name is kept to its closing quote; a doubled quote does not close it. -/
theorem run_quoted (name : List Char) (hq : q ≠ ']') (hmode : s.mode = .quoted q)
    (hrest : rest.head? ≠ some q) :
    s.run (double q name ++ q :: rest) =
      { s.keepAll (double q name ++ [q]) with mode := .code false }.run rest := by
  induction name generalizing s with
  | nil =>
    have hstep : s.step q rest = { s.keep q with mode := .code false } := by
      simp [step, hmode, hrest]
    change s.run (q :: rest) = _
    rw [run, hstep]
    change _ = ({ s.keepAll [q] with mode := .code false } : Scan).run rest
    rw [keepAll_cons, keepAll_nil]
  | cons c name ih =>
    by_cases hc : c = q
    · subst hc
      have hfirst : ∀ ds, s.step c (c :: ds) =
          { s.keep c with mode := .keeping 1 (.quoted c) } := by
        intro ds
        simp [step, hmode, hq]
      have hsecond : ∀ ds, ({ s.keep c with mode := .keeping 1 (.quoted c) } : Scan).step c ds =
          { (s.keep c).keep c with mode := .quoted c } := fun _ => rfl
      have ih := ih (s := { (s.keep c).keep c with mode := .quoted c }) rfl
      rw [double_cons_self, List.cons_append, List.cons_append, run, hfirst, run, hsecond, ih,
        List.cons_append, List.cons_append, keepAll_cons, keepAll_cons]
      rfl
    · have hstep : ∀ ds, s.step c ds = s.keep c := by
        intro ds
        simp [step, hmode, hc]
      rw [double_cons_of_ne hc, List.cons_append, run, hstep, ih (s := s.keep c) hmode,
        List.cons_append, keepAll_cons]

end Scan

/-! ## Sealed texts -/

/-- Characters that mean nothing outside quotes. -/
def isCalm (c : Char) : Bool := !(['\n', '-', '/', '\'', '"', '`', '[', ';', '$'].contains c)

theorem isCalm_iff {c : Char} : isCalm c = true ↔
    c ≠ '\n' ∧ c ≠ '-' ∧ c ≠ '/' ∧ anyQuote c = none ∧ c ≠ ';' ∧ c ≠ '$' := by
  simp [isCalm, anyQuote, plainQuote]
  grind

/-- A text that does not go on with a quote. -/
def NoQuote (cs : List Char) : Prop := ∀ c ∈ cs.head?, plainQuote c = none

/-- Texts that close every quote they open, all other characters being calm. -/
inductive Sealed : List Char → Prop
  | nil : Sealed []
  | char {c : Char} {cs : List Char} : isCalm c = true → Sealed cs → Sealed (c :: cs)
  | quoted {q : Char} {name cs : List Char} :
      plainQuote q = some q → NoQuote cs → Sealed cs → Sealed (q :: double q name ++ q :: cs)

theorem NoQuote.append {cs ds : List Char} (hcs : NoQuote cs) (hds : NoQuote ds) :
    NoQuote (cs ++ ds) := by
  cases cs with
  | nil => exact hds
  | cons c cs => exact hcs

theorem Sealed.calm {w cs : List Char} (hw : ∀ c ∈ w, isCalm c = true) (h : Sealed cs) :
    Sealed (w ++ cs) := by
  induction w with
  | nil => exact h
  | cons c w ih =>
    exact .char (hw c List.mem_cons_self) (ih fun x hx => hw x (List.mem_cons_of_mem c hx))

namespace Scan

variable {s : Scan} {c : Char} {cs rest : List Char}

theorem code_calm (hc : isCalm c = true) :
    s.code c rest = { (s.begun c).keep c with mode := .code false } := by
  obtain ⟨hline, hdash, hslash, hquote, hsemi, hdollar⟩ := isCalm_iff.mp hc
  have htag : dollarTag? ((c :: rest).take 64) = none := dollarTag?_of_ne hdollar
  rw [code_kept hline (by simp [leaves, hdash, hslash, hsemi]), opened, hquote]
  simp only [htag]

theorem code_quote {q : Char} (hq : plainQuote q = some q) :
    s.code q rest = { (s.begun q).keep q with mode := .quoted q } := by
  rcases (plainQuote_cases hq).2 with rfl | rfl | rfl
  · exact code_kept (by decide) rfl
  · exact code_kept (by decide) rfl
  · exact code_kept (by decide) rfl

/-- A sealed text inside a statement is kept, and the scan is outside quotes again. -/
theorem run_sealed (h : Sealed cs) (hmode : s.mode = .code false) (hs : s.Started)
    (hrest : NoQuote rest) : s.run (cs ++ rest) = (s.keepAll cs).run rest := by
  induction h generalizing s with
  | nil => rfl
  | @char c cs hc _ ih =>
    have hstep : s.step c (cs ++ rest) = s.keep c := by
      simp only [step, hmode, Bool.false_and, Bool.false_eq_true, ↓reduceIte, code_calm hc,
        hs.begun]
      rw [← hmode]
      rfl
    rw [List.cons_append, run, hstep, keepAll_cons]
    exact ih hmode (hs.keepAll [c])
  | @quoted q name cs hq hnext _ ih =>
    have hne : q ≠ ']' := by
      rintro rfl
      cases hq
    have hstep : ∀ ds, s.step q ds = { s.keep q with mode := .quoted q } := by
      intro ds
      simp only [step, hmode, Bool.false_and, Bool.false_eq_true, ↓reduceIte, code_quote hq,
        hs.begun]
    have hhead : (cs ++ rest).head? ≠ some q := by
      intro hh
      have hnone := (hnext.append hrest) q hh
      rw [hq] at hnone
      cases hnone
    have hname := run_quoted (s := { s.keep q with mode := .quoted q }) name hne rfl hhead
    have htext : q :: double q name ++ q :: cs ++ rest
        = q :: (double q name ++ q :: (cs ++ rest)) := by simp
    have hkept : s.keepAll (q :: double q name ++ q :: cs)
        = (s.keepAll (q :: double q name ++ [q])).keepAll cs := by
      rw [← keepAll_append]
      simp
    rw [htext, run, hstep, hname, hkept, ← ih (s := s.keepAll (q :: double q name ++ [q])) hmode
      (hs.keepAll _), List.cons_append, keepAll_cons]
    rw [← hmode]
    rfl

end Scan

/-! ## Lines of statements -/

theorem trim_cons {c : Char} (hc : isBlank c = false) (cs : List Char) :
    trim (c :: cs) = c :: trimEnd cs := by
  unfold trim trimStart trimEnd
  rw [List.dropWhile_cons_of_neg (by simp [hc]), List.reverse_cons, List.dropWhile_append]
  split
  · rename_i h
    rw [List.isEmpty_iff.mp h]
    simp [hc]
  · simp

theorem isBatchLine_of_head {c : Char} (hc : isBlank c = false) (hg : c.toLower ≠ 'g')
    (cs : List Char) : isBatchLine (c :: cs) = false := by
  unfold isBatchLine
  rw [trim_cons hc]
  split
  · rename_i h
    simp [← (List.cons.inj h).1, hg]
  · rename_i h
    simp [← (List.cons.inj h).1, hg]
  · rfl

/-- A text that is one statement: it is sealed, has no blanks at its ends, and its first character
starts neither a quote nor a batch line. -/
structure OneStatement (text : List Char) : Prop where
  whole : Sealed text
  trimmed : Trimmed text
  first : ∀ c ∈ text.head?, isCalm c = true ∧ c.toLower ≠ 'g'

/-- Statements in lines of their own, the first of them on line `n`. -/
def placed : Nat → List (List Char) → List Statement
  | _, [] => []
  | n, text :: texts => ⟨String.ofList text, n⟩ :: placed (n + text.count '\n' + 1) texts

namespace Scan

variable {s : Scan}

theorem flush_eq {text : List Char} (h : Trimmed text) (hs : s.current.reverse = text) :
    s.flush =
      { s with current := [], done := ⟨String.ofList text, s.start⟩ :: s.done } := by
  simp [flush, hs, h.trim_eq, h.ne_nil]

theorem step_semicolon (hmode : s.mode = .code false) (hs : s.Started) (rest : List Char) :
    s.step ';' rest = { s.flush with mode := .code false } := by
  have hall : s.current.all isBlank = false := hs
  simp only [step, hmode, code, hall]
  rfl

/-- The scan after the first character of a statement. -/
def opening (s : Scan) (c : Char) : Scan := { s.keep c with start := s.line, mode := .code false }

/-- From the start of a line a statement is read up to its semicolon. -/
theorem run_statement {text : List Char} (h : OneStatement text) (hmode : s.mode = .code true)
    (hcurrent : s.current = []) (rest : List Char) :
    s.run (text ++ ';' :: rest) =
      ({ mode := .code false, line := s.line + text.count '\n', start := s.line, current := [],
         done := ⟨String.ofList text, s.line⟩ :: s.done } : Scan).run rest := by
  obtain ⟨⟨c, hhead, hblank⟩, -⟩ := h.trimmed
  obtain ⟨hcalm, hg⟩ := h.first c hhead
  obtain ⟨cs, rfl⟩ := List.head?_eq_some_iff.mp hhead
  have hsealed : Sealed cs := by
    cases h.whole with
    | char _ hcs => exact hcs
    | quoted hq _ _ =>
      have hnone := (isCalm_iff.mp hcalm).2.2.2.1
      rcases (plainQuote_cases hq).2 with rfl | rfl | rfl <;> cases hnone
  have hfirst : ∀ ds, s.step c ds = s.opening c := by
    intro ds
    have hline : isBatchLine ((c :: ds).takeWhile (· != '\n')) = false := by
      rw [List.takeWhile_cons_of_pos (by simpa using (isCalm_iff.mp hcalm).1)]
      exact isBatchLine_of_head hblank hg _
    simp only [step, hmode, hline, Bool.and_false, Bool.false_eq_true, ↓reduceIte, code_calm hcalm]
    simp [begun, hcurrent, hblank, keep, opening]
  have hstarted : (s.opening c).Started := by simp [Started, opening, keep, hblank]
  have hsemi : NoQuote (';' :: rest) := by
    intro x hx
    cases hx
    rfl
  have htext : ((s.opening c).keepAll cs).current.reverse = c :: cs := by
    simp [keepAll, opening, keep, hcurrent]
  rw [List.cons_append, run, hfirst, run_sealed hsealed rfl hstarted hsemi, run,
    step_semicolon rfl (hstarted.keepAll cs), flush_eq h.trimmed htext]
  simp [keepAll, opening, keep, (isCalm_iff.mp hcalm).1]

/-- Statements in lines of their own are read one by one. -/
theorem run_lines {texts : List (List Char)} (h : ∀ text ∈ texts, OneStatement text)
    (hmode : s.mode = .code true) (hcurrent : s.current = []) :
    (s.run (['\n'].intercalate (texts.map (· ++ [';'])))).flush.done =
      (placed s.line texts).reverse ++ s.done := by
  induction texts generalizing s with
  | nil => simp [run, flush, hcurrent, placed, trim, trimStart, trimEnd]
  | cons text texts ih =>
    have hstatement := run_statement (h text List.mem_cons_self) hmode hcurrent
    have ih := fun t => ih (s := t) fun x hx => h x (List.mem_cons_of_mem text hx)
    cases texts with
    | nil =>
      rw [List.map_singleton, List.intercalate_singleton, hstatement, run]
      simp [flush, trim, trimStart, trimEnd, placed]
    | cons next texts =>
      have hlines : ['\n'].intercalate ((text :: next :: texts).map (· ++ [';']))
          = text ++ ';' :: '\n' :: ['\n'].intercalate ((next :: texts).map (· ++ [';'])) := by
        simp [List.intercalate_cons_cons]
      rw [hlines, hstatement, run, ih _ rfl rfl]
      simp [placed, step, code, newline, drop]

end Scan

/-- Lines that are one statement each are cut into these statements. -/
theorem splitStatements_lines {texts : List (List Char)} (h : ∀ text ∈ texts, OneStatement text) :
    splitStatements (['\n'].intercalate (texts.map (· ++ [';']))) = placed 1 texts := by
  have hrun := Scan.run_lines (s := {}) h rfl rfl
  unfold splitStatements
  rw [hrun]
  simp

theorem placed_texts (n : Nat) (texts : List (List Char)) :
    (placed n texts).map (·.text) = texts.map String.ofList := by
  induction texts generalizing n with
  | nil => rfl
  | cons text texts ih => rw [placed, List.map_cons, List.map_cons, ih]

end SchemaChart.Script
