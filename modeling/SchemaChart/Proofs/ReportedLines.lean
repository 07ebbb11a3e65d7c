-- The line that is reported for a script which cannot be read. It is taken from the message, where
-- the grammar names the place at which it stopped; but messages quote the script as well, and what
-- is quoted may name a line too.
import Mathlib.Control.Monad.Basic
import Mathlib.Data.List.TakeWhile
import SchemaChart.Proofs.FailedStatements
import SchemaChart.Proofs.PatternTexts
import SchemaChart.Proofs.StatementPlaces
import SchemaChart.Proofs.TypeTexts

namespace SchemaChart.Text.Pattern

/-! ## Replaced texts -/

variable {p : Pattern} {d : Char}

/-- What the groups of a match took stands in what it took itself. -/
theorem findFrom_groups {prev : Option Char} {passed cs : List Char} {f : Found}
    (h : p.findFrom prev passed cs = some f) : GroupsIn f.taken f.groups := by
  fun_induction findFrom p prev passed cs with
  | case1 prev passed cs e he =>
    obtain rfl := Option.some.inj h
    exact (go_some_eq he).2.2.2
  | case2 => cases h
  | case3 prev passed d ds hnone ih => exact ih h

theorem Found.count_group_le {f : Found} (h : GroupsIn f.taken f.groups) (name : String)
    (d : Char) : (f.group name).count d ≤ f.taken.count d := by
  unfold Found.group Found.group?
  cases hg : f.groups.lookup name with
  | none => exact Nat.zero_le _
  | some w =>
    obtain ⟨front, back, hgroups, -⟩ := List.lookup_eq_some_iff.mp hg
    exact (h (name, w) (by simp [hgroups])).sublist.count_le d

/-- A text with these matches of it replaced. -/
def rewritten (f : Found → List Char) (found : List Found) (cs : List Char) : List Char :=
  match found.getLast? with
  | none => cs
  | some last => found.flatMap (fun m => m.before ++ f m) ++ last.after

theorem rewritten_cons (f : Found → List Char) (m : Found) (found : List Found) (cs : List Char) :
    rewritten f (m :: found) cs = m.before ++ f m ++ rewritten f found m.after := by
  cases h : found.getLast? with
  | none =>
    obtain rfl := List.getLast?_eq_none_iff.mp h
    simp [rewritten]
  | some last => simp [rewritten, List.getLast?_cons, h]

/-- If each match is replaced by a text with no more of a character than it had, there is no more of
it in the whole. -/
theorem count_replaceAll_le {f : Found → List Char}
    (hf : ∀ m : Found, GroupsIn m.taken m.groups → (f m).count d ≤ m.taken.count d)
    (cs : List Char) : (p.replaceAll f cs).count d ≤ cs.count d := by
  have hall : ∀ (n : Nat) (prev : Option Char) (cs : List Char),
      (rewritten f (p.allFrom n prev cs) cs).count d ≤ cs.count d := by
    intro n
    induction n with
    | zero => exact fun _ _ => Nat.le_refl _
    | succ n ih =>
      intro prev cs
      rw [allFrom]
      split
      · exact Nat.le_refl _
      · next m hm =>
        obtain ⟨before, hbefore, rfl, -⟩ := findFrom_eq_some hm
        have hmatch := hf m (findFrom_groups hm)
        have hrest := ih m.last m.after
        rw [rewritten_cons, hbefore]
        simp only [List.reverse_nil, List.nil_append, List.count_append]
        omega
  exact hall cs.length none cs

theorem count_replaceFirst_le {f : Found → List Char}
    (hf : ∀ m : Found, (f m).count d ≤ m.taken.count d) (cs : List Char) :
    (p.replaceFirst f cs).count d ≤ cs.count d := by
  unfold replaceFirst
  split
  · exact Nat.le_refl _
  · next m hm =>
    obtain ⟨before, hbefore, rfl, -⟩ := findFrom_eq_some hm
    have hmatch := hf m
    rw [hbefore]
    simp only [List.reverse_nil, List.nil_append, List.count_append]
    omega

end SchemaChart.Text.Pattern

namespace SchemaChart.Source

open Text

theorem count_doubleEscapedQuotes (cs : List Char) :
    (doubleEscapedQuotes cs).count '\n' = cs.count '\n' := by
  fun_induction doubleEscapedQuotes cs with
  | case1 => rfl
  | case2 => rfl
  | case3 c d cs hescaped ih =>
    obtain ⟨hc, hd⟩ := Bool.and_eq_true_iff.mp hescaped
    rw [beq_iff_eq.mp hc, beq_iff_eq.mp hd]
    simpa using ih
  | case4 c d cs hescaped ih => rw [List.count_cons, ih, ← List.count_cons]

/-- A statement that is prepared has no more lines than before. -/
theorem count_prepare_le (s : Source) (cs : List Char) :
    (s.prepare cs).count '\n' ≤ cs.count '\n' := by
  have hwithout : ∀ (p : Pattern) (cs : List Char),
      (p.replaceAll (fun _ => []) cs).count '\n' ≤ cs.count '\n' := fun p cs =>
    Pattern.count_replaceAll_le (fun _ _ => Nat.zero_le _) cs
  cases s with
  | postgresql => exact hwithout _ cs
  | mysql | mariadb =>
    rw [prepare, count_doubleEscapedQuotes]
    exact Pattern.count_replaceAll_le (fun m hm => m.count_group_le hm "body" '\n') cs
  | sqlServer =>
    exact Nat.le_trans (hwithout _ _) (Nat.le_trans (hwithout _ _) (hwithout _ cs))
  | sqlite =>
    have hend : (trimEnd cs).count '\n' ≤ cs.count '\n' := by
      rw [trimEnd, List.count_reverse, ← cs.count_reverse]
      exact (List.dropWhile_sublist isBlank).count_le '\n'
    exact Nat.le_trans (Pattern.count_replaceFirst_le (fun _ => Nat.zero_le _) _) hend

end SchemaChart.Source

namespace SchemaChart.Grammar

theorem Place.pastAll_line (p : Place) (cs : List Char) :
    (p.pastAll cs).line = p.line + cs.count '\n' := by
  unfold Place.pastAll
  induction cs generalizing p with
  | nil => rfl
  | cons c cs ih =>
    rw [List.foldl_cons, ih, List.count_cons]
    unfold Place.past
    split
    · dsimp only
      omega
    · rfl

/-- A place that a refusal names is in the text that is refused. -/
theorem readStatement_place {f : Flavor} {sql : String} {r : Refusal} {p : Place}
    (h : readStatement f sql = .error r) (hp : r.place = some p) :
    1 ≤ p.line ∧ p.line ≤ 1 + sql.toList.count '\n' := by
  have hoffset : ∃ n, p = Place.ofOffset sql.toList n := by
    have hrefusal : ∀ words offset, r = refusalIn sql words offset →
        ∃ n, p = Place.ofOffset sql.toList n := by
      rintro words offset rfl
      obtain ⟨n, -, hn⟩ := Option.map_eq_some_iff.mp hp
      exact ⟨n, hn.symm⟩
    unfold readStatement at h
    split at h
    · rename_i e he
      obtain rfl := Except.error.inj h
      unfold statements at he
      split at he
      · exact hrefusal _ _ (Except.error.inj he).symm
      · split at he
        · cases he
        · exact hrefusal _ _ (Except.error.inj he).symm
    · cases h
    · obtain rfl := Except.error.inj h
      cases hp
  obtain ⟨n, rfl⟩ := hoffset
  have htake := (List.take_sublist n sql.toList).count_le '\n'
  rw [Place.ofOffset, Place.pastAll_line]
  change 1 ≤ 1 + _ ∧ 1 + _ ≤ _
  omega

end SchemaChart.Grammar

namespace SchemaChart.Text

/-! ## The first mark in a text -/

variable {part : List Char}

theorem cutAt?_append {cs before rest : List Char} (h : cutAt? part cs = some (before, rest))
    (more : List Char) : cutAt? part (cs ++ more) = some (before, rest ++ more) := by
  induction cs generalizing before with
  | nil =>
    rw [cutAt?] at h
    split at h
    · next hempty =>
      cases h
      rw [List.isEmpty_iff.mp hempty]
      cases more with
      | nil => rfl
      | cons c more => rfl
    · cases h
  | cons c cs ih =>
    obtain ⟨hcs, hpart⟩ := cutAt?_eq_some h
    rw [cutAt?] at h
    rw [List.cons_append, cutAt?]
    split at h
    · next hhere =>
      cases h
      have hmore : part.isPrefixOf (c :: (cs ++ more)) = true :=
        List.isPrefixOf_iff_prefix.mpr (hpart.trans (List.prefix_append (c :: cs) more))
      rw [if_pos hmore]
      rfl
    · next hhere =>
      obtain ⟨⟨before, rest'⟩, hfound, heq⟩ := Option.map_eq_some_iff.mp h
      cases heq
      -- a mark that starts here would end before the one that is found, and so in the text
      have hnot : ¬ part.isPrefixOf (c :: (cs ++ more)) = true := by
        intro hearly
        have hlength : part.length ≤ (c :: cs).length := by
          have hle := hpart.length_le
          rw [hcs, List.length_append]
          omega
        exact hhere (List.isPrefixOf_iff_prefix.mpr (List.prefix_of_prefix_length_le
          (List.isPrefixOf_iff_prefix.mp hearly) (List.prefix_append (c :: cs) more) hlength))
      rw [if_neg hnot, ih hfound]
      rfl

/-- A mark behind a text that has none is the first one, if it cannot start before: the character
before it is no part of it but at its end. -/
theorem cutAt?_behind {c : Char} (hne : part ≠ []) (hc : c ∉ part.dropLast) {before : List Char}
    (hnone : cutAt? part (before ++ [c]) = none) (rest : List Char) :
    cutAt? part (before ++ [c] ++ (part ++ rest)) = some (before ++ [c], part ++ rest) := by
  have hmark : cutAt? part (part ++ rest) = some ([], part ++ rest) := by
    obtain ⟨a, as, rfl⟩ := List.exists_cons_of_ne_nil hne
    rw [List.cons_append, cutAt?, ← List.cons_append,
      if_pos (List.isPrefixOf_iff_prefix.mpr (List.prefix_append _ _))]
  -- a mark that starts before would end in the text, or have the character inside
  have hnot : ∀ cs, ¬ part.isPrefixOf (cs ++ [c]) = true →
      ¬ part.isPrefixOf (cs ++ [c] ++ (part ++ rest)) = true := by
    intro cs hcs hearly
    rcases List.prefix_or_prefix_of_prefix (List.isPrefixOf_iff_prefix.mp hearly)
      (List.prefix_append (cs ++ [c]) (part ++ rest)) with hin | ⟨more, hmore⟩
    · exact hcs (List.isPrefixOf_iff_prefix.mpr hin)
    · cases more with
      | nil =>
        rw [List.append_nil] at hmore
        exact hcs (List.isPrefixOf_iff_prefix.mpr (hmore ▸ List.prefix_refl _))
      | cons m more =>
        refine hc ?_
        rw [← hmore, List.dropLast_append_of_ne_nil (List.cons_ne_nil m more)]
        simp
  induction before with
  | nil =>
    have hhere : ¬ part.isPrefixOf [c] = true := by
      intro hpart
      rw [List.nil_append, cutAt?, if_pos hpart] at hnone
      cases hnone
    have hskip := hnot [] hhere
    rw [List.nil_append] at hskip ⊢
    rw [List.singleton_append, cutAt?, ← List.singleton_append, if_neg hskip, hmark]
    rfl
  | cons b before ih =>
    rw [List.cons_append, cutAt?] at hnone
    split at hnone
    · cases hnone
    · next hhere =>
      have hskip := hnot (b :: before) hhere
      rw [List.cons_append, List.cons_append, cutAt?] at *
      rw [if_neg hskip, ih (Option.map_eq_none_iff.mp hnone)]
      rfl

end SchemaChart.Text

namespace SchemaChart.Import

open Data (Arithmetic)
open Grammar (Place Refusal readStatement)
open Script (Statement classify splitStatements)
open Text

/-! ## Numbers behind a mark -/

theorem takeWhile_stop {p : Char → Bool} {c : Char} (hc : p c = false) (xs more : List Char) :
    (xs ++ c :: more).takeWhile p = xs.takeWhile p := by
  induction xs with
  | nil => simp [hc]
  | cons x xs ih => rw [List.cons_append, List.takeWhile_cons, List.takeWhile_cons, ih]

/-- The number behind a mark is read up to where no digit follows. -/
theorem numberBehind?_append {mark : String} {told : List Char} (hmark : holds told mark = true)
    {c : Char} (hc : c.isDigit = false) (more : List Char) :
    numberBehind? mark (told ++ c :: more) = numberBehind? mark told := by
  obtain ⟨⟨before, rest⟩, hcut⟩ := Option.isSome_iff_exists.mp hmark
  obtain ⟨-, hpart⟩ := cutAt?_eq_some hcut
  have hlength : mark.length ≤ rest.length := by
    have hle := hpart.length_le
    rwa [String.length_toList] at hle
  unfold numberBehind?
  rw [cutAt?_append hcut, hcut]
  simp only [Option.bind_some]
  rw [List.drop_append_of_le_length hlength, takeWhile_stop hc]

theorem numberBehind?_of_not_holds {mark : String} {told : List Char}
    (hmark : holds told mark = false) : numberBehind? mark told = none := by
  have hcut : cutAt? mark.toList told = none := by simpa [holds] using hmark
  rw [numberBehind?, hcut]
  rfl

/-- A mark that is the first one tells its own number, if that is not too large. -/
theorem numberBehind?_own {told : List Char} (hmark : holds (told ++ [' ']) "Line: " = false)
    (n : Nat) (more : List Char) :
    numberBehind? "Line: "
        (told ++ [' '] ++ ("Line: ".toList ++ (Nat.toDigits 10 n ++ ',' :: more))) =
      if n < Nat.pow 2 64 then some n else none := by
  have hnone : cutAt? "Line: ".toList (told ++ [' ']) = none := by
    simpa [holds] using hmark
  have hdigits : (Nat.toDigits 10 n ++ ',' :: more).takeWhile Char.isDigit = Nat.toDigits 10 n := by
    rw [takeWhile_stop (by decide)]
    exact List.takeWhile_eq_self_iff.mpr (List.all_eq_true.mp (Schema.isDigit_toDigits n))
  have hne : (Nat.toDigits 10 n).isEmpty = false := by
    simp [Nat.toDigits_ne_nil]
  unfold numberBehind?
  rw [cutAt?_behind (by decide) (by decide) hnone]
  simp only [Option.bind_some]
  have hdrop : ("Line: ".toList ++ (Nat.toDigits 10 n ++ ',' :: more)).drop "Line: ".length =
      Nat.toDigits 10 n ++ ',' :: more := rfl
  rw [hdrop, hdigits, hne, Schema.numberBelow?_digits]
  rfl

/-! ## Why statements are refused -/

/-- The place where the strict grammar stopped in a statement that is refused, if it names one. -/
def ownPlace? (s : Source) (text : List Char) : Option Place :=
  match classify text with
  | .createTable | .createIndex =>
    match readStatement s.flavor (String.ofList (s.prepare text)) with
    | .error r => r.place
    | .ok _ => none
  | _ => none

/-- How a message names a place, behind the words that lead up to it. -/
def placeText (p : Place) : String :=
  "Line: " ++ toString p.line ++ ", Column: " ++ toString p.column

theorem render_eq (p : Place) : p.render = " at " ++ placeText p := by
  have hwords : " at Line: " = " at " ++ "Line: " := by decide
  unfold Place.render placeText
  rw [hwords]
  simp only [String.append_assoc]

theorem placeText_toList (p : Place) : ∃ more, (placeText p).toList =
    "Line: ".toList ++ (Nat.toDigits 10 p.line ++ ',' :: more) := by
  refine ⟨" Column: ".toList ++ (toString p.column).toList, ?_⟩
  have hcomma : ", Column: ".toList = ',' :: " Column: ".toList := by decide
  have hline : (toString p.line).toList = Nat.toDigits 10 p.line := by
    simp [Nat.toString_eq_repr, Nat.repr]
  unfold placeText
  rw [String.toList_append, String.toList_append, String.toList_append, hline, hcomma]
  simp only [List.append_assoc, List.cons_append]

/-- The messages of the readers that have no strict grammar before them. -/
def plainReasons : List String :=
  ["unrecognized ALTER TABLE syntax", "unrecognized CREATE VIEW syntax",
    "unsupported CREATE TYPE form", "unbalanced parentheses in CREATE TYPE",
    "unsupported COMMENT ON form", "COMMENT ON COLUMN without column",
    "COMMENT ON COLUMN without table"]

section

variable {s : Source} {text : List Char}

theorem ownPlace?_eq_some {p : Place} (h : ownPlace? s text = some p) :
    ∃ r, (classify text = .createTable ∨ classify text = .createIndex) ∧
      readStatement s.flavor (String.ofList (s.prepare text)) = .error r ∧ r.place = some p := by
  have hread : (match readStatement s.flavor (String.ofList (s.prepare text)) with
      | .error r => r.place
      | .ok _ => none) = some p → ∃ r,
      readStatement s.flavor (String.ofList (s.prepare text)) = .error r ∧ r.place = some p := by
    intro hp
    split at hp
    · rename_i r hr
      exact ⟨r, hr, hp⟩
    · cases hp
  unfold ownPlace? at h
  split at h
  · rename_i hk
    obtain ⟨r, hr⟩ := hread h
    exact ⟨r, .inl hk, hr⟩
  · rename_i hk
    obtain ⟨r, hr⟩ := hread h
    exact ⟨r, .inr hk, hr⟩
  · cases h

/-- Where the grammar refuses a table or an index, it tells why. -/
theorem reason_of_refusal {r : Refusal} {message : String}
    (hk : classify text = .createTable ∨ classify text = .createIndex)
    (hr : readStatement s.flavor (String.ofList (s.prepare text)) = .error r)
    (h : reason? s text = some message) : message = refusal r.message := by
  have hstatement : oneStatement s (s.prepare text) = .error (refusal r.message) := by
    simp [oneStatement, hr]
  rw [reason?_eq_some] at h
  rcases hk with hk | hk
  · have hstrict : strictTableDeclaration s (s.prepare text) = .error (refusal r.message) := by
      rw [strictTableDeclaration, hstatement]
    rw [hk, declaration, map_eq_error, hstrict] at h
    exact strictFirst_eq_error (mapError_eq_refused h)
  · have hstrict : strictIndexDeclaration s (s.prepare text) = .error (refusal r.message) := by
      rw [strictIndexDeclaration, hstatement]
    rw [hk, declaration, map_eq_error, hstrict] at h
    exact strictFirst_eq_error (mapError_eq_refused h)

theorem alter_error_plain {e : String} (h : Reading.alterDeclaration s text = .error e) :
    e ∈ plainReasons := by
  have hread : Reading.alterTable s text = .error e := map_eq_error.mp h
  unfold Reading.alterTable at hread
  split at hread
  · obtain rfl := Except.error.inj hread
    decide
  · cases hread

theorem view_error_plain {e : String} (h : Reading.viewDeclaration s text = .error (.refused e)) :
    e ∈ plainReasons := by
  unfold Reading.viewDeclaration at h
  split at h
  · obtain rfl := Stop.refused.inj (Except.error.inj h)
    decide
  · split at h
    · cases h
    · cases h

theorem type_error_plain {e : String} (h : Reading.typeDeclaration text = .error e) :
    e ∈ plainReasons := by
  unfold Reading.typeDeclaration at h
  split at h
  · obtain rfl := Except.error.inj h
    decide
  · split at h
    · obtain rfl := Except.error.inj h
      decide
    · cases h

theorem comment_error_plain {e : String} (h : Reading.commentDeclaration text = .error e) :
    e ∈ plainReasons := by
  unfold Reading.commentDeclaration at h
  split at h
  · obtain rfl := Except.error.inj h
    decide
  · dsimp only at h
    split at h
    · cases h
    · split at h
      · obtain rfl := Except.error.inj h
        decide
      · obtain rfl := Except.error.inj h
        decide
      · cases h

theorem reason_plain {message : String} (ht : classify text ≠ .createTable)
    (hi : classify text ≠ .createIndex) (h : reason? s text = some message) :
    message ∈ plainReasons := by
  rw [reason?_eq_some] at h
  cases hk : classify text with
  | createTable => exact absurd hk ht
  | createIndex => exact absurd hk hi
  | alterTable =>
    rw [hk, declaration, map_eq_error] at h
    exact alter_error_plain (mapError_eq_refused h)
  | createView =>
    rw [hk, declaration, map_eq_error] at h
    exact view_error_plain h
  | createType =>
    rw [hk, declaration, map_eq_error] at h
    exact type_error_plain (mapError_eq_refused h)
  | commentOn =>
    rw [hk, declaration, map_eq_error] at h
    exact comment_error_plain (mapError_eq_refused h)
  | other =>
    rw [hk] at h
    cases h

/-- A message is what is told, and behind that the place where the grammar stopped. -/
theorem reason_told {message : String} (h : reason? s text = some message) :
    ∃ told, message.toList =
        told ++ ((ownPlace? s text).map fun p => (placeText p).toList).getD [] ∧
      ((ownPlace? s text).isSome = true → ∃ words, told = words ++ [' ']) := by
  cases hplace : ownPlace? s text with
  | none => exact ⟨message.toList, (List.append_nil _).symm, by simp⟩
  | some p =>
    obtain ⟨r, hk, hr, hp⟩ := ownPlace?_eq_some hplace
    have hwords : " at ".toList = " at".toList ++ [' '] := by decide
    have hmessage : message.toList =
        (refusal r.words).toList ++ " at".toList ++ [' '] ++ (placeText p).toList := by
      rw [reason_of_refusal hk hr h, List.append_assoc (refusal r.words).toList, ← hwords]
      unfold refusal Refusal.message
      rw [hp, Option.map_some, Option.getD_some, render_eq]
      simp only [String.toList_append, List.append_assoc]
    exact ⟨_, hmessage, fun _ => ⟨_, rfl⟩⟩

end

/-! ## The first failure -/

section

variable {a : Arithmetic} {s : Source} {st : Statement}

theorem failureAt_eq_ok {message : String} {f : Failure} (h : failureAt a st message = .ok f) :
    ∃ line, reportedLine a st (numberBehind? "Line: " message.toList) = .ok line ∧
      f.line = some line := by
  unfold failureAt errorPosition at h
  obtain ⟨line, hline, hf⟩ := bind_eq_ok h
  refine ⟨line, hline, ?_⟩
  rw [← Except.ok.inj hf]

/-- A line that is told is counted from where the statement starts, in machine words. -/
theorem reportedLine_eq_ok {n line : Nat} (h : reportedLine a st (some n) = .ok line)
    (hst : 1 ≤ st.line) : line = (n + st.line - 1) % Nat.pow 2 64 := by
  cases a with
  | checked =>
    rw [reportedLine_checked] at h
    split at h
    · cases h
    · rw [← Except.ok.inj h, Nat.mod_eq_of_lt (by omega)]
  | wrapping =>
    have hpos : 0 < Nat.pow 2 64 := by decide
    rw [reportedLine_wrapping] at h
    rw [← Except.ok.inj h, show n + st.line + (Nat.pow 2 64 - 1) =
      n + st.line - 1 + Nat.pow 2 64 by omega, Nat.add_mod_right]

theorem failure?_eq_some {f : Failure} (h : failure? a s st = some f) :
    reason? s st.text.toList = some f.message ∧ failureAt a st f.message = .ok f := by
  obtain ⟨message, hreason, hf⟩ := Option.bind_eq_some_iff.mp h
  have hf := eq_ok_of_toOption hf
  obtain rfl := failureAt_message hf
  exact ⟨hreason, hf⟩

theorem reason?_eq_none (hfault : fault? a s st = none) (h : failure? a s st = none) :
    reason? s st.text.toList = none := by
  rcases dispatch_cases a s st with ⟨fault, hf, -⟩ | ⟨f, -, hr, hf, -⟩ | ⟨d, -, hr, -⟩
  · simp [hf] at hfault
  · simp [failure?, hr, hf, Except.toOption] at h
  · exact hr

end

/-- The answer to a script that cannot be read is the failure of the first statement that is
refused. -/
theorem parseScript_eq_refused {a : Arithmetic} {s : Source} {cs : List Char} {d : Dialect}
    {f : Failure} (h : parseScript a s cs = .error (.refused (.parse d f))) :
    ∃ (before : List Statement) (st : Statement) (after : List Statement),
      splitStatements cs = before ++ st :: after ∧
      (∀ b ∈ before, reason? s b.text.toList = none) ∧ failure? a s st = some f := by
  obtain ⟨p, hp, hfinish⟩ := outcome_eq_refused h
  obtain ⟨hsafe, hfailures⟩ := Progress.run_failures hp
  unfold Progress.finish at hfinish
  split at hfinish
  · rename_i more _ hmore
    obtain ⟨rfl, rfl⟩ := Error.parse.inj (Except.error.inj hfinish)
    rw [hmore] at hfailures
    obtain ⟨before, st, after, hsplit, hbefore, hst, -⟩ :=
      List.filterMap_eq_cons_iff.mp hfailures.symm
    refine ⟨before, st, after, hsplit, fun b hb => ?_, hst⟩
    have hfault : fault? a s b = none := by
      refine List.findSome?_eq_none_iff.mp hsafe b ?_
      rw [hsplit]
      exact List.mem_append_left _ hb
    exact reason?_eq_none hfault (hbefore b hb)
  · cases hfinish

/-- A script breaks down over its first statement that does. -/
theorem parseScript_eq_fault {a : Arithmetic} {s : Source} {cs : List Char} {fault : Fault} :
    parseScript a s cs = .error (.fault fault) ↔
      ∃ (before : List Statement) (st : Statement) (after : List Statement),
        splitStatements cs = before ++ st :: after ∧
        (∀ b ∈ before, fault? a s b = none) ∧ fault? a s st = some fault := by
  unfold parseScript
  rw [outcome_eq_fault]
  constructor
  · intro h
    rcases hfirst : (splitStatements cs).findSome? (fault? a s) with _ | fault'
    · obtain ⟨p, -, hp, -⟩ := beside_run hfirst (beside_start s)
      rw [hp] at h
      cases h
    · rw [Progress.run_of_fault hfirst] at h
      obtain rfl := Except.error.inj h
      obtain ⟨before, st, after, hsplit, hst, hbefore⟩ :=
        List.findSome?_eq_some_iff.mp hfirst
      exact ⟨before, st, after, hsplit, hbefore, hst⟩
  · rintro ⟨before, st, after, hsplit, hbefore, hst⟩
    exact Progress.run_of_fault (List.findSome?_eq_some_iff.mpr
      ⟨before, st, after, hsplit, hst, hbefore⟩) _

/-! ## Lines in the script -/

/-- Is this the number of a line of a script. -/
def InScript (cs : List Char) (line : Nat) : Prop := 1 ≤ line ∧ line ≤ (lines cs).length

theorem InScript.le {cs : List Char} {line : Nat} (h : InScript cs line) : line ≤ cs.length := by
  refine Nat.le_trans h.2 ?_
  rcases List.eq_nil_or_concat cs with rfl | ⟨before, c, rfl⟩
  · decide
  · rw [List.concat_eq_append, length_lines_concat, List.length_append, List.length_singleton]
    exact Nat.succ_le_succ List.count_le_length

theorem inScript_start {cs : List Char} {st : Statement} (hst : st ∈ splitStatements cs) :
    InScript cs st.line := by
  obtain ⟨hfirst, hlast⟩ := Script.splitStatements_standIn hst
  exact ⟨hfirst, by omega⟩

/-- The place where the grammar stopped is in the script, counted from where its statement
starts. -/
theorem ownPlace?_inScript {s : Source} {cs : List Char} {st : Statement}
    (hst : st ∈ splitStatements cs) {p : Place} (hp : ownPlace? s st.text.toList = some p) :
    InScript cs (p.line + st.line - 1) := by
  obtain ⟨r, -, hr, hplace⟩ := ownPlace?_eq_some hp
  obtain ⟨hstart, hend⟩ := Script.splitStatements_standIn hst
  obtain ⟨hfirst, hlast⟩ := Grammar.readStatement_place hr hplace
  rw [String.toList_ofList] at hlast
  have hprepared := s.count_prepare_le st.text.toList
  exact ⟨by omega, by omega⟩

/-- The line that a message names is the one that is told in it, if it tells one, and otherwise
that of the place behind. -/
theorem numberBehind?_message {told : List Char} {place : Option Place}
    (hwords : place.isSome = true → ∃ words, told = words ++ [' ']) :
    numberBehind? "Line: " (told ++ (place.map fun p => (placeText p).toList).getD []) =
      if holds told "Line: " = true then numberBehind? "Line: " told
      else place.bind fun p => if p.line < Nat.pow 2 64 then some p.line else none := by
  cases place with
  | none =>
    rw [Option.map_none, Option.getD_none, List.append_nil]
    split
    · rfl
    · rename_i hmark
      exact numberBehind?_of_not_holds (by simpa using hmark)
  | some p =>
    obtain ⟨words, rfl⟩ := hwords rfl
    obtain ⟨more, hmore⟩ := placeText_toList p
    rw [Option.map_some, Option.getD_some, hmore]
    split
    · rename_i hmark
      exact numberBehind?_append hmark (by decide) _
    · rename_i hmark
      exact numberBehind?_own (by simpa using hmark) p.line more

/-- In a script the line of the place behind a message is always read back. -/
theorem numberBehind?_reason {s : Source} {cs : List Char} {st : Statement} {message : String}
    (hcs : cs.length + 1 < Nat.pow 2 64) (hst : st ∈ splitStatements cs)
    (h : reason? s st.text.toList = some message) :
    ∃ told, message.toList =
        told ++ ((ownPlace? s st.text.toList).map fun p => (placeText p).toList).getD [] ∧
      numberBehind? "Line: " message.toList =
        if holds told "Line: " = true then numberBehind? "Line: " told
        else (ownPlace? s st.text.toList).map (·.line) := by
  obtain ⟨told, hmessage, hwords⟩ := reason_told h
  refine ⟨told, hmessage, ?_⟩
  rw [hmessage, numberBehind?_message hwords]
  rcases hplace : ownPlace? s st.text.toList with _ | p
  · rfl
  · have hline := (ownPlace?_inScript hst hplace).le
    have hstart := (inScript_start hst).1
    rw [Option.bind_some, if_pos (show p.line < Nat.pow 2 64 by omega), Option.map_some]

section

variable {a : Arithmetic} {s : Source} {cs : List Char} {st : Statement}

/-- The line of a failure is counted from the number that is told, if one is, and otherwise it is
that of the place where the grammar stopped. -/
theorem failureAt_line (hcs : cs.length + 1 < Nat.pow 2 64) (hst : st ∈ splitStatements cs)
    {f : Failure} (hreason : reason? s st.text.toList = some f.message)
    (hf : failureAt a st f.message = .ok f) :
    ∃ told line,
      f.message.toList =
        told ++ ((ownPlace? s st.text.toList).map fun p => (placeText p).toList).getD [] ∧
      f.line = some line ∧
      (InScript cs line ↔ ∀ n, numberBehind? "Line: " told = some n →
        InScript cs ((n + st.line - 1) % Nat.pow 2 64)) ∧
      (∀ p, ownPlace? s st.text.toList = some p → holds told "Line: " = false →
        line = p.line + st.line - 1) ∧
      (classify st.text.toList ≠ .createTable → classify st.text.toList ≠ .createIndex →
        line = st.line) := by
  obtain ⟨line, hline, hfline⟩ := failureAt_eq_ok hf
  have hstart := inScript_start hst
  obtain ⟨told, hmessage, hnumber⟩ := numberBehind?_reason hcs hst hreason
  have hownline : ∀ p, ownPlace? s st.text.toList = some p → holds told "Line: " = false →
      line = p.line + st.line - 1 := by
    intro p hp hmark
    rw [hnumber, hmark, if_neg Bool.false_ne_true, hp, Option.map_some] at hline
    have hle := (ownPlace?_inScript hst hp).le
    rw [reportedLine_eq_ok hline hstart.1, Nat.mod_eq_of_lt (by omega)]
  refine ⟨told, line, hmessage, hfline, ?_, hownline, ?_⟩
  · cases hmark : holds told "Line: " with
    | true =>
      rw [hnumber, hmark, if_pos rfl] at hline
      rcases htold : numberBehind? "Line: " told with _ | n
      · rw [htold] at hline
        obtain rfl := Except.ok.inj hline
        simp [hstart]
      · rw [htold] at hline
        rw [reportedLine_eq_ok hline hstart.1]
        simp
    | false =>
      rw [numberBehind?_of_not_holds hmark]
      refine iff_of_true ?_ (by simp)
      rcases hplace : ownPlace? s st.text.toList with _ | p
      · rw [hnumber, hmark, if_neg Bool.false_ne_true, hplace, Option.map_none] at hline
        obtain rfl := Except.ok.inj hline
        exact hstart
      · rw [hownline p hplace hmark]
        exact ownPlace?_inScript hst hplace
  · intro ht hi
    have hplain : ∀ e ∈ plainReasons, numberBehind? "Line: " e.toList = none := by decide
    rw [hplain _ (reason_plain ht hi hreason)] at hline
    exact (Except.ok.inj hline).symm

/-- The line of a failure breaks an import down just if arithmetic is checked and a number is told
that is too great. -/
theorem fault?_eq_overflow (hcs : cs.length + 1 < Nat.pow 2 64) (hst : st ∈ splitStatements cs) :
    fault? a s st = some .overflow ↔ a = .checked ∧
      ∃ message told n, reason? s st.text.toList = some message ∧
        message.toList =
          told ++ ((ownPlace? s st.text.toList).map fun p => (placeText p).toList).getD [] ∧
        numberBehind? "Line: " told = some n ∧ Nat.pow 2 64 ≤ n + st.line := by
  constructor
  · intro h
    rcases fault?_eq_some.mp h with ⟨hcut, -⟩ | ⟨-, ha, message, n, hreason, hn, hout⟩
    · cases hcut
    · obtain ⟨told, hmessage, hnumber⟩ := numberBehind?_reason hcs hst hreason
      have hfirst := (inScript_start hst).1
      refine ⟨ha, message, told, n, hreason, hmessage, ?_, by omega⟩
      rw [hnumber] at hn
      split at hn
      · exact hn
      · -- the place where the grammar stopped is too near to lead out of the words
        obtain ⟨p, hp, hpn⟩ := Option.map_eq_some_iff.mp hn
        have hle := (ownPlace?_inScript hst hp).le
        omega
  · rintro ⟨ha, message, told, n, hreason, hmessage, hn, hout⟩
    obtain ⟨told', hmessage', hnumber⟩ := numberBehind?_reason hcs hst hreason
    obtain rfl : told' = told := List.append_cancel_right (hmessage'.symm.trans hmessage)
    have hmark : holds told' "Line: " = true := by
      by_contra hmark
      rw [numberBehind?_of_not_holds (by simpa using hmark)] at hn
      cases hn
    rw [hmark, if_pos rfl, hn] at hnumber
    exact fault?_eq_some.mpr (.inr ⟨rfl, ha, message, n, hreason, hnumber, .inr hout⟩)

end

/-- The line that is reported for a script belongs to the first statement that is refused. That
statement starts in the script, and the place where the strict grammar stopped is in the script
too. But it is the message that is searched for a line: what is told before that place, texts of
the script among it, comes first. So the line is in the script just if no number behind the first
`Line: ` that is told leads out of it. Only messages about tables and indexes can tell one. A number
that is told may be too great to be counted from the start of the statement: where arithmetic is
checked, this and nothing else is why the line of a failure breaks an import down. -/
theorem lines_are_in_the_script_unless_one_is_told (a : Arithmetic) (s : Source) {cs : List Char}
    (hcs : cs.length < Nat.pow 2 63) :
    (∀ d f, parseScript a s cs = .error (.refused (.parse d f)) →
      ∃ (before : List Statement) (st : Statement) (after : List Statement),
        splitStatements cs = before ++ st :: after ∧
        (∀ b ∈ before, reason? s b.text.toList = none) ∧
        reason? s st.text.toList = some f.message ∧ InScript cs st.line ∧
        (∀ p, ownPlace? s st.text.toList = some p → InScript cs (p.line + st.line - 1)) ∧
        ∃ told line,
          f.message.toList =
            told ++ ((ownPlace? s st.text.toList).map fun p => (placeText p).toList).getD [] ∧
          f.line = some line ∧
          (InScript cs line ↔ ∀ n, numberBehind? "Line: " told = some n →
            InScript cs ((n + st.line - 1) % Nat.pow 2 64)) ∧
          (∀ p, ownPlace? s st.text.toList = some p → holds told "Line: " = false →
            line = p.line + st.line - 1) ∧
          (classify st.text.toList ≠ .createTable → classify st.text.toList ≠ .createIndex →
            line = st.line)) ∧
    (parseScript a s cs = .error (.fault .overflow) ↔ a = .checked ∧
      ∃ (before : List Statement) (st : Statement) (after : List Statement),
        splitStatements cs = before ++ st :: after ∧
        (∀ b ∈ before, fault? a s b = none) ∧
        ∃ message told n, reason? s st.text.toList = some message ∧
          message.toList =
            told ++ ((ownPlace? s st.text.toList).map fun p => (placeText p).toList).getD [] ∧
          numberBehind? "Line: " told = some n ∧ Nat.pow 2 64 ≤ n + st.line) := by
  have hword : cs.length + 1 < Nat.pow 2 64 := by
    have htwice : Nat.pow 2 64 = Nat.pow 2 63 + Nat.pow 2 63 := rfl
    omega
  constructor
  · intro d f h
    obtain ⟨before, st, after, hsplit, hbefore, hfailure⟩ := parseScript_eq_refused h
    obtain ⟨hreason, hf⟩ := failure?_eq_some hfailure
    have hst : st ∈ splitStatements cs := by simp [hsplit]
    exact ⟨before, st, after, hsplit, hbefore, hreason, inScript_start hst,
      fun p hp => ownPlace?_inScript hst hp, failureAt_line hword hst hreason hf⟩
  · rw [parseScript_eq_fault]
    constructor
    · rintro ⟨before, st, after, hsplit, hbefore, hfault⟩
      obtain ⟨ha, htold⟩ := (fault?_eq_overflow hword (by simp [hsplit])).mp hfault
      exact ⟨ha, before, st, after, hsplit, hbefore, htold⟩
    · rintro ⟨ha, before, st, after, hsplit, hbefore, htold⟩
      exact ⟨before, st, after, hsplit, hbefore,
        (fault?_eq_overflow hword (by simp [hsplit])).mpr ⟨ha, htold⟩⟩

/-- A script of one line that the grammar refuses for the text at its end. -/
def misleading : Statement := ⟨"CREATE TABLE t 'Line: 9'", 1⟩

def misled : Failure :=
  ⟨"sql parser error: Expected: end of statement, found: 'Line: 9' at Line: 1, Column: 16",
    some 9, some 16⟩

/-- The same on the third line of a script, with the greatest machine word. -/
def overflowing : Statement := ⟨"CREATE TABLE t 'Line: 18446744073709551615'", 3⟩

/-- The grammar says that it stopped on line 1, and line 9 is reported: it is told in the words
before. The greatest machine word, told on the third line, is too great. -/
theorem a_quoted_text_names_a_line :
    (parseScript .checked .postgresql misleading.text.toList =
        .error (.refused (.parse .postgresql misled)) ∧
      ¬ InScript misleading.text.toList 9 ∧
      ∃ told, misled.message.toList = told ++ "Line: 1, Column: 16".toList ∧
        ∃ n, numberBehind? "Line: " told = some n ∧
          ¬ InScript misleading.text.toList ((n + misleading.line - 1) % Nat.pow 2 64)) ∧
    parseScript .checked .postgresql ("\n\n" ++ overflowing.text).toList =
        .error (.fault .overflow) ∧
      ∃ told n, numberBehind? "Line: " told = some n ∧ Nat.pow 2 64 ≤ n + overflowing.line := by
  refine ⟨?_, ?_⟩
  · have hparse : parseScript .checked .postgresql misleading.text.toList =
        .error (.refused (.parse .postgresql misled)) := by decide +kernel
    have hsplit : splitStatements misleading.text.toList = [misleading] := by decide +kernel
    have hplace : ownPlace? .postgresql misleading.text.toList = some ⟨1, 16⟩ := by decide +kernel
    have hout : ¬ InScript misleading.text.toList 9 := by
      unfold InScript
      decide +kernel
    obtain ⟨before, st, after, hst, -, -, -, -, told, line, hmessage, hline, hiff, -⟩ :=
      (lines_are_in_the_script_unless_one_is_told .checked .postgresql
        (by decide +kernel)).1 _ _ hparse
    obtain ⟨rfl, rfl⟩ : before = [] ∧ st = misleading := by
      rw [hsplit] at hst
      cases before with
      | nil => exact ⟨rfl, (List.cons.inj hst).1.symm⟩
      | cons b before => simp at hst
    obtain rfl : 9 = line := Option.some.inj hline
    have hshown : placeText ⟨1, 16⟩ = "Line: 1, Column: 16" := by decide +kernel
    rw [hplace, Option.map_some, Option.getD_some, hshown] at hmessage
    refine ⟨hparse, hout, told, hmessage, ?_⟩
    simpa using mt hiff.mpr hout
  · have hfault : parseScript .checked .postgresql ("\n\n" ++ overflowing.text).toList =
        .error (.fault .overflow) := by decide +kernel
    have hsplit : splitStatements ("\n\n" ++ overflowing.text).toList = [overflowing] := by
      decide +kernel
    obtain ⟨-, before, st, after, hst, -, -, told, n, -, -, htold, hout⟩ :=
      (lines_are_in_the_script_unless_one_is_told .checked .postgresql
        (by decide +kernel)).2.mp hfault
    obtain rfl : st = overflowing := by
      have hmem : st ∈ [overflowing] := by
        rw [← hsplit, hst]
        simp
      exact List.mem_singleton.mp hmem
    exact ⟨hfault, told, n, htold, hout⟩

end SchemaChart.Import
