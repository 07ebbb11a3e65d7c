-- Dumps against scripts. A dump is read kind by kind, and its alterations wait until all of them
-- are known; a script is read statement by statement. Where a dump already stands in the order of
-- its kinds, both lead to the same schema.
import SchemaChart.Proofs.FailedStatements

namespace SchemaChart.Import

open Data (Arithmetic)
open Schema (Alteration Builder Declaration TableRef)
open Script (Statement classify)

/-! ## The order of a dump -/

/-- The part of a dump that statements of a kind belong to. Statements that declare nothing may
stand anywhere. -/
def partOf? : Script.Kind → Option Nat
  | .createType | .createTable => some 0
  | .createIndex => some 1
  | .alterTable => some 2
  | .createView | .commentOn => some 3
  | .other => none

def part? (st : Statement) : Option Nat := partOf? (classify st.text.toList)

/-- The changes of an alteration, each with its table; none if it cannot be read. -/
def changesOf (s : Source) (st : Statement) : Changes :=
  match Reading.alterTable s (s.prepare st.text.toList) with
  | .ok (r, changes) => changes.map (r, ·)
  | .error _ => []

/-- The changes of all alterations among statements. -/
def allChanges (s : Source) (sts : List Statement) : Changes :=
  (sts.filter (part? · == some 2)).flatMap (changesOf s)

/-- Do types and tables come before indexes, these before alterations, and these before views and
comments; and does no change come behind one of a later phase. -/
structure InPhaseOrder (s : Source) (sts : List Statement) : Prop where
  parts : (sts.filterMap part?).Pairwise (· ≤ ·)
  phases : ((allChanges s sts).map (·.2.phase)).Pairwise (· ≤ ·)

/-! ## Lists that are in order -/

theorem filter_lt_succ {key : α → Option Nat} {xs : List α}
    (h : (xs.filterMap key).Pairwise (· ≤ ·)) (n : Nat) :
    xs.filter (fun x => (key x).any (· < n + 1)) =
      xs.filter (fun x => (key x).any (· < n)) ++ xs.filter (key · == some n) := by
  induction xs with
  | nil => rfl
  | cons x xs ih =>
    rcases hx : key x with _ | k
    · rw [List.filterMap_cons_none hx] at h
      simpa [hx] using ih h
    · rw [List.filterMap_cons_some hx] at h
      obtain ⟨hk, h⟩ := List.pairwise_cons.mp h
      simp only [List.filter_cons, hx, Option.any_some, decide_eq_true_eq, Option.some_beq_some,
        beq_iff_eq, ih h]
      rcases Nat.lt_trichotomy k n with hlt | rfl | hgt
      · rw [if_pos (by omega), if_pos hlt, if_neg (by omega), List.cons_append]
      · -- nothing behind an item is smaller than it
        have hnone : xs.filter (fun y => (key y).any (· < k)) = [] := by
          refine List.filter_eq_nil_iff.mpr fun y hy => ?_
          rcases hj : key y with _ | j
          · simp
          · have hle : k ≤ j := hk j (List.mem_filterMap.mpr ⟨y, hy, hj⟩)
            simpa using hle
        rw [if_pos (by omega), if_neg (by omega), if_pos rfl, hnone, List.nil_append,
          List.nil_append]
      · rw [if_neg (by omega), if_neg (by omega), if_neg (by omega)]

/-- Items that stand in the order of their keys are not moved when they are sorted into groups. -/
theorem flatMap_groups {key : α → Option Nat} {xs : List α}
    (h : (xs.filterMap key).Pairwise (· ≤ ·)) (n : Nat) :
    (List.range n).flatMap (fun i => xs.filter (key · == some i)) =
      xs.filter (fun x => (key x).any (· < n)) := by
  induction n with
  | zero => simp
  | succ n ih => rw [List.range_succ, List.flatMap_append, List.flatMap_singleton, ih,
      filter_lt_succ h]

theorem phase_lt (a : Alteration) : a.phase < 3 := by
  unfold Alteration.phase
  split
  all_goals decide

theorem byPhase_eq_self {changes : Changes} (h : (changes.map (·.2.phase)).Pairwise (· ≤ ·)) :
    byPhase changes = changes := by
  have hsorted : (changes.filterMap fun c => some c.2.phase).Pairwise (· ≤ ·) := by
    rwa [List.filterMap_eq_map']
  have hgroups := flatMap_groups hsorted 3
  have hall : changes.filter (fun c => (some c.2.phase).any (· < 3)) = changes :=
    List.filter_eq_self.mpr fun c _ => by simpa using phase_lt c.2
  exact hgroups.trans hall

/-- The statements of a dump that is in order are, part after part, those that declare something. -/
theorem parts_eq {sts : List Statement} (h : (sts.filterMap part?).Pairwise (· ≤ ·)) :
    [0, 1, 2, 3].flatMap (fun i => sts.filter (part? · == some i)) =
      sts.filter (fun st => (part? st).isSome) := by
  have hgroups := flatMap_groups h 4
  have hall : sts.filter (fun st => (part? st).any (· < 4)) =
      sts.filter (fun st => (part? st).isSome) := by
    refine List.filter_congr fun st _ => ?_
    unfold part?
    cases classify st.text.toList <;> rfl
  exact hgroups.trans hall

theorem filter_kinds_eq (sts : List Statement) {ks : List Script.Kind} {i : Nat}
    (h : ∀ k, ks.contains k = (partOf? k == some i)) :
    sts.filter (fun st => ks.contains (classify st.text.toList)) =
      sts.filter (part? · == some i) :=
  List.filter_congr fun _ _ => h _

/-! ## Runs that differ in the order of their warnings -/

/-- A schema under construction without what was said about it. -/
def silent (b : Builder) : Builder := { b with warnings := [] }

theorem eq_afterWarnings (b : Builder) : b = (silent b).afterWarnings b.warnings := by
  simp [silent, Builder.afterWarnings]

/-- Two stages of a run that are the same but for the order of their warnings. -/
structure Alike (p q : Progress) : Prop where
  same : silent p.builder = silent q.builder
  warnings : p.builder.warnings.Perm q.builder.warnings
  failures : p.failures = q.failures

namespace Alike

variable {p q r : Progress}

theorem refl (p : Progress) : Alike p p := ⟨rfl, .refl _, rfl⟩

theorem trans (h : Alike p q) (h' : Alike q r) : Alike p r :=
  ⟨h.same.trans h'.same, h.warnings.trans h'.warnings, h.failures.trans h'.failures⟩

theorem declare (h : Alike p q) (d : Declaration) : Alike (p.declare d) (q.declare d) := by
  have hp : (p.declare d).builder =
      ((silent p.builder).declare d).afterWarnings p.builder.warnings := by
    rw [← Builder.declare_afterWarnings, ← eq_afterWarnings]
    rfl
  have hq : (q.declare d).builder =
      ((silent p.builder).declare d).afterWarnings q.builder.warnings := by
    rw [h.same, ← Builder.declare_afterWarnings, ← eq_afterWarnings]
    rfl
  refine ⟨?_, ?_, h.failures⟩
  · rw [hp, hq]
    rfl
  · rw [hp, hq]
    exact h.warnings.append_right _

theorem fail (h : Alike p q) (st : Statement) (f : Failure) : Alike (p.fail st f) (q.fail st f) :=
  ⟨h.same, h.warnings.append_right _, congrArg (· ++ [f]) h.failures⟩

end Alike

/-- Two runs that break down alike, or come to stages that are alike. -/
def AlikeRuns : Except Fault Progress → Except Fault Progress → Prop
  | .ok p, .ok q => Alike p q
  | .error fault, .error fault' => fault = fault'
  | _, _ => False

theorem AlikeRuns.refl (x : Except Fault Progress) : AlikeRuns x x := by
  rcases x with fault | p
  · exact rfl
  · exact Alike.refl p

theorem AlikeRuns.bind {x y : Except Fault Progress} {f g : Progress → Except Fault Progress}
    (h : AlikeRuns x y) (hnext : ∀ p q, Alike p q → AlikeRuns (f p) (g q)) :
    AlikeRuns (x >>= f) (y >>= g) := by
  rcases x with fault | p
  · rcases y with fault' | q
    · exact h
    · cases h
  · rcases y with fault' | q
    · cases h
    · exact hnext p q h

namespace Alike

variable {p q : Progress}

theorem step (h : Alike p q) (a : Arithmetic) (s : Source) (st : Statement) :
    AlikeRuns (p.step a s st) (q.step a s st) := by
  rcases Progress.step_cases a s st with ⟨fault, -, hstep⟩ | ⟨f, -, -, -, hstep⟩ | ⟨d, -, -, hstep⟩
  · rw [hstep, hstep]
    exact rfl
  · rw [hstep, hstep]
    exact h.fail st f
  · rw [hstep, hstep]
    cases d with
    | none => exact h
    | some d => exact h.declare d

theorem run (h : Alike p q) (a : Arithmetic) (s : Source) (sts : List Statement) :
    AlikeRuns (p.run a s sts) (q.run a s sts) := by
  induction sts generalizing p q with
  | nil => exact h
  | cons st sts ih =>
    rw [Progress.run_cons, Progress.run_cons]
    exact (h.step a s st).bind fun _ _ h' => ih h'

end Alike

/-! ## Alterations that wait -/

theorem makeChanges_append (p : Progress) (xs ys : Changes) :
    makeChanges p (xs ++ ys) = makeChanges (makeChanges p xs) ys := by
  simp [makeChanges]

theorem makeChanges_map (p : Progress) (r : TableRef) (changes : List Alteration) :
    makeChanges p (changes.map (r, ·)) = p.declare (.alter r changes) := by
  simp [makeChanges, Progress.declare, Builder.declare, List.foldl_map]

/-- What changes do, and what they have to say, does not depend on what was said before. -/
theorem makeChanges_builder (p : Progress) (changes : Changes) :
    (makeChanges p changes).builder =
      (makeChanges ⟨silent p.builder, []⟩ changes).builder.afterWarnings p.builder.warnings := by
  have hfold := Builder.foldl_afterWarnings p.builder.warnings (silent p.builder)
    (f := fun b (c : TableRef × Alteration) => b.alter c.1 c.2)
    (fun b c => Builder.alter_afterWarnings _ b c.1 c.2) changes
  rwa [← eq_afterWarnings] at hfold

/-- A failure that is noted before changes are made instead of behind them moves one warning. -/
theorem makeChanges_fail (p : Progress) (changes : Changes) (st : Statement) (f : Failure) :
    Alike (makeChanges (p.fail st f) changes) ((makeChanges p changes).fail st f) := by
  have hbefore := makeChanges_builder (p.fail st f) changes
  have hbehind := congrArg (Builder.warn · (skipped st f.message)) (makeChanges_builder p changes)
  change (makeChanges (p.fail st f) changes).builder =
    (makeChanges ⟨silent p.builder, []⟩ changes).builder.afterWarnings
      (p.builder.warnings ++ [_]) at hbefore
  change ((makeChanges p changes).fail st f).builder = _ at hbehind
  generalize (makeChanges ⟨silent p.builder, []⟩ changes).builder = b at hbefore hbehind
  refine ⟨?_, ?_, rfl⟩
  · rw [hbefore, hbehind]
    rfl
  · rw [hbefore, hbehind]
    simp only [Builder.warn, Builder.afterWarnings, List.append_assoc]
    exact List.perm_append_comm.append_left _

theorem read_alterTable {s : Source} {st : Statement} (h : part? st = some 2) :
    read s st = match Reading.alterTable s (s.prepare st.text.toList) with
      | .ok (r, changes) => .ok (some (.alter r changes))
      | .error e => .error (.refused e) := by
  have hkind : classify st.text.toList = .alterTable := by
    unfold part? at h
    cases hk : classify st.text.toList <;> simp_all [partOf?]
  unfold read
  simp only [hkind, declaration, Reading.alterDeclaration]
  cases Reading.alterTable s (s.prepare st.text.toList) with
  | ok found => rfl
  | error e => rfl

/-- The one reason to refuse an alteration names no line, so that it is reported where the
statement starts. -/
theorem failureAt_alterTable {a : Arithmetic} {s : Source} {st : Statement} {cs : List Char}
    {e : String} (h : Reading.alterTable s cs = .error e) :
    failureAt a st e = .ok ⟨e, some st.line, (errorPosition e.toList).2⟩ := by
  unfold Reading.alterTable at h
  split at h
  · obtain rfl := Except.error.inj h
    have hline : (errorPosition "unrecognized ALTER TABLE syntax".toList).1 = none := by decide
    unfold failureAt
    dsimp only
    rw [hline]
    rfl
  · cases h

theorem gatherStep_snd (s : Source) (st : Statement) (acc : Progress × Changes) :
    (gatherStep s acc st).2 = acc.2 ++ changesOf s st := by
  unfold gatherStep changesOf
  cases Reading.alterTable s (s.prepare st.text.toList) with
  | ok found => rfl
  | error e => simp

theorem gather_snd (s : Source) (sts : List Statement) (acc : Progress × Changes) :
    (sts.foldl (gatherStep s) acc).2 = acc.2 ++ sts.flatMap (changesOf s) := by
  induction sts generalizing acc with
  | nil => simp
  | cons st sts ih =>
    rw [List.foldl_cons, ih, gatherStep_snd, List.flatMap_cons, List.append_assoc]

/-- What waits leads to the same, once it is done, as what is done at once. -/
theorem gatherStep_alike (a : Arithmetic) {s : Source} {st : Statement} (h : part? st = some 2)
    {acc : Progress × Changes} {p : Progress} (hp : Alike (makeChanges acc.1 acc.2) p) :
    ∃ q, p.step a s st = .ok q ∧
      Alike (makeChanges (gatherStep s acc st).1 (gatherStep s acc st).2) q := by
  obtain ⟨p₀, changes₀⟩ := acc
  unfold gatherStep
  rw [Progress.step_eq, read_alterTable h]
  rcases he : Reading.alterTable s (s.prepare st.text.toList) with e | ⟨r, changes⟩
  · let f : Failure := ⟨e, some st.line, (errorPosition e.toList).2⟩
    refine ⟨p.fail st f, ?_, ?_⟩
    · dsimp only
      rw [failureAt_alterTable he]
      rfl
    · exact (makeChanges_fail p₀ changes₀ st f).trans (hp.fail st f)
  · refine ⟨p.declare (.alter r changes), rfl, ?_⟩
    dsimp only
    rw [makeChanges_append, makeChanges_map]
    exact hp.declare _

theorem gather_alike (a : Arithmetic) {s : Source} {sts : List Statement}
    (h : ∀ st ∈ sts, part? st = some 2) {acc : Progress × Changes} {p : Progress}
    (hp : Alike (makeChanges acc.1 acc.2) p) :
    ∃ q, p.run a s sts = .ok q ∧
      Alike (makeChanges (sts.foldl (gatherStep s) acc).1 (sts.foldl (gatherStep s) acc).2) q := by
  induction sts generalizing acc p with
  | nil => exact ⟨p, rfl, hp⟩
  | cons st sts ih =>
    obtain ⟨hst, hsts⟩ := List.forall_mem_cons.mp h
    obtain ⟨p', hp', halike⟩ := gatherStep_alike a hst hp
    rw [Progress.run_cons, hp']
    exact ih hsts halike

/-- Alterations whose changes stand in the order of their phases may as well be made one by one. -/
theorem gather_byPhase_alike (a : Arithmetic) {s : Source} {sts : List Statement}
    (h : ∀ st ∈ sts, part? st = some 2)
    (hphases : ((sts.flatMap (changesOf s)).map (·.2.phase)).Pairwise (· ≤ ·)) {p q : Progress}
    (hpq : Alike p q) :
    ∃ q', q.run a s sts = .ok q' ∧
      Alike (makeChanges (sts.foldl (gatherStep s) (p, [])).1
        (byPhase (sts.foldl (gatherStep s) (p, [])).2)) q' := by
  obtain ⟨q', hq', halike⟩ := @gather_alike a s sts h (p, []) q hpq
  refine ⟨q', hq', ?_⟩
  rw [gather_snd, List.nil_append] at halike ⊢
  rwa [byPhase_eq_self hphases]

/-! ## Whole dumps -/

theorem step_of_no_part (a : Arithmetic) {s : Source} {st : Statement}
    (h : (part? st).isSome = false) (p : Progress) : p.step a s st = .ok p := by
  have hkind : classify st.text.toList = .other := by
    unfold part? at h
    cases hk : classify st.text.toList <;> simp_all [partOf?]
  rw [Progress.step_eq, read, hkind]
  rfl

theorem run_filter_parts (a : Arithmetic) (s : Source) (sts : List Statement) (p : Progress) :
    p.run a s (sts.filter fun st => (part? st).isSome) = p.run a s sts := by
  induction sts generalizing p with
  | nil => rfl
  | cons st sts ih =>
    rw [Progress.run_cons]
    rcases h : (part? st).isSome with _ | _
    · rw [List.filter_cons_of_neg (by simp [h]), ih, step_of_no_part a h]
      rfl
    · rw [List.filter_cons_of_pos (by simp [h]), Progress.run_cons]
      exact congrArg (p.step a s st >>= ·) (funext ih)

theorem runDump_alike (a : Arithmetic) {s : Source} {sts : List Statement}
    (h : InPhaseOrder s sts) :
    AlikeRuns (runDump a s sts) ((Progress.start s).run a s sts) := by
  have hscript : (Progress.start s).run a s sts =
      ((Progress.start s).run a s (sts.filter (part? · == some 0)) >>= fun defined =>
        defined.run a s (sts.filter (part? · == some 1)) >>= fun indexed =>
          indexed.run a s (sts.filter (part? · == some 2)) >>= fun changed =>
            changed.run a s (sts.filter (part? · == some 3))) := by
    rw [← run_filter_parts, ← parts_eq h.parts]
    simp [Progress.run_append]
  have halters : ∀ st ∈ sts.filter (part? · == some 2), part? st = some 2 :=
    fun st hst => by simpa using (List.mem_filter.mp hst).2
  rw [hscript]
  unfold runDump
  dsimp only
  rw [filter_kinds_eq sts (i := 0) (fun k => by cases k <;> rfl),
    filter_kinds_eq sts (i := 1) (fun k => by cases k <;> rfl),
    filter_kinds_eq sts (i := 2) (fun k => by cases k <;> rfl),
    filter_kinds_eq sts (i := 3) (fun k => by cases k <;> rfl)]
  refine (AlikeRuns.refl _).bind fun p q hpq => (hpq.run a s _).bind fun p q hpq => ?_
  obtain ⟨changed, hchanged, halike⟩ := gather_byPhase_alike a halters h.phases hpq
  rw [hchanged]
  exact halike.run a s _

/-- A dump whose statements stand in the order of their kinds, and whose changes stand in the order
of their phases, leads to the same schema and the same failures as the script of these statements,
and breaks down as the script does. Only a warning about an alteration that cannot be read may stand
elsewhere: it does not wait for the changes. -/
theorem dumps_in_order_are_read_like_scripts (a : Arithmetic) (s : Source) (sts : List Statement)
    (h : InPhaseOrder s sts) :
    (∀ fault, runDump a s sts = .error fault ↔ (Progress.start s).run a s sts = .error fault) ∧
    ∀ dump script, runDump a s sts = .ok dump → (Progress.start s).run a s sts = .ok script →
      dump.builder.tables = script.builder.tables ∧ dump.builder.types = script.builder.types ∧
        dump.builder.pending = script.builder.pending ∧ dump.failures = script.failures ∧
        dump.builder.warnings.Perm script.builder.warnings := by
  have halike := runDump_alike a h
  constructor
  · generalize runDump a s sts = x at halike
    generalize (Progress.start s).run a s sts = y at halike
    rcases x with fault | dump
    · rcases y with fault' | script
      · obtain rfl : fault = fault' := halike
        exact fun _ => Iff.rfl
      · cases halike
    · rcases y with fault' | script
      · cases halike
      · simp
  · intro dump script hdump hscript
    rw [hdump, hscript] at halike
    obtain ⟨hsame, hwarnings, hfailures⟩ := halike
    have htables := congrArg Builder.tables hsame
    have htypes := congrArg Builder.types hsame
    have hpending := congrArg Builder.pending hsame
    exact ⟨htables, htypes, hpending, hfailures, hwarnings⟩

/-- A dump with an alteration of an unknown table, and behind it one that cannot be read. -/
def dumpWithGaps : List Statement :=
  [⟨"CREATE TABLE t (a int)", 1⟩, ⟨"SET x = 1", 2⟩, ⟨"ALTER TABLE u ADD PRIMARY KEY (a)", 3⟩,
    ⟨"ALTER TABLE", 4⟩, ⟨"ALTER TABLE t ADD UNIQUE (a), ADD COLUMN c int REFERENCES u (a)", 5⟩]

theorem an_unreadable_alteration_moves_its_warning :
    InPhaseOrder .mysql dumpWithGaps ∧
      ∃ dump script, runDump .checked .mysql dumpWithGaps = .ok dump ∧
        (Progress.start .mysql).run .checked .mysql dumpWithGaps = .ok script ∧
        dump.builder.warnings ≠ script.builder.warnings ∧
        dump.builder.tables = script.builder.tables ∧
        dump.builder.warnings.Perm script.builder.warnings := by
  have horder : InPhaseOrder .mysql dumpWithGaps := ⟨by decide +kernel, by decide +kernel⟩
  have hdump : (runDump .checked .mysql dumpWithGaps).toOption.map (·.builder.warnings) =
      some ["Skipped statement at line 4: unrecognized ALTER TABLE syntax",
        "ALTER TABLE references unknown table u, skipped"] := by decide +kernel
  have hscript : ((Progress.start .mysql).run .checked .mysql dumpWithGaps).toOption.map
      (·.builder.warnings) =
      some ["ALTER TABLE references unknown table u, skipped",
        "Skipped statement at line 4: unrecognized ALTER TABLE syntax"] := by decide +kernel
  obtain ⟨dump, hdump, hmoved⟩ := Option.map_eq_some_iff.mp hdump
  obtain ⟨script, hscript, hinline⟩ := Option.map_eq_some_iff.mp hscript
  have hdump := eq_ok_of_toOption hdump
  have hscript := eq_ok_of_toOption hscript
  have hread := (dumps_in_order_are_read_like_scripts .checked .mysql dumpWithGaps horder).2
    dump script hdump hscript
  refine ⟨horder, dump, script, hdump, hscript, ?_, hread.1, hread.2.2.2.2⟩
  rw [hmoved, hinline]
  decide

end SchemaChart.Import
