-- Where scans cut a text, and where they stand behind it: exact conditions for a text to be cut at
-- one place only, and for a group to be closed behind a text.
import Mathlib.Algebra.GroupWithZero.Nat
import Mathlib.Data.List.Basic
import SchemaChart.Proofs.Scanning

namespace SchemaChart.Text

/-! ## Where a scan cuts -/

namespace Grouping

variable (g : Grouping) {sep : Char → Bool} {n : Nesting} {c : Char} {x y cs : List Char}

/-- Does a scan that stands at `n` cut a text nowhere. -/
def uncut (sep : Char → Bool) (n : Nesting) : List Char → Bool
  | [] => true
  | c :: cs => !g.cuts sep n c && uncut sep (g.step n c) cs

/-- Where a scan stands behind a text. -/
def behind (n : Nesting) (cs : List Char) : Nesting := cs.foldl g.step n

theorem behind_cons : g.behind n (c :: cs) = g.behind (g.step n c) cs := rfl

theorem segments_ne_nil (sep : Char → Bool) (n : Nesting) (cs : List Char) :
    g.segments sep n cs ≠ [] := by
  cases cs with
  | nil => simp [segments]
  | cons c cs =>
    unfold segments
    split
    · simp
    · rcases g.segments sep (g.step n c) cs with _ | ⟨p, ps⟩
      · simp [consHead]
      · simp [consHead]

theorem consHead_eq_iff {ws : List (List Char)} (hws : ws ≠ []) {p : List Char}
    {ps : List (List Char)} : consHead c ws = (c :: p) :: ps ↔ ws = p :: ps := by
  obtain ⟨w, ws, rfl⟩ := List.exists_cons_of_ne_nil hws
  simp [consHead]

theorem consHead_ne_nil_cons {ws ps : List (List Char)} : consHead c ws ≠ [] :: ps := by
  cases ws with
  | nil => simp [consHead]
  | cons w ws => simp [consHead]

theorem segments_eq_whole_iff : g.segments sep n cs = [cs] ↔ g.uncut sep n cs = true := by
  induction cs generalizing n with
  | nil => simp [segments, uncut]
  | cons c cs ih =>
    unfold segments uncut
    rcases g.cuts sep n c with _ | _
    · simp [consHead_eq_iff (g.segments_ne_nil _ _ _), ih]
    · simp

/-- A text is cut at one place just if the scan cuts there, and neither before nor behind it. -/
theorem segments_eq_pair_iff :
    g.segments sep n (x ++ c :: y) = [x, y] ↔
      g.uncut sep n x = true ∧ g.cuts sep (g.behind n x) c = true ∧
        g.uncut sep (g.behind n x) y = true := by
  induction x generalizing n with
  | nil =>
    rw [List.nil_append]
    unfold segments
    rcases h : g.cuts sep n c with _ | _
    · simp [uncut, behind, h, consHead_ne_nil_cons]
    · simp [uncut, behind, h, segments_eq_whole_iff]
  | cons a x ih =>
    rw [List.cons_append, behind_cons, segments, uncut]
    rcases h : g.cuts sep n a with _ | _
    · simp [consHead_eq_iff (g.segments_ne_nil _ _ _), ih]
    · simp

/-- The pieces of a text with the separator between them are the text. -/
theorem intercalate_segments (c : Char) (n : Nesting) (cs : List Char) :
    [c].intercalate (g.segments (· == c) n cs) = cs := by
  induction cs generalizing n with
  | nil => simp [segments]
  | cons a cs ih =>
    have hne := g.segments_ne_nil (· == c)
    unfold segments
    split
    · rename_i hcut
      have ha : a = c := by
        simp only [cuts, Bool.and_eq_true, beq_iff_eq] at hcut
        exact hcut.2
      obtain ⟨w, ws, hws⟩ := List.exists_cons_of_ne_nil (hne n cs)
      have ih := ih n
      rw [hws] at ih
      rw [hws, List.intercalate_cons_cons, ih, ha]
      rfl
    · obtain ⟨w, ws, hws⟩ := List.exists_cons_of_ne_nil (hne (g.step n a) cs)
      have ih := ih (g.step n a)
      rw [hws] at ih
      rw [hws, consHead]
      cases ws with
      | nil => rw [List.intercalate_singleton] at ih ⊢; rw [ih]
      | cons v vs =>
        rw [List.intercalate_cons_cons] at ih ⊢
        rw [List.append_assoc, List.cons_append, ← List.append_assoc, ih]

end Grouping

/-! ## Separators counted -/

section

variable {c : Char}

theorem count_intercalate {ws : List (List Char)} (hws : ws ≠ []) :
    ([c].intercalate ws).count c + 1 = (ws.map (·.count c)).sum + ws.length := by
  induction ws with
  | nil => exact absurd rfl hws
  | cons w ws ih =>
    cases ws with
    | nil => simp
    | cons v vs =>
      have ih := ih (by simp)
      rw [List.intercalate_cons_cons, List.count_append, List.count_append,
        List.count_singleton_self, List.map_cons, List.sum_cons, List.length_cons]
      omega

theorem eq_of_count {x y x' y' : List Char} (h : x ++ c :: y = x' ++ c :: y')
    (hcount : x.count c = x'.count c) : x = x' ∧ y = y' := by
  induction x generalizing x' with
  | nil =>
    cases x' with
    | nil => exact ⟨rfl, (List.cons.inj h).2⟩
    | cons a x' =>
      obtain ⟨rfl, _⟩ := List.cons.inj h
      simp at hcount
  | cons a x ih =>
    cases x' with
    | nil =>
      obtain ⟨rfl, _⟩ := List.cons.inj h
      simp at hcount
    | cons a' x' =>
      obtain ⟨rfl, htail⟩ := List.cons.inj h
      obtain ⟨rfl, rfl⟩ := ih htail (by simpa [List.count_cons] using hcount)
      exact ⟨rfl, rfl⟩

/-- Reading the pieces of a text drops no separator that stands in them. -/
theorem sum_count_parts {f : List Char → List Char} (hf : ∀ w, (f w).count c = w.count c)
    (ws : List (List Char)) :
    (((ws.map f).filter (!·.isEmpty)).map (·.count c)).sum = (ws.map (·.count c)).sum := by
  induction ws with
  | nil => rfl
  | cons w ws ih =>
    rw [List.map_cons, List.filter_cons, List.map_cons, List.sum_cons, ← ih]
    split
    · rw [List.map_cons, List.sum_cons, hf]
    · rename_i hw
      have hnil : f w = [] := by simpa using hw
      have hzero : w.count c = 0 := by rw [← hf, hnil]; rfl
      rw [hzero, Nat.zero_add]

/-- If the pieces of a text are read without loss of separators, they are what stands before and
behind one separator just if the text is cut there and nowhere else. -/
theorem parts_eq_pair_iff (g : Grouping) {f : List Char → List Char}
    (hf : ∀ w, (f w).count c = w.count c) {n : Nesting} {x y : List Char} (hx : f x ≠ [])
    (hy : f y ≠ []) :
    ((g.segments (· == c) n (x ++ c :: y)).map f).filter (!·.isEmpty) = [f x, f y] ↔
      g.segments (· == c) n (x ++ c :: y) = [x, y] := by
  constructor
  · intro h
    have hjoin := g.intercalate_segments c n (x ++ c :: y)
    have hcount := count_intercalate (c := c) (g.segments_ne_nil (· == c) n (x ++ c :: y))
    have hsum := sum_count_parts hf (g.segments (· == c) n (x ++ c :: y))
    rw [h] at hsum
    generalize g.segments (· == c) n (x ++ c :: y) = ws at h hjoin hcount hsum ⊢
    rw [hjoin, ← hsum] at hcount
    have hlength : ws.length = 2 := by
      simp [hf] at hcount
      omega
    obtain ⟨w, v, rfl⟩ := List.length_eq_two.mp hlength
    -- two pieces, and two are left, so that none of them was empty
    have hall : ([w, v].map f).filter (!·.isEmpty) = [w, v].map f :=
      List.filter_sublist.eq_of_length (by rw [h]; rfl)
    have hwx : f w = f x := (List.cons.inj (hall.symm.trans h)).1
    have hsame : w.count c = x.count c := by rw [← hf w, hwx, hf]
    obtain ⟨rfl, rfl⟩ := eq_of_count (by simpa [List.intercalate_cons_cons] using hjoin) hsame
    rfl
  · intro h
    rw [h]
    simp [hx, hy]

end

/-! ## Texts inside a group -/

/-- Does a text, from where a scan stands, never close a group that was open before it, and close
at its end all that was opened. -/
def Grouping.contained (g : Grouping) (n : Nesting) : List Char → Bool
  | [] => n == {}
  | c :: cs => decide (0 ≤ (g.step n c).depth) && g.contained (g.step n c) cs

/-- The search for the end of a group goes on as the scan does, until the group is closed. -/
theorem closing?_cons (d : Nat) (o : Option Char) (c : Char) (cs : List Char) :
    (∃ (d' : Nat) (o' : Option Char), Grouping.words.step ⟨d, o⟩ c = ⟨d', o'⟩ ∧
      closing? (d + 1) o (c :: cs) = (closing? (d' + 1) o' cs).map (· + 1)) ∨
    ((Grouping.words.step ⟨d, o⟩ c).depth < 0 ∧ closing? (d + 1) o (c :: cs) = some 0) := by
  have hopens : Grouping.words.opens c = plainQuote c := rfl
  have hparens : Grouping.words.parens = true := rfl
  cases o with
  | some q =>
    by_cases hc : c = q
    · exact .inl ⟨d, none, by simp [Grouping.step, hc], by simp [closing?, hc]⟩
    · exact .inl ⟨d, some q, by simp [Grouping.step, hc], by simp [closing?, hc]⟩
  | none =>
    rcases hq : plainQuote c with _ | q
    · by_cases hleft : c = '('
      · subst hleft
        exact .inl ⟨d + 1, none, rfl, rfl⟩
      · by_cases hright : c = ')'
        · subst hright
          cases d with
          | zero => exact .inr ⟨by decide, rfl⟩
          | succ d => exact .inl ⟨d, none, by simp [Grouping.step, hopens, hq, hparens], rfl⟩
        · exact .inl ⟨d, none, by simp [Grouping.step, hopens, hq, hleft, hright],
            by simp [closing?, hq, hleft, hright]⟩
    · exact .inl ⟨d, some q, by simp [Grouping.step, hopens, hq], by simp [closing?, hq]⟩

/-- A group that is opened before a text is closed behind it just if the text is contained. -/
theorem closing?_eq_length_iff {d : Nat} {o : Option Char} {cs : List Char} :
    closing? (d + 1) o (cs ++ [')']) = some cs.length ↔
      Grouping.words.contained ⟨d, o⟩ cs = true := by
  induction cs generalizing d o with
  | nil =>
    cases o with
    | some q => simp [closing?, Grouping.contained]
    | none =>
      cases d with
      | zero => simp [closing?, Grouping.contained, plainQuote]
      | succ d =>
        have hd : (d : Int) + 1 ≠ 0 := by omega
        simp [closing?, Grouping.contained, plainQuote, hd]
  | cons c cs ih =>
    rw [List.cons_append, Grouping.contained]
    rcases closing?_cons d o c (cs ++ [')']) with ⟨d', o', hstep, hclose⟩ | ⟨hdepth, hclose⟩
    · rw [hclose, hstep]
      simp [← ih]
    · rw [hclose]
      have hneg : ¬ 0 ≤ (Grouping.words.step ⟨d, o⟩ c).depth := by omega
      simp [hneg]

/-- Brackets mean nothing to the words of a definition. -/
theorem contained_bracket {n : Nesting} {c : Char} (hc : c = '[' ∨ c = ']') (hn : n.quote ≠ some c)
    (hd : 0 ≤ n.depth) (cs : List Char) :
    Grouping.words.contained n (c :: cs) = Grouping.words.contained n cs := by
  have hstep : Grouping.words.step n c = n := by
    rcases n with ⟨d, _ | q⟩
    · rcases hc with rfl | rfl
      · rfl
      · rfl
    · have hne : c ≠ q := by
        rintro rfl
        exact hn rfl
      simp [Grouping.step, hne]
  rw [Grouping.contained, hstep]
  simp [hd]

/-- A scan of words is never inside brackets. -/
theorem step_words_quote {n : Nesting} (hn : n.quote ≠ some ']') (c : Char) :
    (Grouping.words.step n c).quote ≠ some ']' := by
  have hopens : Grouping.words.opens c = plainQuote c := rfl
  unfold Grouping.step
  rcases n with ⟨d, _ | q⟩
  · dsimp only
    rcases hq : plainQuote c with _ | q
    · rw [hopens, hq]
      dsimp only
      split
      · simp
      · split
        · simp
        · simp
    · rw [hopens, hq]
      obtain ⟨rfl, hc⟩ := plainQuote_cases hq
      rcases hc with rfl | rfl | rfl
      · simp
      · simp
      · simp
  · dsimp only
    split
    · simp
    · exact hn

theorem contained_double {n : Nesting} (hn : n.quote ≠ some ']') (hd : 0 ≤ n.depth)
    (cs : List Char) :
    Grouping.words.contained n (double ']' cs ++ [']']) = Grouping.words.contained n cs := by
  induction cs generalizing n with
  | nil => exact contained_bracket (.inr rfl) hn hd []
  | cons c cs ih =>
    by_cases hc : c = ']'
    · subst hc
      rw [double_cons_self, List.cons_append, List.cons_append, contained_bracket (.inr rfl) hn hd,
        contained_bracket (.inr rfl) hn hd, contained_bracket (.inr rfl) hn hd, ih hn hd]
    · rw [double_cons_of_ne hc, List.cons_append, Grouping.contained, Grouping.contained]
      by_cases hdepth : 0 ≤ (Grouping.words.step n c).depth
      · rw [ih (step_words_quote hn c) hdepth]
      · simp [hdepth]

end SchemaChart.Text
