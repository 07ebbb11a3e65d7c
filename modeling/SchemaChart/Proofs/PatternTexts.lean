-- The texts that a pattern matches, said without the search for them. A match starts at a place
-- just if the pattern spells a text from there on; a pattern is found in a text just if a text that
-- it spells stands in it; and where all matches are taken out, the first such text goes, then the
-- first behind it, and all else stays.
import SchemaChart.Proofs.Matching

namespace SchemaChart.Text.Pattern

/-! ## What a pattern spells -/

/-- `n` texts of a kind, one behind the other. -/
def Repeats (spells : Option Char → List Char → List Char → Prop) :
    Nat → Option Char → List Char → List Char → Prop
  | 0, _, w, _ => w = []
  | n + 1, prev, w, rest => ∃ u v, w = u ++ v ∧ spells prev u (v ++ rest) ∧
      Repeats spells n (u.getLast?.or prev) v rest

/-- Does a pattern spell `w`, with `prev` before it and `rest` behind it. A repetition takes no more
turns than there are characters ahead, which are enough if no turn is empty. -/
def Spells : Pattern → Option Char → List Char → List Char → Prop
  | empty => fun _ w _ => w = []
  | one cls => fun _ w _ => ∃ d, w = [d] ∧ cls d = true
  | seq a b => fun prev w rest => ∃ u v, w = u ++ v ∧ Spells a prev u (v ++ rest) ∧
      Spells b (u.getLast?.or prev) v rest
  | alt a b => fun prev w rest => Spells a prev w rest ∨ Spells b prev w rest
  | run _ cls => fun _ w _ => ∀ d ∈ w, cls d = true
  | many a => fun prev w rest => ∃ n ≤ (w ++ rest).length, Repeats (Spells a) n prev w rest
  | group _ a => Spells a
  | edge => fun prev w rest => w = [] ∧ (prev.any isWordChar != rest.head?.any isWordChar) = true
  | textStart => fun prev w _ => w = [] ∧ prev.isNone = true
  | textEnd => fun _ w rest => w = [] ∧ rest.isEmpty = true
  | lineStart => fun prev w _ => w = [] ∧ prev.all (· == '\n') = true
  | lineEnd => fun _ w rest => w = [] ∧ rest.head?.all (· == '\n') = true

section

variable {a b c p : Pattern} {prev : Option Char} {w rest : List Char}

theorem spells_alt : Spells (a <|> b) prev w rest ↔ Spells a prev w rest ∨ Spells b prev w rest :=
  Iff.rfl

theorem getLast?_append_or (u v : List Char) (prev : Option Char) :
    (u ++ v).getLast?.or prev = v.getLast?.or (u.getLast?.or prev) := by
  rw [List.getLast?_append, Option.or_assoc]

theorem spells_assoc : Spells (a ++ b ++ c) prev w rest ↔ Spells (a ++ (b ++ c)) prev w rest := by
  constructor
  · rintro ⟨_, z, rfl, ⟨x, y, rfl, ha, hb⟩, hc⟩
    rw [getLast?_append_or] at hc
    exact ⟨x, y ++ z, List.append_assoc x y z, by rwa [List.append_assoc], y, z, rfl, hb, hc⟩
  · rintro ⟨x, _, rfl, ha, y, z, rfl, hb, hc⟩
    rw [List.append_assoc] at ha
    refine ⟨x ++ y, z, (List.append_assoc x y z).symm, ⟨x, y, rfl, ha, hb⟩, ?_⟩
    rwa [getLast?_append_or]

/-- A pattern spells only with characters that it may take. -/
theorem Spells.not_mem {d : Char} (hp : p.mayTake d = false) (h : Spells p prev w rest) :
    d ∉ w := by
  induction p generalizing prev w rest with
  | empty =>
    obtain rfl : w = [] := h
    exact List.not_mem_nil
  | one cls =>
    obtain ⟨x, rfl, hx⟩ := h
    intro hd
    obtain rfl := List.mem_singleton.mp hd
    exact Bool.false_ne_true (hp.symm.trans hx)
  | seq a b iha ihb =>
    obtain ⟨hpa, hpb⟩ := Bool.or_eq_false_iff.mp hp
    obtain ⟨u, v, rfl, hu, hv⟩ := h
    exact fun hd => (List.mem_append.mp hd).elim (iha hpa hu) (ihb hpb hv)
  | alt a b iha ihb =>
    obtain ⟨hpa, hpb⟩ := Bool.or_eq_false_iff.mp hp
    exact h.elim (iha hpa) (ihb hpb)
  | run greedy cls => exact fun hd => Bool.false_ne_true (hp.symm.trans (h d hd))
  | many a ih =>
    obtain ⟨n, -, hw⟩ := h
    induction n generalizing prev w with
    | zero =>
      obtain rfl : w = [] := hw
      exact List.not_mem_nil
    | succ n ihn =>
      obtain ⟨u, v, rfl, hu, hv⟩ := hw
      exact fun hd => (List.mem_append.mp hd).elim (ih hp hu) (ihn hv)
  | group name a ih => exact ih hp h
  | edge | textStart | textEnd | lineStart | lineEnd =>
    obtain ⟨rfl, -⟩ := h
    exact List.not_mem_nil

/-- Does a pattern ask of what stands around it only whether it is a word character. -/
def asksForWords : Pattern → Bool
  | empty | one _ | run _ _ | edge => true
  | seq a b | alt a b => a.asksForWords && b.asksForWords
  | group _ a => a.asksForWords
  | many _ | textStart | textEnd | lineStart | lineEnd => false

theorem any_head?_append {f : Char → Bool} {r r' : List Char}
    (h : r.head?.any f = r'.head?.any f) (v : List Char) :
    (v ++ r).head?.any f = (v ++ r').head?.any f := by
  cases v with
  | nil => exact h
  | cons d v => rfl

theorem any_or_getLast? {f : Char → Bool} {x y : Option Char} (h : x.any f = y.any f)
    (u : List Char) : (u.getLast?.or x).any f = (u.getLast?.or y).any f := by
  cases u.getLast? with
  | none => exact h
  | some d => rfl

/-- Such a pattern spells the same texts wherever the same sides are word characters. -/
theorem Spells.around {prev' : Option Char} {rest' : List Char} (hp : p.asksForWords = true)
    (hprev : prev.any isWordChar = prev'.any isWordChar)
    (hrest : rest.head?.any isWordChar = rest'.head?.any isWordChar)
    (h : Spells p prev w rest) : Spells p prev' w rest' := by
  induction p generalizing prev prev' w rest rest' with
  | empty | one cls | run greedy cls => exact h
  | seq a b iha ihb =>
    obtain ⟨hpa, hpb⟩ := Bool.and_eq_true_iff.mp hp
    obtain ⟨u, v, rfl, hu, hv⟩ := h
    exact ⟨u, v, rfl, iha hpa hprev (any_head?_append hrest v) hu,
      ihb hpb (any_or_getLast? hprev u) hrest hv⟩
  | alt a b iha ihb =>
    obtain ⟨hpa, hpb⟩ := Bool.and_eq_true_iff.mp hp
    exact h.imp (iha hpa hprev hrest) (ihb hpb hprev hrest)
  | group name a ih => exact ih hp hprev hrest h
  | edge =>
    obtain ⟨rfl, hhere⟩ := h
    rw [hprev, hrest] at hhere
    exact ⟨rfl, hhere⟩
  | many a | textStart | textEnd | lineStart | lineEnd => cases hp

/-! ## Matches -/

/-- Turns that spell their texts are found, if there is room for as many. -/
theorem Repeats.upTo_isSome {k : Cursor → Option Cursor}
    (ha : ∀ k (c : Cursor) u v, Spells a c.prev u v → c.rest = u ++ v →
      (∀ gs, (k (c.beyond u v gs)).isSome = true) → (go a k c).isSome = true) :
    ∀ (n m : Nat) (c : Cursor) (w : List Char), n ≤ m → Repeats (Spells a) n c.prev w rest →
      c.rest = w ++ rest → (∀ gs, (k (c.beyond w rest gs)).isSome = true) →
      (upTo (go a) k m c).isSome = true
  | 0, m, c, w, _, hw, hc, hk => by
    obtain rfl : w = [] := hw
    have hhere : (k c).isSome = true := Cursor.beyond_nil hc ▸ hk []
    cases m with
    | zero => exact hhere
    | succ m =>
      rw [upTo]
      split
      · rfl
      · exact hhere
  | n + 1, m, c, w, hnm, hw, hc, hk => by
    obtain ⟨u, v, rfl, hu, hv⟩ := hw
    obtain ⟨m, rfl⟩ : ∃ l, m = l + 1 := ⟨m - 1, by omega⟩
    have hmore : (go a (upTo (go a) k m) c).isSome = true := by
      refine ha _ c u (v ++ rest) hu (by rw [hc, List.append_assoc]) fun gs => ?_
      refine Repeats.upTo_isSome ha n m _ v (by omega) hv rfl fun hs => ?_
      rw [c.beyond_beyond]
      exact hk _
    obtain ⟨e, he⟩ := Option.isSome_iff_exists.mp hmore
    rw [upTo, he]
    rfl

theorem runGreedy_isSome {cls : Char → Bool} {k : Cursor → Option Cursor} {c : Cursor}
    (hw : ∀ d ∈ w, cls d = true) (hc : c.rest = w ++ rest)
    (hk : ∀ gs, (k (c.beyond w rest gs)).isSome = true) :
    (runGreedy cls k c c.rest).isSome = true := by
  rw [hc]
  induction w generalizing c with
  | nil =>
    have hhere : (k c).isSome = true := Cursor.beyond_nil hc ▸ hk []
    cases rest with
    | nil => exact hhere
    | cons d ds =>
      rw [List.nil_append, runGreedy]
      split
      · split
        · rfl
        · exact hhere
      · exact hhere
  | cons d w ih =>
    have hmore : (runGreedy cls k (c.past d (w ++ rest)) (w ++ rest)).isSome = true := by
      refine ih (fun x hx => hw x (List.mem_cons_of_mem d hx)) rfl fun gs => ?_
      rw [← c.beyond_singleton, c.beyond_beyond]
      exact hk _
    obtain ⟨e, he⟩ := Option.isSome_iff_exists.mp hmore
    rw [List.cons_append, runGreedy, if_pos (hw d List.mem_cons_self), he]
    rfl

theorem runLazy_isSome {cls : Char → Bool} {k : Cursor → Option Cursor} {c : Cursor}
    (hw : ∀ d ∈ w, cls d = true) (hc : c.rest = w ++ rest)
    (hk : ∀ gs, (k (c.beyond w rest gs)).isSome = true) :
    (runLazy cls k c c.rest).isSome = true := by
  rw [hc]
  induction w generalizing c with
  | nil =>
    have hhere : (k c).isSome = true := Cursor.beyond_nil hc ▸ hk []
    obtain ⟨e, he⟩ := Option.isSome_iff_exists.mp hhere
    cases rest with
    | nil => exact hhere
    | cons d ds => simp [runLazy, he]
  | cons d w ih =>
    have hmore : (runLazy cls k (c.past d (w ++ rest)) (w ++ rest)).isSome = true := by
      refine ih (fun x hx => hw x (List.mem_cons_of_mem d hx)) rfl fun gs => ?_
      rw [← c.beyond_singleton, c.beyond_beyond]
      exact hk _
    rw [List.cons_append, runLazy, if_pos (hw d List.mem_cons_self)]
    split
    · rfl
    · exact hmore

/-- A match is found where the pattern spells a text behind which the match goes on. -/
theorem Spells.go_isSome {k : Cursor → Option Cursor} {c : Cursor}
    (h : Spells p c.prev w rest) (hc : c.rest = w ++ rest)
    (hk : ∀ gs, (k (c.beyond w rest gs)).isSome = true) : (p.go k c).isSome = true := by
  induction p generalizing k c w rest with
  | empty =>
    obtain rfl : w = [] := h
    exact Cursor.beyond_nil hc ▸ hk []
  | one cls =>
    obtain ⟨d, rfl, hd⟩ := h
    have hgo : (one cls).go k c = k (c.past d rest) := by simp [go, hc, hd]
    rw [hgo, ← c.beyond_singleton]
    exact hk []
  | seq a b iha ihb =>
    obtain ⟨u, v, rfl, hu, hv⟩ := h
    refine iha hu (by rw [hc, List.append_assoc]) fun gs => ?_
    refine ihb hv rfl fun hs => ?_
    rw [c.beyond_beyond]
    exact hk _
  | alt a b iha ihb =>
    rw [show (alt a b).go k c = _ from go_alt a b k c, Option.isSome_or, Bool.or_eq_true]
    exact h.imp (fun h => iha h hc hk) fun h => ihb h hc hk
  | run greedy cls =>
    cases greedy with
    | true => exact runGreedy_isSome h hc hk
    | false => exact runLazy_isSome h hc hk
  | many a ih =>
    obtain ⟨n, hn, hw⟩ := h
    refine Repeats.upTo_isSome (fun k c u v hu hc hk => ih hu hc hk) n _ c w ?_ hw hc hk
    rwa [hc]
  | group name a ih => exact ih h hc fun gs => hk ((name, _) :: gs)
  | edge | textStart | textEnd | lineStart | lineEnd =>
    obtain ⟨rfl, hhere⟩ := h
    have hrest : c.rest = rest := hc
    subst hrest
    have hk := Cursor.beyond_nil hc ▸ hk []
    simpa [go, Cursor.atEdge, hhere] using hk

/-! ### Where matches come from -/

theorem exists_of_runGreedy {cls : Char → Bool} {k : Cursor → Option Cursor} {e : Cursor} :
    ∀ (cs : List Char) (c : Cursor), c.rest = cs → runGreedy cls k c cs = some e →
      ∃ w rest, cs = w ++ rest ∧ (∀ d ∈ w, cls d = true) ∧ k (c.beyond w rest []) = some e
  | [], c, hc, h => ⟨[], [], rfl, by simp, by rwa [Cursor.beyond_nil hc]⟩
  | d :: ds, c, hc, h => by
    have hstop : k c = some e → ∃ w rest, d :: ds = w ++ rest ∧ (∀ d ∈ w, cls d = true) ∧
        k (c.beyond w rest []) = some e :=
      fun hk => ⟨[], d :: ds, rfl, by simp, by rwa [Cursor.beyond_nil hc]⟩
    rw [runGreedy] at h
    split at h
    · next hd =>
      split at h
      · next e' he' =>
        obtain ⟨w, rest, rfl, hw, hk⟩ := exists_of_runGreedy ds _ rfl (he'.trans h)
        refine ⟨d :: w, rest, rfl, by simpa [hd] using hw, ?_⟩
        rwa [← c.beyond_singleton, c.beyond_beyond] at hk
      · exact hstop h
    · exact hstop h

theorem exists_of_runLazy {cls : Char → Bool} {k : Cursor → Option Cursor} {e : Cursor} :
    ∀ (cs : List Char) (c : Cursor), c.rest = cs → runLazy cls k c cs = some e →
      ∃ w rest, cs = w ++ rest ∧ (∀ d ∈ w, cls d = true) ∧ k (c.beyond w rest []) = some e
  | [], c, hc, h => ⟨[], [], rfl, by simp, by rwa [Cursor.beyond_nil hc]⟩
  | d :: ds, c, hc, h => by
    rw [runLazy] at h
    split at h
    · next e' he' =>
      exact ⟨[], d :: ds, rfl, by simp, by rw [Cursor.beyond_nil hc, he', h]⟩
    · split at h
      · next hd =>
        obtain ⟨w, rest, rfl, hw, hk⟩ := exists_of_runLazy ds _ rfl h
        refine ⟨d :: w, rest, rfl, by simpa [hd] using hw, ?_⟩
        rwa [← c.beyond_singleton, c.beyond_beyond] at hk
      · cases h

/-- Does what the groups of a match took stand in what the match took. -/
def GroupsIn (w : List Char) (gs : List (String × List Char)) : Prop := ∀ g ∈ gs, g.2 <:+: w

theorem groupsIn_nil {w : List Char} : GroupsIn w [] := fun _ hg => nomatch hg

theorem GroupsIn.append {u v : List Char} {gs hs : List (String × List Char)}
    (hgs : GroupsIn u gs) (hhs : GroupsIn v hs) : GroupsIn (u ++ v) (hs ++ gs) := by
  intro g hg
  rcases List.mem_append.mp hg with hg | hg
  · exact (hhs g hg).trans (List.suffix_append u v).isInfix
  · exact (hgs g hg).trans (List.prefix_append u v).isInfix

theorem exists_of_upTo {k : Cursor → Option Cursor} {e : Cursor}
    (ha : ∀ k (c : Cursor), go a k c = some e → ∃ w rest gs, c.rest = w ++ rest ∧
      Spells a c.prev w rest ∧ GroupsIn w gs ∧ k (c.beyond w rest gs) = some e) :
    ∀ (m : Nat) (c : Cursor), upTo (go a) k m c = some e → ∃ w rest gs, c.rest = w ++ rest ∧
      (∃ n ≤ m, Repeats (Spells a) n c.prev w rest) ∧ GroupsIn w gs ∧
      k (c.beyond w rest gs) = some e
  | 0, c, h =>
    ⟨[], c.rest, [], rfl, ⟨0, Nat.le_refl 0, rfl⟩, groupsIn_nil, by rwa [Cursor.beyond_nil rfl]⟩
  | m + 1, c, h => by
    rw [upTo] at h
    split at h
    · next e' he' =>
      obtain ⟨u, _, gs, hc, hu, hgs, hmore⟩ := ha _ c (he'.trans h)
      obtain ⟨v, rest, hs, rfl, ⟨n, hn, hv⟩, hhs, hk⟩ := exists_of_upTo ha m _ hmore
      refine ⟨u ++ v, rest, hs ++ gs, by rw [hc]; exact (List.append_assoc u v rest).symm,
        ⟨n + 1, by omega, u, v, rfl, hu, hv⟩, hgs.append hhs, ?_⟩
      rwa [c.beyond_beyond] at hk
    · exact ⟨[], c.rest, [], rfl, ⟨0, by omega, rfl⟩, groupsIn_nil,
        by rwa [Cursor.beyond_nil rfl]⟩

/-- A match that is found takes a text that the pattern spells, and goes on behind it. -/
theorem exists_of_go {k : Cursor → Option Cursor} {c e : Cursor} (h : p.go k c = some e) :
    ∃ w rest gs, c.rest = w ++ rest ∧ Spells p c.prev w rest ∧ GroupsIn w gs ∧
      k (c.beyond w rest gs) = some e := by
  induction p generalizing k c e with
  | empty => exact ⟨[], c.rest, [], rfl, rfl, groupsIn_nil, by rwa [Cursor.beyond_nil rfl]⟩
  | one cls =>
    cases hrest : c.rest with
    | nil => simp [go, hrest] at h
    | cons d ds =>
      simp only [go, hrest] at h
      split at h
      · next hd =>
        exact ⟨[d], ds, [], rfl, ⟨d, rfl, hd⟩, groupsIn_nil, by rwa [c.beyond_singleton]⟩
      · cases h
  | seq a b iha ihb =>
    obtain ⟨u, _, gs, hc, hu, hgs, hmore⟩ := iha h
    obtain ⟨v, rest, hs, rfl, hv, hhs, hk⟩ := ihb hmore
    refine ⟨u ++ v, rest, hs ++ gs, by rw [hc]; exact (List.append_assoc u v rest).symm,
      ⟨u, v, rfl, hu, hv⟩, hgs.append hhs, ?_⟩
    rwa [c.beyond_beyond] at hk
  | alt a b iha ihb =>
    rw [show (alt a b).go k c = _ from go_alt a b k c] at h
    rcases Option.or_eq_some_iff.mp h with h | ⟨-, h⟩
    · obtain ⟨w, rest, gs, hc, hw, hk⟩ := iha h
      exact ⟨w, rest, gs, hc, .inl hw, hk⟩
    · obtain ⟨w, rest, gs, hc, hw, hk⟩ := ihb h
      exact ⟨w, rest, gs, hc, .inr hw, hk⟩
  | run greedy cls =>
    cases greedy with
    | true =>
      obtain ⟨w, rest, hc, hw, hk⟩ := exists_of_runGreedy c.rest c rfl h
      exact ⟨w, rest, [], hc, hw, groupsIn_nil, hk⟩
    | false =>
      obtain ⟨w, rest, hc, hw, hk⟩ := exists_of_runLazy c.rest c rfl h
      exact ⟨w, rest, [], hc, hw, groupsIn_nil, hk⟩
  | many a ih =>
    obtain ⟨w, rest, gs, hc, ⟨n, hn, hw⟩, hk⟩ := exists_of_upTo (fun _ _ h => ih h) _ c h
    exact ⟨w, rest, gs, hc, ⟨n, hc ▸ hn, hw⟩, hk⟩
  | group name a ih =>
    obtain ⟨w, rest, gs, hc, hw, hgs, hk⟩ := ih h
    have htaken : c.rest.take ((c.beyond w rest gs).taken - c.taken) = w := by
      rw [hc]
      simp [Cursor.beyond]
    refine ⟨w, rest, (name, _) :: gs, hc, hw, ?_, hk⟩
    rw [htaken]
    exact List.forall_mem_cons.mpr ⟨List.infix_refl w, hgs⟩
  | edge | textStart | textEnd | lineStart | lineEnd =>
    simp only [go] at h
    split at h
    · next hhere =>
      exact ⟨[], c.rest, [], rfl, ⟨rfl, hhere⟩, groupsIn_nil, by rwa [Cursor.beyond_nil rfl]⟩
    · cases h

end

/-! ## Finding -/

/-- Does `cs` begin with a text that the pattern spells, with `prev` before it. -/
def Begins (p : Pattern) (prev : Option Char) (cs : List Char) : Prop :=
  ∃ w after, cs = w ++ after ∧ p.Spells prev w after

/-- Does a text that the pattern spells stand in `cs`, with `prev` before it. -/
def StandsIn (p : Pattern) (prev : Option Char) (cs : List Char) : Prop :=
  ∃ before rest, cs = before ++ rest ∧ p.Begins (before.getLast?.or prev) rest

section

variable {a b p : Pattern} {prev : Option Char} {cs : List Char}

theorem standsIn_congr (h : ∀ prev cs, a.Begins prev cs ↔ b.Begins prev cs) :
    a.StandsIn prev cs ↔ b.StandsIn prev cs := by
  simp only [StandsIn, h]

theorem begins_alt : (a <|> b).Begins prev cs ↔ a.Begins prev cs ∨ b.Begins prev cs := by
  simp only [Begins, spells_alt, and_or_left, exists_or]

theorem begins_seq : (a ++ b).Begins prev cs ↔ ∃ u rest, cs = u ++ rest ∧ a.Spells prev u rest ∧
    b.Begins (u.getLast?.or prev) rest := by
  constructor
  · rintro ⟨_, after, rfl, u, v, rfl, hu, hv⟩
    exact ⟨u, v ++ after, List.append_assoc u v after, hu, v, after, rfl, hv⟩
  · rintro ⟨u, _, rfl, hu, v, after, rfl, hv⟩
    exact ⟨u ++ v, after, (List.append_assoc u v after).symm, u, v, rfl, hu, hv⟩

theorem begins_empty : empty.Begins prev cs := ⟨[], cs, rfl, rfl⟩

theorem begins_seq_empty : (a ++ empty).Begins prev cs ↔ a.Begins prev cs := by
  simp only [begins_seq, begins_empty, and_true]
  rfl

theorem begins_assoc {c : Pattern} :
    (a ++ b ++ c).Begins prev cs ↔ (a ++ (b ++ c)).Begins prev cs := by
  simp only [Begins, spells_assoc]

theorem begins_textEnd : textEnd.Begins prev cs ↔ cs = [] := by
  constructor
  · rintro ⟨_, after, rfl, rfl, hafter⟩
    exact List.isEmpty_iff.mp hafter
  · rintro rfl
    exact ⟨[], [], rfl, rfl, rfl⟩

theorem begins_one {cls : Char → Bool} : (one cls).Begins prev cs ↔ cs.head?.any cls = true := by
  constructor
  · rintro ⟨_, after, rfl, d, rfl, hd⟩
    exact hd
  · intro h
    cases cs with
    | nil => cases h
    | cons d ds => exact ⟨[d], ds, rfl, d, rfl, h⟩

theorem begins_some1 {cls : Char → Bool} :
    (some1 cls).Begins prev cs ↔ cs.head?.any cls = true := by
  rw [some1, begins_seq]
  constructor
  · rintro ⟨u, rest, hcs, hu, -⟩
    exact begins_one.mp ⟨u, rest, hcs, hu⟩
  · intro h
    obtain ⟨u, rest, hcs, hu⟩ : (one cls).Begins prev cs := begins_one.mpr h
    exact ⟨u, rest, hcs, hu, [], rest, rfl, fun _ hd => absurd hd List.not_mem_nil⟩

/-- A text up to the first `c`, and `c` itself, is there just if `c` is. -/
theorem begins_until {c : Char} {greedy : Bool} :
    (run greedy (· != c) ++ (one (· == c) ++ empty)).Begins prev cs ↔ c ∈ cs := by
  rw [begins_seq]
  simp only [begins_seq_empty, begins_one]
  constructor
  · rintro ⟨u, rest, rfl, -, hrest⟩
    cases rest with
    | nil => cases hrest
    | cons d ds =>
      obtain rfl : d = c := eq_of_beq hrest
      exact List.mem_append_right u List.mem_cons_self
  · intro hc
    obtain ⟨u, ds, rfl, hu⟩ := List.eq_append_cons_of_mem hc
    refine ⟨u, c :: ds, rfl, fun d hd => bne_iff_ne.mpr ?_, beq_self_eq_true c⟩
    exact fun hdc => hu (hdc ▸ hd)

theorem standsIn_seq_alt {c : Pattern} : (a ++ (b <|> c)).StandsIn prev cs ↔
    (a ++ b).StandsIn prev cs ∨ (a ++ c).StandsIn prev cs := by
  simp only [StandsIn, begins_seq, begins_alt, and_or_left, exists_or]

theorem standsIn_alt : (a <|> b).StandsIn prev cs ↔ a.StandsIn prev cs ∨ b.StandsIn prev cs := by
  simp only [StandsIn, begins_alt, and_or_left, exists_or]

theorem go_isSome_of_begins (h : p.Begins prev cs) :
    (p.go some ⟨prev, cs, 0, []⟩).isSome = true := by
  obtain ⟨w, after, hcs, hw⟩ := h
  exact hw.go_isSome (k := some) (c := ⟨prev, cs, 0, []⟩) hcs fun _ => rfl

/-- What is found here is a text that the pattern spells. -/
theorem go_some_eq {e : Cursor} (h : p.go some ⟨prev, cs, 0, []⟩ = some e) :
    cs = cs.take e.taken ++ e.rest ∧ p.Spells prev (cs.take e.taken) e.rest ∧
      e.prev = (cs.take e.taken).getLast?.or prev ∧ GroupsIn (cs.take e.taken) e.groups := by
  obtain ⟨w, rest, gs, hcs, hw, hgs, he⟩ := exists_of_go h
  obtain rfl := Option.some.inj he
  have hcs : cs = w ++ rest := hcs
  have htaken : cs.take (0 + w.length) = w := by rw [Nat.zero_add, hcs, List.take_left]
  refine ⟨?_, ?_, ?_, ?_⟩
  · exact htaken.symm ▸ hcs
  · exact htaken.symm ▸ hw
  · exact htaken.symm ▸ rfl
  · have hgroups : (Cursor.beyond ⟨prev, cs, 0, []⟩ w rest gs).groups = gs := List.append_nil gs
    rw [hgroups]
    exact htaken.symm ▸ hgs

/-- Does no text that the pattern spells begin in `before`, with `rest` behind it. -/
def NoneIn (p : Pattern) (prev : Option Char) (before rest : List Char) : Prop :=
  ∀ x y, before = x ++ y → y ≠ [] → ¬ p.Begins (x.getLast?.or prev) (y ++ rest)

theorem noneIn_nil {rest : List Char} : NoneIn p prev [] rest :=
  fun _ _ hxy hy => absurd (List.append_eq_nil_iff.mp hxy.symm).2 hy

theorem noneIn_cons {d : Char} {before rest : List Char} : NoneIn p prev (d :: before) rest ↔
    ¬ p.Begins prev (d :: (before ++ rest)) ∧ NoneIn p (some d) before rest := by
  constructor
  · intro h
    refine ⟨h [] (d :: before) rfl (List.cons_ne_nil d before), fun x y hxy hy => ?_⟩
    rw [← getLast?_cons_or]
    exact h (d :: x) y (by rw [hxy, List.cons_append]) hy
  · rintro ⟨hhere, hbehind⟩ x y hxy hy
    cases x with
    | nil =>
      obtain rfl : d :: before = y := hxy
      exact hhere
    | cons d' x =>
      obtain ⟨rfl, hbefore⟩ := List.cons.inj hxy
      rw [getLast?_cons_or]
      exact hbehind x y hbefore hy

/-- What is found is the first text that the pattern spells, with what was passed over before it. -/
theorem findFrom_eq_some {passed : List Char} {f : Found}
    (h : p.findFrom prev passed cs = some f) :
    ∃ before, f.before = passed.reverse ++ before ∧ cs = before ++ (f.taken ++ f.after) ∧
      NoneIn p prev before (f.taken ++ f.after) ∧
      p.Spells (before.getLast?.or prev) f.taken f.after ∧
      f.last = f.taken.getLast?.or (before.getLast?.or prev) := by
  fun_induction findFrom p prev passed cs with
  | case1 prev passed cs e he =>
    obtain rfl := Option.some.inj h
    obtain ⟨hcs, hw, hlast, -⟩ := go_some_eq he
    exact ⟨[], (List.append_nil _).symm, hcs, noneIn_nil, hw, hlast⟩
  | case2 => cases h
  | case3 prev passed d ds hnone ih =>
    obtain ⟨before, hbefore, rfl, hfirst, hw, hlast⟩ := ih h
    have hhere : ¬ p.Begins prev (d :: (before ++ (f.taken ++ f.after))) := fun hbegins =>
      Bool.false_ne_true ((congrArg Option.isSome hnone).symm.trans (go_isSome_of_begins hbegins))
    refine ⟨d :: before, by simp [hbefore], rfl, noneIn_cons.mpr ⟨hhere, hfirst⟩, ?_, ?_⟩
    · rwa [getLast?_cons_or]
    · rwa [getLast?_cons_or]

/-- The search passes over a beginning in which no match begins. -/
theorem findFrom_append {pre : List Char} (h : NoneIn p prev pre cs) (passed : List Char) :
    p.findFrom prev passed (pre ++ cs) =
      p.findFrom (pre.getLast?.or prev) (pre.reverse ++ passed) cs := by
  induction pre generalizing prev passed with
  | nil => rfl
  | cons d pre ih =>
    obtain ⟨hhere, hbehind⟩ := noneIn_cons.mp h
    rw [List.cons_append, findFrom.eq_def]
    split
    · next e he =>
      obtain ⟨hcs, hw, -⟩ := go_some_eq he
      exact absurd ⟨_, _, hcs, hw⟩ hhere
    · rw [getLast?_cons_or, List.reverse_cons, List.append_assoc]
      exact ih hbehind (d :: passed)

theorem findFrom_isSome (h : p.StandsIn prev cs) (passed : List Char) :
    (p.findFrom prev passed cs).isSome = true := by
  obtain ⟨before, rest, hcs, hbegins⟩ := h
  induction before generalizing prev passed cs with
  | nil =>
    obtain rfl : cs = rest := hcs
    obtain ⟨e, he⟩ := Option.isSome_iff_exists.mp (go_isSome_of_begins hbegins)
    rw [findFrom.eq_def, show p.go some ⟨prev, cs, 0, []⟩ = some e from he]
    rfl
  | cons d before ih =>
    rw [getLast?_cons_or] at hbegins
    rw [hcs, List.cons_append, findFrom.eq_def]
    split
    · rfl
    · exact ih (d :: passed) rfl hbegins

theorem standsIn_iff (passed : List Char) :
    p.StandsIn prev cs ↔ (p.findFrom prev passed cs).isSome = true := by
  refine ⟨fun h => findFrom_isSome h passed, fun h => ?_⟩
  obtain ⟨f, hf⟩ := Option.isSome_iff_exists.mp h
  obtain ⟨before, -, hcs, -, hw, -⟩ := findFrom_eq_some hf
  exact ⟨before, _, hcs, f.taken, f.after, rfl, hw⟩

/-- A pattern occurs in a text just if a text that it spells stands in it. -/
theorem occursIn_iff : p.occursIn cs = true ↔ p.StandsIn none cs := (standsIn_iff []).symm

/-! ## Taking out all matches -/

/-- Is `out` what is left of `cs` when texts that the pattern spells are taken out of it, each time
the first one ahead, until there are no more of them. -/
inductive Pared (p : Pattern) : Option Char → List Char → List Char → Prop
  | whole {prev : Option Char} {cs : List Char} : ¬ p.StandsIn prev cs → Pared p prev cs cs
  | cut {prev : Option Char} {before w after out : List Char} : w ≠ [] →
      NoneIn p prev before (w ++ after) → p.Spells (before.getLast?.or prev) w after →
      Pared p (w.getLast?.or (before.getLast?.or prev)) after out →
      Pared p prev (before ++ (w ++ after)) (before ++ out)

theorem Pared.length_le {out : List Char} (h : Pared p prev cs out) : out.length ≤ cs.length := by
  induction h with
  | whole _ => exact Nat.le_refl _
  | cut _ _ _ _ ih =>
    simp only [List.length_append]
    omega

/-- A text stays whole if nothing that the pattern spells stands in it, and gets shorter if
something does. -/
theorem Pared.whole_or_shorter {out : List Char} (h : Pared p prev cs out) :
    (out = cs ∧ ¬ p.StandsIn prev cs) ∨ (out.length < cs.length ∧ p.StandsIn prev cs) := by
  cases h with
  | whole hnone => exact .inl ⟨rfl, hnone⟩
  | @cut _ before w after out hne _ hw hout =>
    have hpos := List.length_pos_iff.mpr hne
    have hshort := hout.length_le
    refine .inr ⟨?_, before, _, rfl, w, after, rfl, hw⟩
    simp only [List.length_append]
    omega

theorem Pared.eq_of_length_le {out : List Char} (h : Pared p prev cs out)
    (hle : cs.length ≤ out.length) : out = cs := by
  rcases h.whole_or_shorter with ⟨heq, -⟩ | ⟨hlt, -⟩
  · exact heq
  · exact absurd hle (Nat.not_le.mpr hlt)

theorem Pared.eq_iff {out : List Char} (h : Pared p prev cs out) :
    out = cs ↔ ¬ p.StandsIn prev cs := by
  rcases h.whole_or_shorter with ⟨heq, hnone⟩ | ⟨hlt, hstands⟩
  · exact iff_of_true heq hnone
  · exact iff_of_false (fun heq => Nat.lt_irrefl _ (heq ▸ hlt)) fun hnone => hnone hstands

/-- What is left of a text without these matches. -/
def remains (found : List Found) (cs : List Char) : List Char :=
  match found.getLast? with
  | none => cs
  | some last => found.flatMap (·.before) ++ last.after

theorem remains_cons (f : Found) (found : List Found) (cs : List Char) :
    remains (f :: found) cs = f.before ++ remains found f.after := by
  cases h : found.getLast? with
  | none =>
    obtain rfl := List.getLast?_eq_none_iff.mp h
    simp [remains]
  | some last => simp [remains, List.getLast?_cons, h]

theorem replaceAll_nothing (p : Pattern) (cs : List Char) :
    p.replaceAll (fun _ => []) cs = remains (p.allFrom cs.length none cs) cs := by
  rw [replaceAll, remains]
  cases (p.allFrom cs.length none cs).getLast? with
  | none => rfl
  | some last => simp

/-- Does a pattern spell no empty text. -/
def Solid (p : Pattern) : Prop := ∀ prev rest, ¬ p.Spells prev [] rest

/-- Has a pattern a way through that takes no character, whatever stands around it. -/
def mayBeEmpty : Pattern → Bool
  | one _ => false
  | seq a b => a.mayBeEmpty && b.mayBeEmpty
  | alt a b => a.mayBeEmpty || b.mayBeEmpty
  | group _ a => a.mayBeEmpty
  | empty | run _ _ | many _ | edge | textStart | textEnd | lineStart | lineEnd => true

theorem mayBeEmpty_of_spells {rest : List Char} (h : p.Spells prev [] rest) :
    p.mayBeEmpty = true := by
  induction p generalizing prev rest with
  | one cls =>
    obtain ⟨d, hd, -⟩ := h
    cases hd
  | seq a b iha ihb =>
    obtain ⟨u, v, huv, hu, hv⟩ := h
    obtain ⟨rfl, rfl⟩ := List.append_eq_nil_iff.mp huv.symm
    exact Bool.and_eq_true_iff.mpr ⟨iha hu, ihb hv⟩
  | alt a b iha ihb => exact (Bool.or_eq_true _ _).mpr (h.imp iha ihb)
  | group name a ih => exact ih h
  | empty | run | many | edge | textStart | textEnd | lineStart | lineEnd => rfl

theorem solid_of_mayBeEmpty (hp : p.mayBeEmpty = false) : Solid p :=
  fun _ _ h => Bool.false_ne_true (hp.symm.trans (mayBeEmpty_of_spells h))

theorem pared_allFrom (hp : Solid p) :
    ∀ (n : Nat) (prev : Option Char) (cs : List Char), cs.length ≤ n →
      Pared p prev cs (remains (p.allFrom n prev cs) cs) := by
  intro n
  induction n with
  | zero =>
    intro prev cs hcs
    obtain rfl : cs = [] := List.length_eq_zero_iff.mp (by omega)
    refine .whole ?_
    rintro ⟨before, rest, hnil, w, after, hrest, hw⟩
    obtain ⟨-, rfl⟩ := List.append_eq_nil_iff.mp hnil.symm
    obtain ⟨rfl, -⟩ := List.append_eq_nil_iff.mp hrest.symm
    exact hp _ _ hw
  | succ n ih =>
    intro prev cs hcs
    rw [allFrom]
    split
    · next hnone =>
      refine .whole fun hstands => ?_
      have hsome := (standsIn_iff []).mp hstands
      rw [hnone] at hsome
      cases hsome
    · next f hf =>
      obtain ⟨before, hbefore, rfl, hfirst, hw, hlast⟩ := findFrom_eq_some hf
      have hne : f.taken ≠ [] := fun hnil => hp _ _ (hnil ▸ hw)
      have hpos : 0 < f.taken.length := List.length_pos_iff.mpr hne
      simp only [List.length_append] at hcs
      rw [remains_cons, hbefore]
      refine .cut hne hfirst hw ?_
      rw [← hlast]
      exact ih f.last f.after (by omega)

/-- Taking out all matches leaves a beginning alone in which none begins. -/
theorem replaceAll_append (hp : Solid p) {pre : List Char} (hpre : NoneIn p none pre cs) :
    ∃ kept, p.replaceAll (fun _ => []) (pre ++ cs) = pre ++ kept ∧
      Pared p pre.getLast? cs kept := by
  have hfound : p.findFrom none [] (pre ++ cs) = (p.findFrom pre.getLast? [] cs).map
      fun f => { f with before := pre ++ f.before } := by
    rw [findFrom_append hpre, Option.or_none, List.append_nil, findFrom_passed,
      List.reverse_reverse]
  have hremains : ∀ n, remains (p.allFrom n none (pre ++ cs)) (pre ++ cs) =
      pre ++ remains (p.allFrom n pre.getLast? cs) cs := by
    intro n
    cases n with
    | zero => rfl
    | succ n =>
      rw [allFrom, allFrom, hfound]
      cases p.findFrom pre.getLast? [] cs with
      | none => rfl
      | some f => simp [remains_cons]
  refine ⟨_, (replaceAll_nothing p _).trans (hremains _), pared_allFrom hp _ _ cs ?_⟩
  rw [List.length_append]
  omega

end

end SchemaChart.Text.Pattern
