-- What a pattern makes of a given text: the text it takes with the groups it remembers, and the
-- texts it cannot match at all.
import SchemaChart.Text.Pattern

namespace SchemaChart.Text

/-! ## Cursors -/

/-- The cursor behind `w`, with `rest` ahead and the groups `gs` remembered on the way. -/
def Cursor.beyond (c : Cursor) (w rest : List Char) (gs : List (String × List Char)) : Cursor :=
  { prev := w.getLast?.or c.prev, rest := rest, taken := c.taken + w.length,
    groups := gs ++ c.groups }

theorem Cursor.beyond_nil {c : Cursor} {rest : List Char} (h : c.rest = [] ++ rest) :
    c.beyond [] rest [] = c := by
  simp [beyond, show rest = c.rest from h.symm]

theorem Cursor.beyond_singleton (c : Cursor) (d : Char) (rest : List Char) :
    c.beyond [d] rest [] = c.past d rest := by
  simp [beyond, past]

theorem Cursor.beyond_beyond (c : Cursor) (w v rest : List Char)
    (gs hs : List (String × List Char)) :
    (c.beyond w (v ++ rest) gs).beyond v rest hs = c.beyond (w ++ v) rest (hs ++ gs) := by
  simp [beyond, Nat.add_assoc, Option.or_assoc]

/-- The character before what follows `cs`, from the character before a text. -/
theorem getLast?_cons_or (c : Char) (cs : List Char) (prev : Option Char) :
    (c :: cs).getLast?.or prev = cs.getLast?.or (some c) := by
  cases h : cs.getLast? with
  | none => simp [List.getLast?_cons, h]
  | some d => simp [List.getLast?_cons, h]

/-- A text without quotes has none to double. -/
theorem double_eq_self {q : Char} {cs : List Char} (h : q ∉ cs) : double q cs = cs := by
  induction cs with
  | nil => rfl
  | cons c cs ih =>
    have hc : (c == q) = false := by
      simpa using fun hcq : c = q => h (hcq ▸ List.mem_cons_self)
    have ih := ih fun hq => h (List.mem_cons_of_mem c hq)
    rw [double] at ih
    rw [double, List.flatMap_cons, hc, ih]
    rfl

namespace Pattern

/-! ## Taking a text -/

/-- Before `rest`, a pattern takes `w` and remembers `gs`: a match that goes on behind `w` is the
match that is found. -/
def Takes (p : Pattern) (w rest : List Char) (gs : List (String × List Char)) : Prop :=
  ∀ k c e, c.rest = w ++ rest → k (c.beyond w rest gs) = some e → p.go k c = some e

/-- Like `Takes`, where nothing stands before `w`. -/
def TakesFirst (p : Pattern) (w rest : List Char) (gs : List (String × List Char)) : Prop :=
  ∀ k c e, c.prev = none → c.rest = w ++ rest → k (c.beyond w rest gs) = some e →
    p.go k c = some e

/-- A pattern does not match in front of this text, whatever is to follow. -/
def Fails (p : Pattern) (text : List Char) : Prop :=
  ∀ k c, c.rest = text → p.go k c = none

variable {a b p : Pattern} {w v rest text : List Char} {gs hs : List (String × List Char)}

attribute [local simp] go

theorem go_alt (a b : Pattern) (k : Cursor → Option Cursor) (c : Cursor) :
    go (a <|> b) k c = (go a k c).or (go b k c) := by
  show go (alt a b) k c = _
  simp only [go]
  cases go a k c <;> rfl

theorem Takes.empty : Takes empty [] rest [] := by
  intro k c e hc hk
  rwa [Cursor.beyond_nil hc] at hk

theorem Takes.one (cls : Char → Bool) {d : Char} (hd : cls d = true) :
    Takes (one cls) [d] rest [] := by
  intro k c e hc hk
  rw [c.beyond_singleton] at hk
  simpa [hc, hd] using hk

theorem Takes.seq (ha : Takes a w (v ++ rest) gs) (hb : Takes b v rest hs) :
    Takes (a ++ b) (w ++ v) rest (hs ++ gs) := by
  intro k c e hc hk
  have hv : go b k (c.beyond w (v ++ rest) gs) = some e := hb k _ e rfl (by rwa [c.beyond_beyond])
  exact ha (go b k) c e (by rw [hc, List.append_assoc]) hv

theorem TakesFirst.seq (ha : TakesFirst a w (v ++ rest) gs) (hb : Takes b v rest hs) :
    TakesFirst (a ++ b) (w ++ v) rest (hs ++ gs) := by
  intro k c e hp hc hk
  have hv : go b k (c.beyond w (v ++ rest) gs) = some e := hb k _ e rfl (by rwa [c.beyond_beyond])
  exact ha (go b k) c e hp (by rw [hc, List.append_assoc]) hv

theorem TakesFirst.seq_two {b' : Pattern} (ha : TakesFirst a w (v ++ rest) gs)
    (hb : Takes (b ++ b') v rest hs) : TakesFirst (a ++ b ++ b') (w ++ v) rest (hs ++ gs) :=
  ha.seq hb

theorem TakesFirst.seq_three {b' b'' : Pattern} (ha : TakesFirst a w (v ++ rest) gs)
    (hb : Takes (b ++ b' ++ b'') v rest hs) :
    TakesFirst (a ++ b ++ b' ++ b'') (w ++ v) rest (hs ++ gs) :=
  ha.seq hb

theorem Takes.left (ha : Takes a w rest gs) : Takes (a <|> b) w rest gs := by
  intro k c e hc hk
  rw [go_alt, ha k c e hc hk, Option.some_or]

theorem Takes.right (ha : Fails a (w ++ rest)) (hb : Takes b w rest gs) :
    Takes (a <|> b) w rest gs := by
  intro k c e hc hk
  rw [go_alt, ha k c hc, Option.none_or]
  exact hb k c e hc hk

theorem Takes.opt (h : Takes p w rest gs) : Takes (opt p) w rest gs := h.left

theorem Takes.skip (h : Fails p rest) : Takes (Pattern.opt p) [] rest [] :=
  Takes.right h Takes.empty

theorem Takes.group (name : String) (h : Takes p w rest gs) :
    Takes (group name p) w rest ((name, w) :: gs) := by
  intro k c e hc hk
  refine h _ c e hc ?_
  simpa [Cursor.beyond, hc] using hk

theorem TakesFirst.textStart : TakesFirst textStart [] rest [] := by
  intro k c e hp hc hk
  rw [Cursor.beyond_nil hc] at hk
  simpa [hp] using hk

theorem Takes.textEnd : Takes textEnd [] [] [] := by
  intro k c e hc hk
  rw [Cursor.beyond_nil hc] at hk
  simpa [hc] using hk

/-! ### Repetitions -/

theorem Takes.run {cls : Char → Bool} (hw : ∀ d ∈ w, cls d = true)
    (hr : ∀ d ∈ rest.head?, cls d = false) : Takes (run true cls) w rest [] := by
  intro k c e hc hk
  show runGreedy cls k c c.rest = some e
  induction w generalizing c with
  | nil =>
    rw [Cursor.beyond_nil hc] at hk
    rw [hc]
    cases rest with
    | nil => simpa [runGreedy] using hk
    | cons d ds => simpa [runGreedy, hr d rfl] using hk
  | cons d w ih =>
    have hstep : runGreedy cls k (c.past d (w ++ rest)) (w ++ rest) = some e := by
      refine ih (fun x hx => hw x (List.mem_cons_of_mem d hx)) _ rfl ?_
      rwa [← c.beyond_singleton, c.beyond_beyond]
    rw [hc, List.cons_append, runGreedy, if_pos (hw d List.mem_cons_self), hstep]

theorem Takes.some1 (cls : Char → Bool) {d : Char} (hd : cls d = true)
    (hw : ∀ x ∈ w, cls x = true) (hr : ∀ x ∈ rest.head?, cls x = false) :
    Takes (some1 cls) (d :: w) rest [] :=
  (Takes.one cls hd).seq (Takes.run hw hr)

/-- A lazy repetition stops at the first place where the match goes on. -/
theorem runLazy_eq_some {cls : Char → Bool} {k : Cursor → Option Cursor} {u : List Char}
    {c e : Cursor} (hc : c.rest = u ++ text) (hu : ∀ d ∈ u, cls d = true)
    (hbefore : ∀ x, x <:+ u → x ≠ [] → ∀ e, e.rest = x ++ text → k e = none)
    (hk : k (c.beyond u text []) = some e) : runLazy cls k c c.rest = some e := by
  rw [hc]
  induction u generalizing c with
  | nil =>
    rw [Cursor.beyond_nil hc] at hk
    cases text with
    | nil => exact hk
    | cons d ds => simp [runLazy, hk]
  | cons d u ih =>
    have hnone : k c = none := hbefore _ List.suffix_rfl (by simp) c hc
    have hstep : runLazy cls k (c.past d (u ++ text)) (u ++ text) = some e := by
      refine ih rfl (fun x hx => hu x (List.mem_cons_of_mem d hx))
        (fun x hx => hbefore x (hx.trans (List.suffix_cons d u))) ?_
      rwa [← c.beyond_singleton, c.beyond_beyond]
    simp only [List.cons_append, runLazy, hnone, hu d List.mem_cons_self, hstep, if_true]

/-- A group that ends in a lazy repetition takes what stands before the first place where the rest
of the pattern can be matched. -/
theorem Takes.lazyGroup (name : String) {cls : Char → Bool} {u : List Char}
    (ha : Takes a w (u ++ (v ++ rest)) gs) (hu : ∀ d ∈ u, cls d = true)
    (hb : Takes b v rest hs) (hbefore : ∀ x, x <:+ u → x ≠ [] → Fails b (x ++ (v ++ rest))) :
    Takes (Pattern.group name (a ++ Pattern.run false cls) ++ b) (w ++ u ++ v) rest
      (hs ++ (name, w ++ u) :: gs) := by
  intro k c e hc hk
  have hrest : c.rest = w ++ (u ++ (v ++ rest)) := by simpa using hc
  refine ha _ c e hrest (runLazy_eq_some rfl hu (fun x hx hne e he => ?_) (hb k _ e rfl ?_))
  · exact hbefore x hx hne k _ he
  · have htake : (w ++ (u ++ (v ++ rest))).take (w.length + u.length) = w ++ u := by
      rw [← List.length_append, ← List.append_assoc, List.take_left]
    rw [← hk]
    simp [Cursor.beyond, hrest, htake, Nat.add_assoc, Option.or_assoc]

theorem length_le_flatten {ws : List (List Char)} (h : ∀ w ∈ ws, w ≠ []) :
    ws.length ≤ ws.flatten.length := by
  induction ws with
  | nil => simp
  | cons w ws ih =>
    have hw : 0 < w.length := List.length_pos_iff.mpr (h w List.mem_cons_self)
    have ih := ih fun x hx => h x (List.mem_cons_of_mem w hx)
    simp only [List.length_cons, List.flatten_cons, List.length_append]
    omega

/-- A repetition takes pieces that its body takes one by one, up to where its body fails. -/
theorem Takes.many {ws : List (List Char)} (hw : ∀ w ∈ ws, w ≠ [] ∧ ∀ r, Takes p w r [])
    (hr : Fails p rest) : Takes (many p) ws.flatten rest [] := by
  intro k c e hc hk
  show upTo (go p) k c.rest.length c = some e
  have hn : ws.length ≤ c.rest.length := by
    have hlength := length_le_flatten fun w hmem => (hw w hmem).1
    rw [hc, List.length_append]
    omega
  generalize c.rest.length = n at hn
  induction ws generalizing c n with
  | nil =>
    rw [List.flatten_nil, Cursor.beyond_nil hc] at hk
    cases n with
    | zero => exact hk
    | succ n => rw [upTo, hr _ c hc]; exact hk
  | cons w ws ih =>
    obtain ⟨n, rfl⟩ : ∃ m, n = m + 1 := ⟨n - 1, by simp at hn; omega⟩
    have hstep : upTo (go p) k n (c.beyond w (ws.flatten ++ rest) []) = some e := by
      refine ih (fun x hx => hw x (List.mem_cons_of_mem w hx)) _ rfl ?_ n (by simpa using hn)
      rwa [c.beyond_beyond]
    rw [List.flatten_cons, List.append_assoc] at hc
    rw [upTo, (hw w List.mem_cons_self).2 (ws.flatten ++ rest) _ c e hc hstep]

/-! ### Blanks, texts and key words -/

theorem Takes.noGap (hr : ∀ d ∈ rest.head?, isBlank d = false) : Takes gap [] rest [] :=
  Takes.run (by simp) hr

theorem TakesFirst.start (hr : ∀ d ∈ rest.head?, isBlank d = false) :
    TakesFirst (Pattern.textStart ++ gap) [] rest [] :=
  TakesFirst.textStart.seq (Takes.noGap hr)

theorem Takes.space (hr : ∀ d ∈ rest.head?, isBlank d = false) : Takes blanks [' '] rest [] :=
  Takes.some1 isBlank rfl (by simp) hr

theorem sameLetter_refl (c : Char) : sameLetter c c = true := by
  simp [sameLetter]

/-- Does no blank stand behind a space. -/
def spaced : List Char → Bool
  | [] => true
  | d :: ds => (d != ' ' || ds.head?.all (!isBlank ·)) && spaced ds

/-- Key words take their own letters and the spaces between them. -/
theorem Takes.phrase {s : String} (hs : s.toList = w) (hw : spaced w = true)
    (hr : w.getLast? = some ' ' → ∀ d ∈ rest.head?, isBlank d = false) :
    Takes (phrase s) w rest [] := by
  rw [Pattern.phrase, hs]
  clear hs
  induction w with
  | nil => exact Takes.empty
  | cons d w ih =>
    simp only [spaced, Bool.and_eq_true, Bool.or_eq_true, bne_iff_ne] at hw
    have hstep := ih hw.2 fun hlast => hr (by rw [List.getLast?_cons, hlast]; rfl)
    simp only [List.foldr_cons]
    refine Takes.seq (w := [d]) ?_ hstep
    by_cases hd : d = ' '
    · subst hd
      refine Takes.space fun x hx => ?_
      cases w with
      | nil => exact hr rfl x hx
      | cons y w => simpa [← Option.some.inj hx] using hw.1
    · rw [if_neg (by simpa using hd)]
      exact Takes.one _ (sameLetter_refl d)

theorem Takes.char (s : String) (d : Char) (hs : s.toList = [d]) : Takes (lit s) [d] rest [] := by
  rw [lit, hs]
  exact (Takes.one _ (by simp)).seq Takes.empty

/-! ## Failing -/

theorem Fails.one {cls : Char → Bool} (h : ∀ d ∈ text.head?, cls d = false) :
    Fails (one cls) text := by
  intro k c hc
  cases text with
  | nil => simp [hc]
  | cons d ds => simp [hc, h d rfl]

theorem Fails.seq (h : Fails a text) : Fails (a ++ b) text :=
  fun k c hc => h (go b k) c hc

theorem Fails.seq_one {cls : Char → Bool} {d : Char} (h : Fails b text) :
    Fails (Pattern.one cls ++ b) (d :: text) := by
  intro k c hc
  show go (Pattern.one cls) (go b k) c = none
  simp [hc, h k (c.past d text) rfl]

theorem Fails.alt (ha : Fails a text) (hb : Fails b text) : Fails (a <|> b) text := by
  intro k c hc
  rw [go_alt, ha k c hc, Option.none_or]
  exact hb k c hc

theorem Fails.opt_seq (ha : Fails a text) (hb : Fails b text) :
    Fails (Pattern.opt a ++ b) text := by
  intro k c hc
  show go (a <|> Pattern.empty) (go b k) c = none
  rw [go_alt, ha _ c hc, Option.none_or]
  exact hb k c hc

theorem Fails.group {name : String} (h : Fails a text) : Fails (Pattern.group name a) text :=
  fun _ c hc => h _ c hc

theorem Fails.assoc {q : Pattern} (h : Fails (a ++ (b ++ q)) text) : Fails (a ++ b ++ q) text := h

theorem Fails.textStart_seq (h : Fails b text) : Fails (Pattern.textStart ++ b) text := by
  intro k c hc
  show go Pattern.textStart (go b k) c = none
  simp [h k c hc]

/-- Behind a repetition a pattern fails if it fails wherever the repetition may stop. -/
theorem Fails.run_seq {cls : Char → Bool} (hb : Fails b text)
    (hmore : ∀ d ds, text = d :: ds → cls d = true → Fails (Pattern.run true cls ++ b) ds) :
    Fails (Pattern.run true cls ++ b) text := by
  intro k c hc
  show runGreedy cls (go b k) c c.rest = none
  rw [hc]
  cases text with
  | nil => exact hb k c hc
  | cons d ds =>
    rw [runGreedy]
    split
    · next hd =>
      have hnone : runGreedy cls (go b k) (c.past d ds) ds = none :=
        hmore d ds rfl hd k (c.past d ds) rfl
      rw [hnone]
      exact hb k c hc
    · exact hb k c hc

/-- Where no blank stands, a pattern fails behind a gap as it does without one. -/
theorem Fails.gap_seq (hb : Fails b text) (hr : ∀ d ∈ text.head?, isBlank d = false) :
    Fails (gap ++ b) text := by
  refine Fails.run_seq hb fun d ds heq hd => ?_
  rw [hr d (by rw [heq]; rfl)] at hd
  cases hd

/-- Before a single space, a pattern fails behind a gap if it fails on both sides of the space. -/
theorem Fails.space_seq (hspace : Fails b (' ' :: text)) (hb : Fails b text)
    (hr : ∀ d ∈ text.head?, isBlank d = false) : Fails (gap ++ b) (' ' :: text) := by
  refine Fails.run_seq hspace fun d ds heq hd => ?_
  rw [← (List.cons.inj heq).2]
  exact Fails.gap_seq hb hr

theorem Fails.char (s : String) (d : Char) (hs : s.toList = [d]) (h : text.head? ≠ some d) :
    Fails (lit s) text := by
  rw [lit, hs]
  refine (Fails.one fun x hx => ?_).seq
  simpa using fun hxd : x = d => h (hxd ▸ hx)

/-- Do the letters of a key word and a text differ before either ends. -/
def differ : List Char → List Char → Bool
  | k :: ks, c :: cs => k != ' ' && (!sameLetter k c || differ ks cs)
  | _, _ => false

theorem Fails.phrase {s : String} (h : differ s.toList text = true) : Fails (phrase s) text := by
  rw [Pattern.phrase]
  generalize s.toList = ks at h
  induction ks generalizing text with
  | nil => simp [differ] at h
  | cons k ks ih =>
    cases text with
    | nil => simp [differ] at h
    | cons c cs =>
      simp only [differ, Bool.and_eq_true, Bool.or_eq_true, Bool.not_eq_true', bne_iff_ne] at h
      simp only [List.foldr_cons, beq_eq_false_iff_ne.mpr h.1]
      rcases h.2 with hc | hcs
      · exact (Fails.one fun d hd => by simp at hd; exact hd ▸ hc).seq
      · exact Fails.seq_one (ih hcs)

theorem Fails.oneOf {ss : List String} (hne : ss ≠ [])
    (h : ∀ s ∈ ss, differ s.toList text = true) : Fails (oneOf ss) text := by
  induction ss with
  | nil => exact absurd rfl hne
  | cons s ss ih =>
    have hs : Fails (Pattern.phrase s) text := Fails.phrase (h s List.mem_cons_self)
    cases ss with
    | nil => exact hs
    | cons s' ss => exact hs.alt (ih (by simp) fun x hx => h x (List.mem_cons_of_mem s hx))

/-! ### What a match needs -/

/-- May a pattern take this character. -/
def mayTake (d : Char) : Pattern → Bool
  | one cls | run _ cls => cls d
  | seq a b | alt a b => a.mayTake d || b.mayTake d
  | many a | group _ a => a.mayTake d
  | empty | edge | textStart | textEnd | lineStart | lineEnd => false

section

variable {P : List Char → Prop} {k : Cursor → Option Cursor}

theorem runGreedy_eq_none {cls : Char → Bool} (hP : ∀ d ds, cls d = true → P (d :: ds) → P ds)
    (hk : ∀ e, P e.rest → k e = none) :
    ∀ (cs : List Char) (c : Cursor), c.rest = cs → P cs → runGreedy cls k c cs = none
  | [], c, hc, h => hk c (hc ▸ h)
  | d :: ds, c, hc, h => by
    have hc : k c = none := hk c (hc ▸ h)
    rw [runGreedy]
    split
    · next hd => rw [runGreedy_eq_none hP hk ds _ rfl (hP d ds hd h), hc]
    · exact hc

theorem runLazy_eq_none {cls : Char → Bool} (hP : ∀ d ds, cls d = true → P (d :: ds) → P ds)
    (hk : ∀ e, P e.rest → k e = none) :
    ∀ (cs : List Char) (c : Cursor), c.rest = cs → P cs → runLazy cls k c cs = none
  | [], c, hc, h => hk c (hc ▸ h)
  | d :: ds, c, hc, h => by
    have hc : k c = none := hk c (hc ▸ h)
    rw [runLazy, hc]
    simp only
    split
    · next hd => exact runLazy_eq_none hP hk ds _ rfl (hP d ds hd h)
    · rfl

theorem upTo_eq_none {body : (Cursor → Option Cursor) → Cursor → Option Cursor}
    (hbody : ∀ k c, P c.rest → (∀ e, P e.rest → k e = none) → body k c = none)
    (hk : ∀ e, P e.rest → k e = none) :
    ∀ (n : Nat) (c : Cursor), P c.rest → upTo body k n c = none
  | 0, c, h => hk c h
  | n + 1, c, h => by
    have hmore : body (upTo body k n) c = none :=
      hbody _ c h fun e he => upTo_eq_none hbody hk n e he
    rw [upTo, hmore]
    exact hk c h

/-- There is no match from a place with a property that every character the pattern may take leaves
to the text behind it, if nothing can follow where the property holds. -/
theorem go_eq_none_of_kept (p : Pattern) (hp : ∀ d ds, p.mayTake d = true → P (d :: ds) → P ds)
    (k : Cursor → Option Cursor) (c : Cursor) (hc : P c.rest) (hk : ∀ e, P e.rest → k e = none) :
    p.go k c = none := by
  induction p generalizing k c with
  | empty => exact hk c hc
  | one cls =>
    cases hrest : c.rest with
    | nil => simp [hrest]
    | cons d ds =>
      have htaken : cls d = true → k (c.past d ds) = none :=
        fun hd => hk _ (hp d ds hd (hrest ▸ hc))
      simpa [hrest] using htaken
  | seq a b iha ihb =>
    refine iha (fun d ds hd => hp d ds (by simp [mayTake, hd])) _ c hc fun e he => ?_
    exact ihb (fun d ds hd => hp d ds (by simp [mayTake, hd])) k e he hk
  | alt a b iha ihb =>
    have ha := iha (fun d ds hd => hp d ds (by simp [mayTake, hd])) k c hc hk
    have hb := ihb (fun d ds hd => hp d ds (by simp [mayTake, hd])) k c hc hk
    simp [ha, hb]
  | run greedy cls =>
    cases greedy with
    | true => exact runGreedy_eq_none hp hk c.rest c rfl hc
    | false => exact runLazy_eq_none hp hk c.rest c rfl hc
  | many a ih => exact upTo_eq_none (ih hp) hk _ c hc
  | group name a ih => exact ih hp _ c hc fun e he => hk _ he
  | edge | textStart | textEnd | lineStart | lineEnd => simp [hk c hc]

end

/-- A match only ever moves on: if nothing can follow behind any part of the text ahead, there is
no match. -/
theorem go_eq_none (p : Pattern) (k : Cursor → Option Cursor) (c : Cursor)
    (h : ∀ e, e.rest <:+ c.rest → k e = none) : p.go k c = none :=
  go_eq_none_of_kept p (fun d ds _ hs => (List.suffix_cons d ds).trans hs) k c List.suffix_rfl h

/-- A pattern that cannot take the last character of a text does not reach its end. -/
theorem Fails.last {d : Char} (ha : a.mayTake d = false) (hd : text.getLast? = some d) :
    Fails (a ++ Pattern.textEnd) text := by
  intro k c hc
  refine go_eq_none_of_kept (P := (·.getLast? = some d)) a ?_ _ c (hc ▸ hd) fun e he => ?_
  · intro x xs hx hlast
    cases xs with
    | nil =>
      obtain rfl : x = d := Option.some.inj hlast
      rw [ha] at hx
      cases hx
    | cons y ys => rwa [List.getLast?_cons_cons] at hlast
  · have hne : e.rest ≠ [] := by
      intro hnil
      rw [hnil] at he
      cases he
    simp [hne]

/-- A pattern does not match in a text without a character that it needs. -/
theorem Fails.needs {s : String} {d : Char} (hs : s.toList = [d]) (hd : d ∉ text) :
    Fails (a ++ lit s) text := by
  intro k c hc
  refine go_eq_none a _ c fun e he => Fails.char s d hs ?_ k e rfl
  intro hhead
  exact hd (hc ▸ he.subset (List.mem_of_mem_head? hhead))

/-! ## Finding -/

/-- A search moves on where the pattern fails. -/
theorem findFrom_of_fails {prev : Option Char} {passed : List Char} {d : Char}
    (h : Fails p (d :: text)) :
    p.findFrom prev passed (d :: text) = p.findFrom (some d) (d :: passed) text := by
  rw [findFrom, h some ⟨prev, d :: text, 0, []⟩ rfl]

/-- Nothing is found where the pattern fails before every part of the text. -/
theorem findFrom_eq_none (h : ∀ s, s <:+ text → Fails p s) (prev : Option Char)
    (passed : List Char) : p.findFrom prev passed text = none := by
  induction text generalizing prev passed with
  | nil => simp [findFrom, h [] List.suffix_rfl some ⟨prev, [], 0, []⟩ rfl]
  | cons d ds ih =>
    rw [findFrom_of_fails (h _ List.suffix_rfl)]
    exact ih (fun s hs => h s (hs.trans (List.suffix_cons d ds))) _ _

/-- What was passed over stands before the match, and is nothing else to it. -/
theorem findFrom_passed (p : Pattern) (prev : Option Char) (passed cs : List Char) :
    p.findFrom prev passed cs =
      (p.findFrom prev [] cs).map fun f => { f with before := passed.reverse ++ f.before } := by
  induction cs generalizing prev passed with
  | nil =>
    rw [findFrom.eq_def, findFrom.eq_def]
    split
    · simp
    · rfl
  | cons d ds ih =>
    rw [findFrom.eq_def, findFrom.eq_def p prev [] (d :: ds)]
    split
    · simp
    · simp only
      rw [ih (some d) (d :: passed), ih (some d) [d], Option.map_map]
      simp [Function.comp_def]

/-- Patterns that only match at the start of a text. -/
def Anchored (p : Pattern) : Prop := ∀ k c, c.prev ≠ none → p.go k c = none

theorem Anchored.textStart : Anchored textStart := by
  intro k c hc
  simp [Option.isNone_iff_eq_none, hc]

theorem Anchored.seq (h : Anchored a) : Anchored (a ++ b) :=
  fun k c hc => h (go b k) c hc

theorem Anchored.findFrom_eq_none (h : Anchored p) (passed : List Char) (d : Char) :
    p.findFrom (some d) passed text = none := by
  induction text generalizing passed d with
  | nil => simp [findFrom, h some ⟨some d, [], 0, []⟩ (by simp)]
  | cons x xs ih => simp [findFrom, h some ⟨some d, x :: xs, 0, []⟩ (by simp), ih]

/-- Nothing is found if the pattern fails at the start and cannot match further on. -/
theorem Anchored.find?_eq_none (h : Anchored p) (hp : Fails p text) : p.find? text = none := by
  rw [find?, findFrom.eq_def, hp some ⟨none, text, 0, []⟩ rfl]
  cases text with
  | nil => rfl
  | cons d ds => exact h.findFrom_eq_none _ d

/-- What a pattern takes at the start of a text is what is found. -/
theorem TakesFirst.find? (h : TakesFirst p w rest gs) :
    p.find? (w ++ rest) = some ⟨[], w, rest, w.getLast?, gs⟩ := by
  have hgo := h some ⟨none, w ++ rest, 0, []⟩ _ rfl rfl rfl
  rw [Pattern.find?, findFrom.eq_def, hgo]
  simp [Cursor.beyond]

/-! ## Identifiers -/

/-- The quotes that an identifier may stand in. -/
def QuotePair (l r : Char) : Prop := (l, r) ∈ [('"', '"'), ('`', '`'), ('[', ']')]

instance (l r : Char) : Decidable (QuotePair l r) := inferInstanceAs (Decidable (_ ∈ _))

theorem QuotePair.cases {l r : Char} (h : QuotePair l r) :
    (l = '"' ∧ r = '"') ∨ (l = '`' ∧ r = '`') ∨ (l = '[' ∧ r = ']') := by
  simpa [QuotePair] using h

/-- What may stand between quotes: any character, the quote being written twice. -/
def inside (q : Char) (twice : String) : Pattern := one (· != q) <|> lit twice

theorem lit_twice {q : Char} {twice : String} (h : twice.toList = [q, q]) :
    lit twice = one (· == q) ++ (one (· == q) ++ empty) := by
  rw [lit, h]
  rfl

theorem takes_inside {q : Char} {twice : String} (h : twice.toList = [q, q]) (c : Char) :
    Takes (inside q twice) (double q [c]) rest [] := by
  by_cases hc : c = q
  · subst hc
    have htwice : double c [c] = [c, c] := by simp [double]
    rw [htwice]
    refine Takes.right (Fails.one (by simp)) ?_
    rw [lit_twice h]
    exact Takes.seq (w := [c]) (Takes.one _ (by simp))
      (Takes.seq (w := [c]) (Takes.one _ (by simp)) Takes.empty)
  · have hself : double q [c] = [c] := double_eq_self (by simpa using Ne.symm hc)
    rw [hself]
    exact Takes.left (Takes.one _ (by simpa using hc))

/-- A closing quote could be the first of two, but for what follows it. -/
theorem fails_inside {q : Char} {twice : String} (h : twice.toList = [q, q])
    (hrest : rest.head? ≠ some q) : Fails (inside q twice) (q :: rest) := by
  refine (Fails.one (by simp)).alt ?_
  rw [lit_twice h]
  refine Fails.seq_one (Fails.one fun x hx => ?_).seq
  simpa using fun hxq : x = q => hrest (hxq ▸ hx)

theorem takes_many_inside {q : Char} {twice : String} (h : twice.toList = [q, q])
    (cs : List Char) (hrest : rest.head? ≠ some q) :
    Takes (many (inside q twice)) (double q cs) (q :: rest) [] := by
  have hpieces : ∀ w ∈ cs.map fun x => double q [x],
      w ≠ [] ∧ ∀ r, Takes (inside q twice) w r [] := by
    refine List.forall_mem_map.mpr fun x _ => ⟨?_, fun r => takes_inside h x⟩
    by_cases hx : x = q <;> simp [double, hx]
  have htext : double q cs = (cs.map fun x => double q [x]).flatten := by
    simp [double, List.flatMap_def]
  rw [htext]
  exact Takes.many hpieces (fails_inside h hrest)

/-- A name in straight quotes is taken with its quotes. -/
theorem takes_doubled {name : List Char} (hne : name ≠ []) (hrest : rest.head? ≠ some '"') :
    Takes identifier ('"' :: double '"' name ++ ['"']) rest [] := by
  obtain ⟨c, cs, rfl⟩ := List.exists_cons_of_ne_nil hne
  have htwice : "\"\"".toList = ['"', '"'] := rfl
  have htext : '"' :: double '"' (c :: cs) ++ ['"']
      = ['"'] ++ double '"' [c] ++ double '"' cs ++ ['"'] := by
    simp [double]
  rw [htext]
  exact Takes.left ((((Takes.char "\"" '"' rfl).seq (takes_inside htwice c)).seq
    (takes_many_inside htwice cs hrest)).seq (Takes.char "\"" '"' rfl))

/-- A string literal is taken with its quotes. -/
theorem takes_quotedText (cs : List Char) (hrest : rest.head? ≠ some '\'') :
    Takes quotedText ('\'' :: double '\'' cs ++ ['\'']) rest [] :=
  ((Takes.char "'" '\'' rfl).seq (takes_many_inside rfl cs hrest)).seq (Takes.char "'" '\'' rfl)

/-- What stands between two marks is taken with them, if the closing mark is not in it. -/
theorem Takes.between (opening closing : String) {l r d : Char} {ds : List Char}
    (hl : opening.toList = [l]) (hr : closing.toList = [r]) (hds : ∀ x ∈ d :: ds, (x != r) = true) :
    Takes (lit opening ++ Pattern.some1 (· != r) ++ lit closing) (l :: d :: ds ++ [r]) rest [] := by
  have hinner : Takes (Pattern.some1 (· != r)) (d :: ds) ([r] ++ rest) [] :=
    Takes.some1 _ (hds d List.mem_cons_self) (fun x hx => hds x (List.mem_cons_of_mem d hx))
      (by simp)
  exact ((Takes.char opening l hl).seq hinner).seq (Takes.char closing r hr)

/-- An identifier in quotes is taken with its quotes. -/
theorem Takes.identifier {l r : Char} {name : List Char} (hq : QuotePair l r) (hne : name ≠ [])
    (hr : r ∉ name) (hrest : rest.head? ≠ some '"') :
    Takes identifier (l :: name ++ [r]) rest [] := by
  have hstraight := takes_doubled hne hrest
  obtain ⟨d, ds, rfl⟩ := List.exists_cons_of_ne_nil hne
  have hds : ∀ x ∈ d :: ds, (x != r) = true := fun x hx => by
    simpa using fun hxr : x = r => hr (hxr ▸ hx)
  rcases hq.cases with ⟨rfl, rfl⟩ | ⟨rfl, rfl⟩ | ⟨rfl, rfl⟩
  · rwa [double_eq_self hr] at hstraight
  · exact Takes.right (Fails.char "\"" '"' rfl (by simp)).seq.seq.seq
      (Takes.between "`" "`" rfl rfl hds).left
  · exact Takes.right (Fails.char "\"" '"' rfl (by simp)).seq.seq.seq
      (Takes.right (Fails.char "`" '`' rfl (by simp)).seq.seq
        (Takes.between "[" "]" rfl rfl hds).left)

/-- A name alone is a qualified name, if no dot follows. -/
theorem Takes.name (hw : Takes Pattern.identifier w rest []) (hrest : Fails (gap ++ lit ".") rest) :
    Takes qualifiedName w rest [] := by
  have h : Takes qualifiedName (w ++ []) rest [] := hw.seq (Takes.skip hrest.seq.seq.seq)
  rwa [List.append_nil] at h

theorem takes_further (hv : Takes Pattern.identifier v rest [])
    (hblank : ∀ d ∈ (v ++ rest).head?, isBlank d = false) :
    Takes (gap ++ lit "." ++ gap ++ Pattern.identifier) ('.' :: v) rest [] :=
  (((Takes.noGap (by simp [isBlank])).seq (Takes.char "." '.' rfl)).seq (Takes.noGap hblank)).seq hv

/-- A name with its schema is a qualified name, if no further dot follows. -/
theorem Takes.dottedName (hw : Takes Pattern.identifier w ('.' :: v ++ rest) [])
    (hv : Takes Pattern.identifier v rest []) (hblank : ∀ d ∈ (v ++ rest).head?, isBlank d = false)
    (hrest : Fails (gap ++ lit ".") rest) : Takes qualifiedName (w ++ '.' :: v) rest [] := by
  have hend := (takes_further hv hblank).seq
    (Takes.skip (p := gap ++ lit "." ++ gap ++ Pattern.identifier) hrest.seq.seq)
  rw [List.append_nil] at hend
  exact hw.seq hend.opt

/-- Three names are a qualified name, whatever follows the third. -/
theorem Takes.dottedNames {u : List Char}
    (hw : Takes Pattern.identifier w ('.' :: v ++ '.' :: u ++ rest) [])
    (hv : Takes Pattern.identifier v ('.' :: u ++ rest) [])
    (hvblank : ∀ d ∈ (v ++ ('.' :: u ++ rest)).head?, isBlank d = false)
    (hu : Takes Pattern.identifier u rest [])
    (hublank : ∀ d ∈ (u ++ rest).head?, isBlank d = false) :
    Takes qualifiedName (w ++ ('.' :: v ++ '.' :: u)) rest [] :=
  hw.seq ((takes_further hv hvblank).seq (takes_further hu hublank).opt).opt

end Pattern

end SchemaChart.Text
