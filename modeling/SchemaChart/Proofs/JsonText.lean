-- The text of a JSON value. An indented text is read as the value that it was written from, unless
-- there is a number in it that its own digits do not give back.
import Mathlib.Data.List.DropRight
import Mathlib.Data.List.TakeDrop
import SchemaChart.Data.Json

namespace SchemaChart.Data.Json

/-! ## Strings -/

theorem hex4?_control : ∀ n < 32,
    hex4? '0' '0' (hexDigit (n / 16)) (hexDigit (n % 16)) = some n := by
  decide

theorem ofNat_control : ∀ n < 32, Piece.ofNat n = .char (Char.ofNat n) := by
  decide

/-- A character is read from its escaped form. -/
theorem stringRest_escapeChar {cs r : List Char} {ps : List Piece} (c : Char)
    (h : stringRest cs = some (ps, r)) :
    stringRest (escapeChar c ++ cs) = some (.char c :: ps, r) := by
  unfold escapeChar
  split
  · simp [stringRest, shortEscape?, h]
  · simp [stringRest, shortEscape?, h]
  · simp [stringRest, shortEscape?, h]
  · simp [stringRest, shortEscape?, h]
  · simp [stringRest, shortEscape?, h]
  · next hquote hslash _ _ _ =>
    split
    · next hc =>
      have hc : c = Char.ofNat 8 := by rw [← beq_iff_eq.mp hc, Char.ofNat_toNat]
      simp [stringRest, shortEscape?, h, hc]
    · split
      · next hc =>
        have hc : c = Char.ofNat 12 := by rw [← beq_iff_eq.mp hc, Char.ofNat_toNat]
        simp [stringRest, shortEscape?, h, hc]
      · split
        · next hc =>
          simp [stringRest, hex4?_control _ hc, ofNat_control _ hc, h, Char.ofNat_toNat]
        · next hc =>
          have hplain : ¬ (c == '\\' || decide (c.toNat < 0x20)) = true := by
            simpa [hc] using hslash
          rw [List.singleton_append, stringRest]
          · rw [if_neg hplain, h]
            rfl
          all_goals simp_all

/-- A string is read to its closing quote. -/
theorem stringRest_escaped (cs rest : List Char) :
    stringRest (cs.flatMap escapeChar ++ '"' :: rest) = some (cs.map .char, rest) := by
  induction cs with
  | nil => rfl
  | cons c cs ih =>
    rw [List.flatMap_cons, List.append_assoc, stringRest_escapeChar c ih]
    rfl

theorem textOf?_chars (cs : List Char) : textOf? (cs.map .char) = some cs := by
  induction cs with
  | nil => rfl
  | cons c cs ih => simp [textOf?, ih]

theorem quote_toList (s : String) :
    (quote s).toList = '"' :: (s.toList.flatMap escapeChar ++ ['"']) := by
  simp [quote, String.toList_append]

/-! ## Numbers -/

/-- Nothing that a number could go on with stands at the start of a text. -/
def Ends (rest : List Char) : Prop :=
  ∀ c ∈ rest.head?, c.isDigit = false ∧ c ≠ '.' ∧ c ≠ 'e' ∧ c ≠ 'E'

theorem ends_nil : Ends [] := by
  intro c hc
  cases hc

section

variable {cs ds r rest : List Char} {e : Option Int} {negative : Bool} {n : Number}

theorem takeDigits_append (hrest : Ends rest) (cs : List Char) :
    takeDigits (cs ++ rest) = ((takeDigits cs).1, (takeDigits cs).2 ++ rest) := by
  unfold takeDigits
  rw [List.span_eq_takeWhile_dropWhile, List.span_eq_takeWhile_dropWhile]
  induction cs with
  | nil =>
    cases rest with
    | nil => rfl
    | cons c rest => simp [(hrest c rfl).1]
  | cons c cs ih =>
    rw [Prod.mk.injEq] at ih
    by_cases hc : c.isDigit = true
    · simp [hc, ih]
    · simp [hc]

theorem takeDigits_digits (h : ∀ c ∈ cs, c.isDigit = true) : takeDigits cs = (cs, []) := by
  unfold takeDigits
  rw [List.span_eq_takeWhile_dropWhile]
  induction cs with
  | nil => rfl
  | cons c cs ih =>
    have ih := ih fun x hx => h x (List.mem_cons_of_mem c hx)
    rw [Prod.mk.injEq] at ih
    simp [h c List.mem_cons_self, ih]

theorem fraction?_append (hrest : Ends rest) (h : fraction? cs = some (ds, r)) :
    fraction? (cs ++ rest) = some (ds, r ++ rest) := by
  cases cs with
  | nil =>
    obtain ⟨rfl, rfl⟩ : [] = ds ∧ [] = r := by simpa [fraction?] using h
    cases rest with
    | nil => rfl
    | cons c rest => simp [fraction?, (hrest c rfl).2.1]
  | cons c cs =>
    by_cases hc : c = '.'
    · subst hc
      rcases hdigits : takeDigits cs with ⟨d, q⟩
      simp only [fraction?, List.cons_append, takeDigits_append hrest, hdigits] at h ⊢
      cases d with
      | nil => cases h
      | cons x d =>
        obtain ⟨rfl, rfl⟩ : x :: d = ds ∧ q = r := by simpa using h
        rfl
    · obtain ⟨rfl, rfl⟩ : [] = ds ∧ c :: cs = r := by simpa [fraction?, hc] using h
      simp [fraction?, hc]

/-- The sign of an exponent, and the text behind it. -/
def exponentSign : List Char → Bool × List Char
  | '-' :: r => (true, r)
  | '+' :: r => (false, r)
  | r => (false, r)

theorem exponentSign_append {cs : List Char} (hne : cs ≠ []) (rest : List Char) :
    exponentSign (cs ++ rest) = ((exponentSign cs).1, (exponentSign cs).2 ++ rest) := by
  obtain ⟨c, cs, rfl⟩ := List.exists_cons_of_ne_nil hne
  by_cases hminus : c = '-'
  · subst hminus
    rfl
  · by_cases hplus : c = '+'
    · subst hplus
      rfl
    · simp [exponentSign, hminus, hplus]

theorem exponent?_cons {c : Char} (hc : (c == 'e' || c == 'E') = true) (cs : List Char) :
    exponent? (c :: cs) =
      if (takeDigits (exponentSign cs).2).1.isEmpty then none
      else
        let n : Int := natOfDigits (takeDigits (exponentSign cs).2).1
        some (some (if (exponentSign cs).1 then -n else n),
          (takeDigits (exponentSign cs).2).2) := by
  unfold exponent?
  dsimp only
  rw [if_pos hc]
  split
  · next r hdigits =>
    have hdigits : takeDigits (exponentSign cs).2 = ([], r) := hdigits
    rw [hdigits]
    rfl
  · next ds r hne hdigits =>
    have hdigits : takeDigits (exponentSign cs).2 = (ds, r) := hdigits
    have hsome : ¬ ds.isEmpty = true := by simpa using hne
    rw [hdigits, if_neg hsome]
    rfl

theorem exponent?_append (hrest : Ends rest) (h : exponent? cs = some (e, r)) :
    exponent? (cs ++ rest) = some (e, r ++ rest) := by
  cases cs with
  | nil =>
    obtain ⟨rfl, rfl⟩ : none = e ∧ [] = r := by simpa [exponent?] using h
    cases rest with
    | nil => rfl
    | cons c rest => simp [exponent?, hrest c rfl]
  | cons c cs =>
    by_cases hc : (c == 'e' || c == 'E') = true
    · have hne : cs ≠ [] := by
        rintro rfl
        rw [exponent?_cons hc] at h
        cases h
      rw [exponent?_cons hc] at h
      rw [List.cons_append, exponent?_cons hc, exponentSign_append hne, takeDigits_append hrest]
      dsimp only at h ⊢
      split at h
      · cases h
      · next hdigits =>
        obtain ⟨rfl, rfl⟩ := Prod.mk.inj (Option.some.inj h)
        rw [if_neg hdigits]
    · obtain ⟨rfl, rfl⟩ : none = e ∧ c :: cs = r := by simpa [exponent?, hc] using h
      simp [exponent?, hc]

/-- A number is read the same before a text that it cannot go on with. -/
theorem number?_append (hrest : Ends rest) (h : number? negative cs = some (n, r)) :
    number? negative (cs ++ rest) = some (n, r ++ rest) := by
  unfold number? at h ⊢
  rw [takeDigits_append hrest]
  dsimp only at h ⊢
  split at h
  · cases h
  · next hwhole =>
    rw [if_neg hwhole]
    obtain ⟨⟨part, q'⟩, hpart, h⟩ := Option.bind_eq_some_iff.mp h
    obtain ⟨⟨e, q''⟩, he, h⟩ := Option.bind_eq_some_iff.mp h
    simp only [fraction?_append hrest hpart, exponent?_append hrest he, Option.bind_eq_bind,
      Option.bind_some] at h ⊢
    split at h
    · next hint =>
      obtain ⟨rfl, rfl⟩ := Prod.mk.inj (Option.some.inj h)
      rw [if_pos hint]
    · next hint =>
      obtain ⟨rfl, rfl⟩ := Prod.mk.inj (Option.some.inj h)
      rw [if_neg hint]

/-- A number starts with a digit. -/
theorem number?_head (h : number? negative cs = some (n, r)) :
    ∃ c ds, cs = c :: ds ∧ c.isDigit = true := by
  unfold number? at h
  cases cs with
  | nil => cases h
  | cons c ds =>
    refine ⟨c, ds, rfl, ?_⟩
    by_contra hc
    have hdigits : (takeDigits (c :: ds)).1 = [] := by
      rw [takeDigits, List.span_eq_takeWhile_dropWhile]
      simp [hc]
    simp [hdigits] at h

end

/-! ### Integers -/

theorem natOfDigits_toDigits (n : Nat) : natOfDigits (Nat.toDigits 10 n) = n := by
  have hfold := Nat.ofDigitChars_ten_toDigits (n := n)
  rwa [Nat.ofDigitChars_eq_foldl] at hfold

theorem toDigits_head {n : Nat} (hn : 0 < n) : (Nat.toDigits 10 n).head? ≠ some '0' := by
  induction n using Nat.strongRecOn with
  | _ n ih =>
    by_cases hlt : n < 10
    · rw [Nat.toDigits_of_lt_base hlt, List.head?_cons, ne_eq, Option.some.injEq,
        Nat.digitChar_eq_zero]
      omega
    · have hrest := ih (n / 10) (by omega) (by omega)
      rw [Nat.toDigits_of_base_le (by decide) (by omega), List.head?_append]
      rcases hhead : (Nat.toDigits 10 (n / 10)).head? with _ | c
      · exact absurd (List.head?_eq_none_iff.mp hhead) Nat.toDigits_ne_nil
      · rw [hhead] at hrest
        exact hrest

theorem number?_toDigits (negative : Bool) (n : Nat) :
    number? negative (Nat.toDigits 10 n) =
      some (integerNumber negative (Nat.toDigits 10 n), []) := by
  have hdigits : ∀ c ∈ Nat.toDigits 10 n, c.isDigit = true := fun c hc =>
    Nat.isDigit_of_mem_toDigits (by decide) (by decide) hc
  have hzero : ¬ ((Nat.toDigits 10 n).head? = some '0' ∧ 1 < (Nat.toDigits 10 n).length) := by
    rintro ⟨hhead, hlength⟩
    rcases Nat.eq_zero_or_pos n with rfl | hn
    · exact absurd hlength (by decide)
    · exact toDigits_head hn hhead
  unfold number?
  rw [takeDigits_digits hdigits]
  dsimp only
  rw [if_neg]
  · rfl
  · simpa [Nat.toDigits_ne_nil] using hzero

/-! ## Single values -/

theorem skipBlanks_cons {c : Char} (hc : (c == ' ' || c == '\n' || c == '\t' || c == '\r') = false)
    (cs : List Char) : skipBlanks (c :: cs) = c :: cs := by
  rw [skipBlanks, List.dropWhile_cons_of_neg (by simp [hc])]

theorem skipBlanks_append {cs : List Char} (h : skipBlanks cs ≠ []) (rest : List Char) :
    skipBlanks (cs ++ rest) = skipBlanks cs ++ rest := by
  unfold skipBlanks at *
  rw [List.dropWhile_append, if_neg (by simpa using h)]

theorem skipBlanks_blank {cs : List Char} (h : skipBlanks cs = []) (rest : List Char) :
    skipBlanks (cs ++ rest) = skipBlanks rest := by
  unfold skipBlanks at *
  rw [List.dropWhile_append, if_pos (by simpa using h)]

theorem isDigit_ne {c d : Char} (hc : c.isDigit = true) (hd : d.isDigit = false) : c ≠ d := by
  rintro rfl
  rw [hc] at hd
  cases hd

theorem afterWord?_eq_none {word : String} {c d : Char} {ds : List Char}
    (hword : word.toList = d :: ds) (hc : c ≠ d) (cs : List Char) :
    afterWord? word (c :: cs) = none := by
  simp [afterWord?, hword, Ne.symm hc]

theorem value_digit {c : Char} (hc : c.isDigit = true) (depth : Nat) (cs : List Char) :
    value (depth + 1) (c :: cs) =
      (number? false (c :: cs)).map (fun p => (ofNumber p.1, p.2)) := by
  have hblank : skipBlanks (c :: cs) = c :: cs := by
    apply skipBlanks_cons
    simp [isDigit_ne hc (d := ' ') rfl, isDigit_ne hc (d := '\n') rfl,
      isDigit_ne hc (d := '\t') rfl, isDigit_ne hc (d := '\r') rfl]
  have hnull : afterWord? "null" (c :: cs) = none := afterWord?_eq_none rfl (isDigit_ne hc rfl) cs
  have htrue : afterWord? "true" (c :: cs) = none := afterWord?_eq_none rfl (isDigit_ne hc rfl) cs
  have hfalse : afterWord? "false" (c :: cs) = none :=
    afterWord?_eq_none rfl (isDigit_ne hc rfl) cs
  unfold value
  rw [hblank]
  simp [hnull, htrue, hfalse, isDigit_ne hc (d := '"') rfl, isDigit_ne hc (d := '[') rfl,
    isDigit_ne hc (d := '\x7b') rfl, isDigit_ne hc (d := '-') rfl]

theorem ofNumber_eq_num {n m : Number} (h : ofNumber n = num m) : n = m := by
  unfold ofNumber at h
  split at h
  · cases h
  · exact num.inj h

theorem ofPieces_ne_num (ps : List Piece) (n : Number) : ofPieces ps ≠ num n := by
  unfold ofPieces
  split <;> simp

theorem ofFields_ne_num (fs : List (List Piece × Json)) (n : Number) : ofFields fs ≠ num n := by
  unfold ofFields
  split <;> simp

theorem value_skipBlanks (depth : Nat) (cs : List Char) :
    value depth (skipBlanks cs) = value depth cs := by
  cases depth with
  | zero => rfl
  | succ depth =>
    have hagain : skipBlanks (skipBlanks cs) = skipBlanks cs := by
      unfold skipBlanks
      exact List.dropWhile_idempotent _ cs
    unfold value
    rw [hagain]

theorem value_minus (depth : Nat) (cs : List Char) :
    value (depth + 1) ('-' :: cs) = (number? true cs).map (fun p => (ofNumber p.1, p.2)) := rfl

/-- What is read as a number is a number behind its sign. -/
theorem number?_of_value {depth : Nat} {cs r : List Char} {n : Number}
    (h : value depth cs = some (num n, r)) :
    ofNumber n = num n ∧ ∃ negative ds, skipBlanks cs = (if negative then ['-'] else []) ++ ds ∧
      number? negative ds = some (n, r) := by
  cases depth with
  | zero => cases h
  | succ depth =>
    unfold value at h
    split at h
    · obtain ⟨p, -, hp⟩ := Option.map_eq_some_iff.mp h
      exact absurd (Prod.ext_iff.mp hp).1 (ofPieces_ne_num _ _)
    · split at h
      · cases h
      · obtain ⟨p, -, hp⟩ := Option.map_eq_some_iff.mp h
        cases hp
    · split at h
      · cases h
      · obtain ⟨p, -, hp⟩ := Option.map_eq_some_iff.mp h
        exact absurd (Prod.ext_iff.mp hp).1 (ofFields_ne_num _ _)
    · next ds hminus =>
      obtain ⟨⟨m, q⟩, hp, hm⟩ := Option.map_eq_some_iff.mp h
      obtain ⟨hnum, rfl⟩ := Prod.mk.inj hm
      obtain rfl := ofNumber_eq_num hnum
      exact ⟨hnum, true, ds, hminus, hp⟩
    · simp only [Option.orElse_eq_orElse, Option.orElse_eq_or, Option.or_eq_some_iff,
        Option.map_eq_some_iff] at h
      rcases h with ⟨q, -, hq⟩ | ⟨-, h⟩
      · cases hq
      rcases h with ⟨q, -, hq⟩ | ⟨-, h⟩
      · cases hq
      rcases h with ⟨q, -, hq⟩ | ⟨-, ⟨m, q⟩, hp, hm⟩
      · cases hq
      obtain ⟨hnum, rfl⟩ := Prod.mk.inj hm
      obtain rfl := ofNumber_eq_num hnum
      exact ⟨hnum, false, _, rfl, hp⟩

theorem value_of_number? {negative : Bool} {ds r rest : List Char} {n : Number}
    (h : number? negative ds = some (n, r)) (hn : ofNumber n = num n) (hrest : Ends rest)
    (depth : Nat) :
    value (depth + 1) ((if negative then ['-'] else []) ++ ds ++ rest) =
      some (num n, r ++ rest) := by
  have hnumber := number?_append hrest h
  cases negative with
  | true =>
    show value (depth + 1) ('-' :: (ds ++ rest)) = _
    rw [value_minus, hnumber, Option.map_some, hn]
  | false =>
    obtain ⟨c, ds, rfl, hc⟩ := number?_head h
    show value (depth + 1) (c :: (ds ++ rest)) = _
    rw [value_digit hc, ← List.cons_append, hnumber, Option.map_some, hn]

/-- A text is read as a value, up to blanks, if nothing stands behind it that a number could go on
with. -/
def Reads (depth : Nat) (text : List Char) (j : Json) : Prop :=
  ∀ rest, Ends rest → ∃ r, value depth (text ++ rest) = some (j, r) ∧ skipBlanks r = skipBlanks rest

/-- Is the text of a number read as this number. -/
def readsBack (x : Binary64) : Bool :=
  match parse? (Number.real x).render with
  | some (num (.real y)) => y == x
  | _ => false

theorem parse?_of_readsBack {x : Binary64} (h : readsBack x = true) :
    parse? (Number.real x).render = some (num (.real x)) := by
  unfold readsBack at h
  split at h
  · next y hy => rw [hy, beq_iff_eq.mp h]
  · cases h

theorem value_of_parse? {s : String} {j : Json} (h : parse? s = some j) :
    ∃ r, value (s.length + 1) s.toList = some (j, r) ∧ skipBlanks r = [] := by
  unfold parse? at h
  split at h
  · next i r hvalue =>
    split at h
    · next hblank =>
      rw [Option.some.inj h] at hvalue
      exact ⟨r, hvalue, by simpa using hblank⟩
    · cases h
  · cases h

theorem reads_real {x : Binary64} (h : readsBack x = true) (depth : Nat) :
    Reads (depth + 1) (Number.real x).render.toList (num (.real x)) := by
  intro rest hrest
  obtain ⟨r, hvalue, hblank⟩ := value_of_parse? (parse?_of_readsBack h)
  obtain ⟨hnum, negative, ds, htext, hnumber⟩ := number?_of_value hvalue
  have hne : skipBlanks (Number.real x).render.toList ≠ [] := by
    obtain ⟨c, ds, rfl, -⟩ := number?_head hnumber
    rw [htext]
    simp
  refine ⟨r ++ rest, ?_, skipBlanks_blank hblank rest⟩
  rw [← value_skipBlanks, skipBlanks_append hne, htext]
  exact value_of_number? hnumber hnum hrest depth

theorem render_nonnegative (n : Nat) : (Number.int n).render.toList = Nat.toDigits 10 n :=
  Nat.toList_repr

theorem render_negative (n : Nat) :
    (Number.int (Int.negSucc n)).render.toList = '-' :: Nat.toDigits 10 (n + 1) := by
  show ("-" ++ (n + 1).repr).toList = _
  rw [String.toList_append, Nat.toList_repr]
  rfl

theorem reads_int {n : Int} (hlow : -9223372036854775808 ≤ n) (hhigh : n < 18446744073709551616)
    (depth : Nat) : Reads (depth + 1) (Number.int n).render.toList (num (.int n)) := by
  intro rest hrest
  refine ⟨rest, ?_, rfl⟩
  cases n with
  | ofNat n =>
    have hn : n < Nat.pow 2 64 := by
      have hn : (n : Int) < 18446744073709551616 := hhigh
      show n < 18446744073709551616
      omega
    have hint : integerNumber false (Nat.toDigits 10 n) = .int n := by
      rw [integerNumber, natOfDigits_toDigits]
      simp [hn]
    have hnumber := number?_toDigits false n
    rw [hint] at hnumber
    rw [show Int.ofNat n = n from rfl, render_nonnegative]
    exact value_of_number? hnumber rfl hrest depth
  | negSucc n =>
    have hn : n + 1 ≤ Nat.pow 2 63 := by
      show n + 1 ≤ 9223372036854775808
      omega
    have hint : integerNumber true (Nat.toDigits 10 (n + 1)) = .int (Int.negSucc n) := by
      rw [integerNumber, natOfDigits_toDigits]
      simp [hn, Int.negSucc_eq]
    have hnumber := number?_toDigits true (n + 1)
    rw [hint] at hnumber
    rw [render_negative]
    exact value_of_number? hnumber rfl hrest depth

/-! ## Arrays and objects -/

theorem newLine_toList (level : Nat) :
    (newLine level).toList = '\n' :: List.replicate (2 * level) ' ' := by
  simp [newLine]

theorem skipBlanks_newLine (level : Nat) (cs : List Char) :
    skipBlanks ((newLine level).toList ++ cs) = skipBlanks cs := by
  apply skipBlanks_blank
  rw [newLine_toList]
  simp [skipBlanks]

theorem value_newLine (depth level : Nat) (cs : List Char) :
    value depth ((newLine level).toList ++ cs) = value depth cs := by
  rw [← value_skipBlanks, skipBlanks_newLine, value_skipBlanks]

theorem ends_newLine (level : Nat) (cs : List Char) : Ends ((newLine level).toList ++ cs) := by
  rw [newLine_toList]
  intro c hc
  obtain rfl : '\n' = c := Option.some.inj hc
  decide

theorem ends_comma (cs : List Char) : Ends (',' :: cs) := by
  intro c hc
  obtain rfl : ',' = c := Option.some.inj hc
  decide

/-- The items of an array are read from their lines. -/
theorem itemsRest_pretty {depth level : Nat} {j : Json} {js : List Json}
    (h : ∀ x ∈ j :: js, Reads depth (pretty level x).toList x) {k : Nat} (hk : js.length < k)
    (outer : Nat) (rest : List Char) :
    itemsRest (value depth) k ((newLine level).toList ++ ((pretty level j).toList ++
      ((prettyItems level js).toList ++ ((newLine outer).toList ++ ']' :: rest)))) =
      some (j :: js, rest) := by
  induction js generalizing j k with
  | nil =>
    obtain ⟨k, rfl⟩ : ∃ m, k = m + 1 := ⟨k - 1, by omega⟩
    have hprettyItems : (prettyItems level []).toList = [] := rfl
    obtain ⟨r, hvalue, hr⟩ := h j List.mem_cons_self _ (ends_newLine outer (']' :: rest))
    rw [skipBlanks_newLine, skipBlanks_cons (by decide)] at hr
    rw [itemsRest, value_newLine, hprettyItems, List.nil_append, hvalue]
    simp only [Option.bind_eq_bind, Option.bind_some, hr]
  | cons x js ih =>
    obtain ⟨k, rfl⟩ : ∃ m, k = m + 1 := ⟨k - 1, by omega⟩
    have hitems : (prettyItems level (x :: js)).toList = ',' :: ((newLine level).toList ++
        ((pretty level x).toList ++ (prettyItems level js).toList)) := by
      simp [prettyItems, String.toList_append]
    have hrest := ih (fun y hy => h y (List.mem_cons_of_mem j hy))
      (by simpa using hk : js.length < k)
    obtain ⟨r, hvalue, hr⟩ := h j List.mem_cons_self _ (ends_comma ((newLine level).toList ++
      ((pretty level x).toList ++ ((prettyItems level js).toList ++
        ((newLine outer).toList ++ ']' :: rest)))))
    rw [skipBlanks_cons (by decide)] at hr
    rw [itemsRest, value_newLine, hitems, List.cons_append, List.append_assoc, List.append_assoc,
      hvalue]
    simp only [Option.bind_eq_bind, Option.bind_some, hr, hrest]

/-- The name of a field as it is read. -/
def keyPieces (f : String × Json) : List Piece × Json := (f.1.toList.map .char, f.2)

theorem ofFields_keyPieces (fs : List (String × Json)) : ofFields (fs.map keyPieces) = obj fs := by
  have hnames : (fs.map keyPieces).mapM
      (fun f => (textOf? f.1).map (fun cs => (String.ofList cs, f.2))) = some fs := by
    induction fs with
    | nil => rfl
    | cons f fs ih => simp [keyPieces, textOf?_chars, ih]
  unfold ofFields
  rw [hnames]

/-- The line of a field is read with what stands behind it: the end of the object, or a comma and
the lines of further fields. -/
theorem fieldsRest_line {depth level k : Nat} {f : String × Json} {rest q : List Char}
    (h : Reads depth (pretty level f.2).toList f.2) (hrest : Ends rest) :
    (skipBlanks rest = '\x7d' :: q →
      fieldsRest (value depth) (k + 1) ((newLine level).toList ++ ((quote f.1).toList ++
        (": ".toList ++ ((pretty level f.2).toList ++ rest)))) = some ([keyPieces f], q)) ∧
    (∀ fs r, skipBlanks rest = ',' :: q → fieldsRest (value depth) k q = some (fs, r) →
      fieldsRest (value depth) (k + 1) ((newLine level).toList ++ ((quote f.1).toList ++
        (": ".toList ++ ((pretty level f.2).toList ++ rest)))) = some (keyPieces f :: fs, r)) := by
  obtain ⟨r, hvalue, hr⟩ := h rest hrest
  have hkey := stringRest_escaped f.1.toList (": ".toList ++ ((pretty level f.2).toList ++ rest))
  have hcolon : skipBlanks (": ".toList ++ ((pretty level f.2).toList ++ rest)) =
      ':' :: ' ' :: ((pretty level f.2).toList ++ rest) := rfl
  have hspace : skipBlanks (' ' :: ((pretty level f.2).toList ++ rest)) =
      skipBlanks ((pretty level f.2).toList ++ rest) := rfl
  have hbehind : value depth (' ' :: ((pretty level f.2).toList ++ rest)) = some (f.2, r) := by
    rw [← value_skipBlanks, hspace, value_skipBlanks, hvalue]
  rw [fieldsRest, skipBlanks_newLine, quote_toList, List.cons_append, skipBlanks_cons (by decide),
    List.append_assoc, List.singleton_append]
  simp only [hkey, hcolon, hbehind, hr, Option.bind_eq_bind, Option.bind_some]
  constructor
  · intro hq
    rw [hq]
    rfl
  · intro fs r hq hfs
    rw [hq]
    simp only [hfs, Option.bind_some]
    rfl

/-- The fields of an object are read from their lines. -/
theorem fieldsRest_pretty {depth level : Nat} {f : String × Json} {fs : List (String × Json)}
    (h : ∀ x ∈ f :: fs, Reads depth (pretty level x.2).toList x.2) {k : Nat} (hk : fs.length < k)
    (outer : Nat) (rest : List Char) :
    fieldsRest (value depth) k ((newLine level).toList ++ ((quote f.1).toList ++ (": ".toList ++
      ((pretty level f.2).toList ++ ((prettyFields level fs).toList ++
        ((newLine outer).toList ++ '\x7d' :: rest)))))) =
      some ((f :: fs).map keyPieces, rest) := by
  induction fs generalizing f k with
  | nil =>
    obtain ⟨k, rfl⟩ : ∃ m, k = m + 1 := ⟨k - 1, by omega⟩
    have hfields : (prettyFields level []).toList = [] := rfl
    have hclose : skipBlanks ((newLine outer).toList ++ '\x7d' :: rest) = '\x7d' :: rest := by
      rw [skipBlanks_newLine, skipBlanks_cons (by decide)]
    rw [hfields, List.nil_append]
    exact (fieldsRest_line (h f List.mem_cons_self) (ends_newLine outer _)).1 hclose
  | cons x fs ih =>
    obtain ⟨k, rfl⟩ : ∃ m, k = m + 1 := ⟨k - 1, by omega⟩
    have hfields : (prettyFields level (x :: fs)).toList = ',' :: ((newLine level).toList ++
        ((quote x.1).toList ++ (": ".toList ++ ((pretty level x.2).toList ++
          (prettyFields level fs).toList)))) := by
      simp [prettyFields, String.toList_append]
    have hrest := ih (fun y hy => h y (List.mem_cons_of_mem f hy))
      (by simpa using hk : fs.length < k)
    rw [hfields, List.cons_append, List.append_assoc, List.append_assoc, List.append_assoc,
      List.append_assoc]
    exact (fieldsRest_line (h f List.mem_cons_self) (ends_comma _)).2 _ _
      (skipBlanks_cons (by decide) _) hrest

/-! ## Whole values -/

/-- Values that are read from their text: none is unreadable, the integers have 64 bits, and the
other numbers are those that their digits give. -/
inductive Legible : Json → Prop
  | null : Legible null
  | bool (b : Bool) : Legible (bool b)
  | int {n : Int} : -9223372036854775808 ≤ n → n < 18446744073709551616 → Legible (num (.int n))
  | real {x : Binary64} : readsBack x = true → Legible (num (.real x))
  | str (s : String) : Legible (str s)
  | arr {items : List Json} : (∀ j ∈ items, Legible j) → Legible (arr items)
  | obj {fields : List (String × Json)} : (∀ f ∈ fields, Legible f.2) → Legible (obj fields)

theorem length_le_prettyItems (level : Nat) {j : Json} {js : List Json} (h : j ∈ js) :
    (pretty level j).length ≤ (prettyItems level js).length := by
  induction js with
  | nil => cases h
  | cons x js ih =>
    simp only [prettyItems, String.length_append]
    rcases List.mem_cons.mp h with rfl | h
    · omega
    · have ih := ih h
      omega

theorem length_le_prettyFields (level : Nat) {f : String × Json} {fs : List (String × Json)}
    (h : f ∈ fs) : (pretty level f.2).length ≤ (prettyFields level fs).length := by
  induction fs with
  | nil => cases h
  | cons x fs ih =>
    simp only [prettyFields, String.length_append]
    rcases List.mem_cons.mp h with rfl | h
    · omega
    · have ih := ih h
      omega

theorem length_prettyItems (level : Nat) (js : List Json) :
    js.length ≤ (prettyItems level js).length := by
  induction js with
  | nil => exact Nat.zero_le _
  | cons j js ih =>
    have hcomma : ",".length = 1 := rfl
    simp only [prettyItems, String.length_append, List.length_cons]
    omega

theorem length_prettyFields (level : Nat) (fs : List (String × Json)) :
    fs.length ≤ (prettyFields level fs).length := by
  induction fs with
  | nil => exact Nat.zero_le _
  | cons f fs ih =>
    have hcomma : ",".length = 1 := rfl
    simp only [prettyFields, String.length_append, List.length_cons]
    omega

theorem value_quote (depth : Nat) (s : String) (rest : List Char) :
    value (depth + 1) ((quote s).toList ++ rest) = some (str s, rest) := by
  rw [quote_toList, List.cons_append, List.append_assoc, List.singleton_append, value,
    skipBlanks_cons (by decide)]
  simp only [stringRest_escaped, Option.map_some, ofPieces, textOf?_chars, String.ofList_toList]

theorem value_bracket (depth : Nat) (cs : List Char) : value depth (']' :: cs) = none := by
  cases depth <;> rfl

/-- An array that does not end at once has items. -/
theorem value_arrayOpen {text : List Char} (h : ∀ r, skipBlanks text ≠ ']' :: r) (depth : Nat) :
    value (depth + 1) ('[' :: text) =
      (itemsRest (value depth) text.length text).map (fun p => (arr p.1, p.2)) := by
  rw [value, skipBlanks_cons (by decide)]
  simp

/-- An object that does not end at once has fields. -/
theorem value_objectOpen {text : List Char} (h : ∀ r, skipBlanks text ≠ '\x7d' :: r)
    (depth : Nat) :
    value (depth + 1) ('\x7b' :: text) =
      (fieldsRest (value depth) text.length text).map (fun p => (ofFields p.1, p.2)) := by
  rw [value, skipBlanks_cons (by decide)]
  simp

theorem value_array {depth level : Nat} {j : Json} {js : List Json}
    (h : ∀ x ∈ j :: js, Reads depth (pretty level x).toList x) (outer : Nat) (rest : List Char) :
    value (depth + 1) ('[' :: ((newLine level).toList ++ ((pretty level j).toList ++
      ((prettyItems level js).toList ++ ((newLine outer).toList ++ ']' :: rest))))) =
      some (arr (j :: js), rest) := by
  generalize htext : (newLine level).toList ++ ((pretty level j).toList ++
    ((prettyItems level js).toList ++ ((newLine outer).toList ++ ']' :: rest))) = text
  have hitems : itemsRest (value depth) text.length text = some (j :: js, rest) := by
    have hlength := length_prettyItems level js
    subst htext
    apply itemsRest_pretty h
    simp only [List.length_append, String.length_toList, List.length_cons]
    omega
  -- A text that starts with the closing bracket is no item.
  have hfirst : ∀ r, skipBlanks text ≠ ']' :: r := by
    intro r hr
    have hnone : value depth text = none := by rw [← value_skipBlanks, hr, value_bracket]
    cases hk : text.length with
    | zero => simp [hk, itemsRest] at hitems
    | succ k => simp [hk, itemsRest, hnone] at hitems
  rw [value_arrayOpen hfirst, hitems]
  rfl

theorem value_object {depth level : Nat} {f : String × Json} {fs : List (String × Json)}
    (h : ∀ x ∈ f :: fs, Reads depth (pretty level x.2).toList x.2) (outer : Nat)
    (rest : List Char) :
    value (depth + 1) ('\x7b' :: ((newLine level).toList ++ ((quote f.1).toList ++ (": ".toList ++
      ((pretty level f.2).toList ++ ((prettyFields level fs).toList ++
        ((newLine outer).toList ++ '\x7d' :: rest))))))) =
      some (obj (f :: fs), rest) := by
  generalize htext : (newLine level).toList ++ ((quote f.1).toList ++ (": ".toList ++
    ((pretty level f.2).toList ++ ((prettyFields level fs).toList ++
      ((newLine outer).toList ++ '\x7d' :: rest))))) = text
  have hfields : fieldsRest (value depth) text.length text =
      some ((f :: fs).map keyPieces, rest) := by
    have hlength := length_prettyFields level fs
    subst htext
    apply fieldsRest_pretty h
    simp only [List.length_append, String.length_toList, List.length_cons]
    omega
  have hfirst : ∀ r, skipBlanks text ≠ '\x7d' :: r := by
    intro r
    rw [← htext, skipBlanks_newLine, quote_toList, List.cons_append, skipBlanks_cons (by decide)]
    simp
  rw [value_objectOpen hfirst, hfields, Option.map_some, ofFields_keyPieces]

/-- The indented text of a value is read as this value, if as many levels are allowed as it has
characters. -/
theorem reads_pretty {j : Json} (h : Legible j) (level depth : Nat)
    (hdepth : (pretty level j).length ≤ depth) : Reads (depth + 1) (pretty level j).toList j := by
  induction h generalizing level depth with
  | null =>
    intro rest _
    rw [pretty]
    exact ⟨rest, rfl, rfl⟩
  | bool b =>
    intro rest _
    rw [pretty]
    cases b <;> exact ⟨rest, rfl, rfl⟩
  | int hlow hhigh =>
    rw [pretty]
    exact reads_int hlow hhigh depth
  | real hx =>
    rw [pretty]
    exact reads_real hx depth
  | str s =>
    intro rest _
    rw [pretty]
    exact ⟨rest, value_quote depth s rest, rfl⟩
  | @arr items _ ih =>
    intro rest _
    refine ⟨rest, ?_, rfl⟩
    cases items with
    | nil =>
      rw [pretty]
      rfl
    | cons j js =>
      have hopen : "[".length = 1 := rfl
      rw [pretty] at hdepth ⊢
      simp only [String.length_append] at hdepth
      obtain ⟨depth, rfl⟩ : ∃ d, depth = d + 1 := ⟨depth - 1, by omega⟩
      have hitems : ∀ x ∈ j :: js, Reads (depth + 1) (pretty (level + 1) x).toList x := by
        intro x hx
        apply ih x hx
        rcases List.mem_cons.mp hx with rfl | hx
        · omega
        · have hlength := length_le_prettyItems (level + 1) hx
          omega
      have harray := value_array hitems level rest
      simpa [String.toList_append] using harray
  | @obj fields _ ih =>
    intro rest _
    refine ⟨rest, ?_, rfl⟩
    cases fields with
    | nil =>
      rw [pretty]
      rfl
    | cons f fs =>
      have hopen : "\x7b".length = 1 := rfl
      obtain ⟨name, j⟩ := f
      rw [pretty] at hdepth ⊢
      simp only [String.length_append] at hdepth
      obtain ⟨depth, rfl⟩ : ∃ d, depth = d + 1 := ⟨depth - 1, by omega⟩
      have hfields : ∀ x ∈ (name, j) :: fs,
          Reads (depth + 1) (pretty (level + 1) x.2).toList x.2 := by
        intro x hx
        apply ih x hx
        rcases List.mem_cons.mp hx with rfl | hx
        · dsimp only
          omega
        · have hlength := length_le_prettyFields (level + 1) hx
          omega
      have hobject := value_object hfields level rest
      simpa [String.toList_append] using hobject

/-- What is written indented is read as the value that it was written from. -/
theorem parse?_pretty {j : Json} (h : Legible j) : parse? (j.pretty 0) = some j := by
  obtain ⟨r, hvalue, hr⟩ := reads_pretty h 0 _ (Nat.le_refl _) [] ends_nil
  rw [List.append_nil] at hvalue
  have hblank : (skipBlanks r).isEmpty = true := by
    rw [hr]
    rfl
  unfold parse?
  rw [hvalue]
  simp [hblank]

end SchemaChart.Data.Json
