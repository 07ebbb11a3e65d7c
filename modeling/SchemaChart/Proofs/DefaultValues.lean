-- Default values in scripts. Where casts and sequences are known, a value that was written once is
-- written the same ever after. Everywhere else one cast is taken off and no more, so that what
-- stands under it may be a cast, or count up by itself, and be written all the same.
import Mathlib.Data.List.Basic
import SchemaChart.Export.DefaultValue
import SchemaChart.Proofs.Literals
import SchemaChart.Proofs.PatternTexts

namespace SchemaChart.Text

/-! ## Key words in capitals -/

theorem toUpper_toLower {c : Char} (hc : c.toNat < 128) : c.toLower.toUpper = c.toUpper :=
  forall_ascii (P := fun c => c.toLower.toUpper = c.toUpper) (by decide) hc

theorem ascii_of_toLower {c : Char} (h : c.toLower.toNat < 128) : c.toNat < 128 := by
  unfold Char.toLower at h
  split at h
  · next hupper =>
    have hle : c.toNat ≤ 'Z'.toNat := hupper.2
    exact Nat.lt_of_le_of_lt hle (by decide)
  · exact h

/-- Letters of key words that keep their upper case: not the k, which the Kelvin sign may stand
for. -/
def isSteady (k : Char) : Bool := k != ' ' && k.toNat < 128 && k.toLower != 'k'

theorem upperChar_of_sameLetter {k c : Char} (hsteady : isSteady k = true)
    (h : sameLetter k c = true) : upperChar c = [k.toUpper] := by
  simp only [isSteady, Bool.and_eq_true, bne_iff_ne, decide_eq_true_eq] at hsteady
  obtain ⟨⟨-, hk⟩, hkelvin⟩ := hsteady
  simp only [sameLetter, Bool.or_eq_true, Bool.and_eq_true, beq_iff_eq] at h
  rcases h with (h | ⟨hs, hc⟩) | ⟨hs, -⟩
  · have hlower : k.toLower.toNat < 128 :=
      forall_ascii (P := fun k => k.toLower.toNat < 128) (by decide) hk
    have hc : c.toNat < 128 := ascii_of_toLower (h ▸ hlower)
    rw [upperChar, if_pos hc, ← toUpper_toLower hc, h, toUpper_toLower hk]
  · have hlong : c = Char.ofNat 0x17F := by rw [← hc, Char.ofNat_toNat]
    rw [hlong, ← toUpper_toLower hk, hs]
    decide +kernel
  · exact absurd hs hkelvin

namespace Pattern

/-- A key word fails before a text that does not start with it in capitals. -/
theorem Fails.phrase_of_upper {s : String} {text : List Char}
    (hs : s.toList.all isSteady = true)
    (h : ¬ s.toList.map Char.toUpper <+: upper text) : Fails (Pattern.phrase s) text := by
  rw [Pattern.phrase]
  generalize s.toList = ks at hs h
  induction ks generalizing text with
  | nil => exact absurd List.nil_prefix h
  | cons k ks ih =>
    rw [List.all_cons, Bool.and_eq_true] at hs
    obtain ⟨hk, hks⟩ := hs
    have hspace : ¬ (k == ' ') = true := by
      simp only [isSteady, Bool.and_eq_true, bne_iff_ne] at hk
      simpa using hk.1.1
    rw [List.foldr_cons, if_neg hspace]
    cases text with
    | nil => exact (Fails.one (by simp)).seq
    | cons c cs =>
      by_cases hc : sameLetter k c = true
      · refine Fails.seq_one (ih hks fun hprefix => h ?_)
        rw [upper, List.flatMap_cons, upperChar_of_sameLetter hk hc, List.map_cons]
        exact List.cons_prefix_cons.mpr ⟨rfl, hprefix⟩
      · exact (Fails.one fun x hx => by
          obtain rfl : c = x := Option.some.inj hx
          simpa using hc).seq

end Pattern

end SchemaChart.Text

namespace SchemaChart.Export

open Text

/-! ## Parentheses -/

/-- Nothing is to be taken off a text: no blanks at its ends, and no parentheses around it. -/
structure Unwrapped (cs : List Char) : Prop where
  trim_eq : trim cs = cs
  wrapped?_eq : wrapped? cs = none

theorem length_of_wrapped? {cs inner : List Char} (h : wrapped? cs = some inner) :
    inner.length + 2 ≤ cs.length := by
  unfold wrapped? at h
  split at h
  · next rest =>
    split at h
    · next hends =>
      obtain rfl := Option.some.inj h
      have hne : rest ≠ [] := by
        rintro rfl
        simp at hends
      have hpos : 0 < rest.length := List.length_pos_iff.mpr hne
      simp only [List.length_dropLast, List.length_cons]
      omega
    · cases h
  · cases h

/-- As many rounds as there are characters leave no parentheses around a text. -/
theorem unwrapped_unwrapUpTo {n : Nat} {cs : List Char} (htrim : trim cs = cs)
    (hn : cs.length ≤ n) : Unwrapped (unwrapUpTo n cs) := by
  induction n generalizing cs with
  | zero =>
    obtain rfl : cs = [] := List.length_eq_zero_iff.mp (Nat.le_zero.mp hn)
    exact ⟨rfl, rfl⟩
  | succ n ih =>
    rw [unwrapUpTo]
    split
    · next inner hinner =>
      have hshort := length_of_wrapped? hinner
      have htrimmed := length_trim_le inner
      exact ih (trim_trim inner) (by omega)
    · next hnone => exact ⟨htrim, hnone⟩

theorem unwrapped_unwrap (cs : List Char) : Unwrapped (unwrap cs) :=
  unwrapped_unwrapUpTo (trim_trim cs) (length_trim_le cs)

theorem Unwrapped.unwrap_eq {cs : List Char} (h : Unwrapped cs) : unwrap cs = cs := by
  rw [unwrap, h.trim_eq]
  cases cs with
  | nil => rfl
  | cons c cs => rw [List.length_cons, unwrapUpTo, h.wrapped?_eq]

theorem unwrapped_literal (cs : List Char) : Unwrapped (literal cs) :=
  ⟨(trimmed_literal cs).trim_eq, rfl⟩

/-! ## The ways a value is written -/

/-- A value that is no identity as it is written, once it has the form that the dialect knows. -/
def rendered (d : Dialect) (typeId : String) (cs : List Char) : String :=
  match truthWord? d typeId cs with
  | some w => w
  | none =>
    match valueWord? cs with
    | some w => valueWordIn d w
    | none => if isExpression cs then String.ofList cs else quoteLiteral (String.ofList cs)

/-- A default is written just if it is not empty, and is either the next value of a sequence where
these are known, or no identity at all. -/
theorem defaultText?_eq (d : Dialect) (typeId raw : String) :
    defaultText? d typeId raw =
      if unwrap raw.toList = [] then none
      else if Forms.identity.occursIn (unwrap raw.toList) = true then
        if startsWith (lower (unwrap raw.toList)) "nextval" && keepsCasts d then
          some (String.ofList (unwrap raw.toList))
        else none
      else some (rendered d typeId (adapt d (unwrap raw.toList))) := by
  unfold defaultText? rendered
  generalize unwrap raw.toList = value
  simp only [List.isEmpty_iff]
  split
  · rfl
  · split
    · rfl
    · cases truthWord? d typeId (adapt d value) with
      | some w => rfl
      | none =>
        cases valueWord? (adapt d value) with
        | some w => rfl
        | none => cases isExpression (adapt d value) <;> rfl

/-! ## Words, literals and other forms -/

theorem valueWord?_eq_some {cs : List Char} {w : String} (h : valueWord? cs = some w) :
    upper cs = w.toList ∧ w ∈ valueWords := by
  simp only [valueWord?] at h
  split at h
  · next hmem =>
    obtain rfl := Option.some.inj h
    exact ⟨String.toList_ofList.symm, List.contains_iff_mem.mp hmem⟩
  · cases h

theorem valueWord?_literal (cs : List Char) : valueWord? (literal cs) = none := by
  have hquote : ∀ w ∈ valueWords, w.toList.head? ≠ some '\'' := by decide
  rw [Option.eq_none_iff_forall_ne_some]
  intro w hw
  obtain ⟨hupper, hmem⟩ := valueWord?_eq_some hw
  exact hquote w hmem (by rw [← hupper]; rfl)

theorem truthWord?_eq_some {d : Dialect} {typeId w : String} {cs : List Char}
    (h : truthWord? d typeId cs = some w) :
    (cs = ['0'] ∧ w = "FALSE") ∨ (cs = ['1'] ∧ w = "TRUE") := by
  unfold truthWord? at h
  split at h
  · split at h
    · next hzero => exact .inl ⟨by simpa using hzero, (Option.some.inj h).symm⟩
    · split at h
      · next hone => exact .inr ⟨by simpa using hone, (Option.some.inj h).symm⟩
      · cases h
  · cases h

theorem truthWord?_eq_none (d : Dialect) (typeId : String) {cs : List Char} (hzero : cs ≠ ['0'])
    (hone : cs ≠ ['1']) : truthWord? d typeId cs = none := by
  rw [Option.eq_none_iff_forall_ne_some]
  intro w hw
  rcases truthWord?_eq_some hw with ⟨h, -⟩ | ⟨h, -⟩
  · exact hzero h
  · exact hone h

open Pattern in
/-- A literal goes from quote to quote, whatever quotes are in it. -/
theorem quoted_literal (cs : List Char) : Forms.quoted.occursIn (literal cs) = true := by
  have hquote : ∀ prev rest, (lit "'").Spells prev ['\''] rest := fun _ _ =>
    ⟨['\''], [], rfl, ⟨'\'', rfl, rfl⟩, rfl⟩
  have hinside : ∀ prev rest, Pattern.rest.Spells prev (double '\'' cs) rest := fun _ _ _ _ => rfl
  rw [occursIn_iff]
  -- the parts of the pattern are taken off from its end
  refine ⟨[], literal cs, rfl, literal cs, [], (List.append_nil _).symm, literal cs, [],
    (List.append_nil _).symm, ?_, rfl, rfl⟩
  refine ⟨'\'' :: double '\'' cs, ['\''], rfl, ?_, hquote _ _⟩
  refine ⟨['\''], double '\'' cs, rfl, ?_, hinside _ _⟩
  exact ⟨[], ['\''], rfl, ⟨[], [], rfl, ⟨rfl, rfl⟩, .inr rfl⟩, hquote _ _⟩

theorem isExpression_literal (cs : List Char) : isExpression (literal cs) = true := by
  rw [isExpression, isExpressionUnder, quoted_literal]
  simp

/-! ### Identities -/

/-- The key words that values that count up begin with. -/
def identityWords : List String :=
  ["nextval", "auto_increment", "autoincrement", "identity", "big", "small", "serial"]

open Pattern in
theorem identity_absent {cs : List Char} (h : ∀ s ∈ identityWords, Fails (phrase s) cs) :
    Forms.identity.occursIn cs = false := by
  have hnext := h "nextval" (by decide)
  have hauto := h "auto_increment" (by decide)
  have hauto' := h "autoincrement" (by decide)
  have hidentity := h "identity" (by decide)
  have hsize : Fails (oneOf ["big", "small"]) cs :=
    (h "big" (by decide)).alt (h "small" (by decide))
  have hserial := h "serial" (by decide)
  have hfails : Fails Forms.identity cs :=
    (hnext.seq.alt (hauto.alt (hauto'.alt (hidentity.seq.alt
      (hsize.opt_seq hserial))))).textStart_seq.seq
  have hanchored : Anchored Forms.identity := Anchored.textStart.seq.seq
  rw [Pattern.occursIn, hanchored.find?_eq_none hfails]
  rfl

/-- Behind a quote, or a letter and a quote, nothing counts up. -/
theorem identity_quote {c : Char} {cs : List Char}
    (h : (c :: cs).head? = some '\'' ∨ (c = 'N' ∨ c = 'n') ∧ cs.head? = some '\'') :
    Forms.identity.occursIn (c :: cs) = false := by
  refine identity_absent fun s hs => Pattern.Fails.phrase ?_
  simp only [identityWords, List.mem_cons, List.not_mem_nil, or_false] at hs
  rcases h with h | ⟨hc, h⟩
  · obtain rfl : c = '\'' := Option.some.inj h
    rcases hs with rfl | rfl | rfl | rfl | rfl | rfl | rfl <;> rfl
  · obtain ⟨ds, rfl⟩ := List.head?_eq_some_iff.mp h
    rcases hc with rfl | rfl <;>
      rcases hs with rfl | rfl | rfl | rfl | rfl | rfl | rfl <;> rfl

theorem identity_valueWord {cs : List Char} {w : String} (h : valueWord? cs = some w) :
    Forms.identity.occursIn cs = false := by
  have hwords : ∀ w ∈ valueWords, ∀ s ∈ identityWords,
      ¬ s.toList.map Char.toUpper <+: w.toList := by decide +kernel
  have hletters : ∀ s ∈ identityWords, s.toList.all isSteady = true := by decide +kernel
  obtain ⟨hupper, hmem⟩ := valueWord?_eq_some h
  refine identity_absent fun s hs => Pattern.Fails.phrase_of_upper (hletters s hs) ?_
  rw [hupper]
  exact hwords w hmem s hs

/-! ### Casts -/

open Pattern in
theorem cast_fails {cs : List Char} (h : cs.head? ≠ some ':') : Fails Forms.cast cs := by
  have hcolons : Fails (lit "::") cs := by
    rw [lit_twice (q := ':') rfl]
    exact (Fails.one fun c hc => by simpa using fun hcolon : c = ':' => h (hcolon ▸ hc)).seq
  exact hcolons.seq.seq.seq.seq.seq

theorem cast_absent {cs : List Char} (h : ∀ s, s <:+ cs → Pattern.Fails Forms.cast s) :
    Forms.cast.occursIn cs = false := by
  rw [Pattern.occursIn, Pattern.find?, Pattern.findFrom_eq_none h]
  rfl

/-- A cast reaches the end of a text, which a literal closes with its quote. -/
theorem cast_literal (cs : List Char) : Forms.cast.occursIn (literal cs) = false := by
  refine cast_absent fun s hs => ?_
  by_cases hne : s = []
  · rw [hne]
    exact cast_fails (by simp)
  · have hlast : s.getLast? = some '\'' := by
      have hwhole : (literal cs).getLast? = some '\'' := List.getLast?_concat
      obtain ⟨before, htext⟩ := hs
      rwa [← htext, List.getLast?_append_of_ne_nil before hne] at hwhole
    exact Pattern.Fails.last (by decide) hlast

theorem mem_upper_colon {cs : List Char} (h : ':' ∈ cs) : ':' ∈ upper cs :=
  List.mem_flatMap.mpr ⟨':', h, by decide⟩

theorem cast_valueWord {cs : List Char} {w : String} (h : valueWord? cs = some w) :
    Forms.cast.occursIn cs = false := by
  have hwords : ∀ w ∈ valueWords, ':' ∉ w.toList := by decide
  obtain ⟨hupper, hmem⟩ := valueWord?_eq_some h
  have hcolon : ':' ∉ cs := fun hin => hwords w hmem (hupper ▸ mem_upper_colon hin)
  refine cast_absent fun s hs => cast_fails fun hhead => hcolon ?_
  exact hs.subset (List.mem_of_mem_head? hhead)

/-! ## Values that are written once -/

theorem valueWords_written : ∀ w ∈ valueWords, trim w.toList = w.toList ∧
    wrapped? w.toList = none ∧ w.toList ≠ [] ∧ w.toList ≠ ['0'] ∧ w.toList ≠ ['1'] ∧
    valueWord? w.toList = some w := by
  decide +kernel

/-- A text that is written as it is. -/
structure Settled (d : Dialect) (typeId v : String) : Prop where
  unwrapped : Unwrapped v.toList
  ne_nil : v.toList ≠ []
  identity : Forms.identity.occursIn v.toList = false
  rendered_eq : rendered d typeId v.toList = v

theorem Settled.defaultText? {d : Dialect} {typeId v : String} (hd : keepsCasts d = true)
    (h : Settled d typeId v) : defaultText? d typeId v = some v := by
  have hadapt : adapt d v.toList = v.toList := if_pos hd
  rw [defaultText?_eq, h.unwrapped.unwrap_eq, if_neg h.ne_nil, h.identity,
    if_neg Bool.false_ne_true, hadapt, h.rendered_eq]

theorem keepsCasts_iff (d : Dialect) : keepsCasts d = true ↔ d = .postgresql ∨ d = .generic := by
  cases d <;> decide

theorem valueWordIn_eq {d : Dialect} (hd : keepsCasts d = true) (w : String) :
    valueWordIn d w = w := by
  rcases (keepsCasts_iff d).mp hd with rfl | rfl <;> rfl

theorem settled_word {d : Dialect} (hd : keepsCasts d = true) (typeId : String) {w : String}
    (hw : w ∈ valueWords) : Settled d typeId w := by
  obtain ⟨htrim, hwrapped, hne, hzero, hone, hword⟩ := valueWords_written w hw
  refine ⟨⟨htrim, hwrapped⟩, hne, identity_valueWord hword, ?_⟩
  rw [rendered, truthWord?_eq_none d typeId hzero hone, hword]
  exact valueWordIn_eq hd w

theorem settled_literal (d : Dialect) (typeId : String) (cs : List Char) :
    Settled d typeId (quoteLiteral (String.ofList cs)) := by
  have htext : (quoteLiteral (String.ofList cs)).toList = literal cs := by
    rw [quoteLiteral_toList, String.toList_ofList]
  have htruth : truthWord? d typeId (literal cs) = none :=
    truthWord?_eq_none d typeId (by simp [literal]) (by simp [literal])
  refine ⟨htext ▸ unwrapped_literal cs, by simp [htext, literal], ?_, ?_⟩
  · rw [htext]
    exact identity_quote (.inl rfl)
  · rw [htext, rendered, htruth, valueWord?_literal]
    simp only [isExpression_literal, if_true]
    rw [← htext, String.ofList_toList]

/-- What a value is written as, is written as it is. -/
theorem settled_rendered {d : Dialect} (hd : keepsCasts d = true) (typeId : String)
    {cs : List Char} (hcs : Unwrapped cs) (hne : cs ≠ [])
    (hidentity : Forms.identity.occursIn cs = false) :
    Settled d typeId (rendered d typeId cs) := by
  unfold rendered
  split
  · next w hw =>
    rcases truthWord?_eq_some hw with ⟨-, rfl⟩ | ⟨-, rfl⟩
    · exact settled_word hd typeId (by decide)
    · exact settled_word hd typeId (by decide)
  · next htruth =>
    split
    · next w hw =>
      rw [valueWordIn_eq hd]
      exact settled_word hd typeId (valueWord?_eq_some hw).2
    · next hnone =>
      split
      · next hexpression =>
        refine ⟨?_, ?_, ?_, ?_⟩
        all_goals rw [String.toList_ofList]
        · exact hcs
        · exact hne
        · exact hidentity
        · rw [rendered, htruth, hnone]
          exact if_pos hexpression
      · exact settled_literal d typeId cs

/-- In PostgreSQL and where the dialect is left open, a default that was written once is written the
same ever after: it is not quoted again, gets no other cast, and is not dropped. -/
theorem written_defaults_stay_as_they_are {d : Dialect} (hd : d = .postgresql ∨ d = .generic)
    {typeId raw v : String} (h : defaultText? d typeId raw = some v) :
    defaultText? d typeId v = some v := by
  have hkeeps : keepsCasts d = true := (keepsCasts_iff d).mpr hd
  have hadapt : adapt d (unwrap raw.toList) = unwrap raw.toList := if_pos hkeeps
  have hunwrapped := unwrapped_unwrap raw.toList
  rw [defaultText?_eq] at h
  split at h
  · cases h
  · next hne =>
    split at h
    · next hidentity =>
      split at h
      · next hsequence =>
        obtain rfl := Option.some.inj h
        rw [defaultText?_eq, String.toList_ofList, hunwrapped.unwrap_eq, if_neg hne,
          if_pos hidentity, if_pos hsequence]
      · cases h
    · next hidentity =>
      rw [hadapt] at h
      obtain rfl := Option.some.inj h
      exact (settled_rendered hkeeps typeId hunwrapped hne (by simpa using hidentity)).defaultText?
        hkeeps

/-- A bare word with quotes in it is quoted once, and stays so. -/
theorem a_quoted_word_is_not_quoted_again :
    defaultText? .postgresql "text" "(( it''s ))" = some "'it''''s'" ∧
      defaultText? .postgresql "text" "'it''''s'" = some "'it''''s'" := by
  have hwritten : defaultText? .postgresql "text" "(( it''s ))" = some "'it''''s'" := by
    decide +kernel
  exact ⟨hwritten, written_defaults_stay_as_they_are (.inl rfl) hwritten⟩

/-! ## What casts leave behind -/

/-- What stands under the cast at the end of a value. -/
def underCast? (cs : List Char) : Option (List Char) :=
  (Forms.cast.find? cs).map (unwrap ·.before)

/-- A form that neither a literal nor a value word has, and that the mark of a national text does
not hide. -/
structure Foreign (p : Pattern) : Prop where
  literal : ∀ cs, p.occursIn (literal cs) = false
  valueWord : ∀ cs w, valueWord? cs = some w → p.occursIn cs = false
  standIns : ∀ w ∈ ["0", "1", "CAST(GETDATE() AS date)"], p.occursIn w.toList = false
  mark : ∀ cs, p.occursIn (withoutNationalMark cs) = p.occursIn cs

theorem foreign_identity : Foreign Forms.identity where
  literal cs := identity_quote (.inl rfl)
  valueWord _ _ h := identity_valueWord h
  standIns := by decide +kernel
  mark cs := by
    unfold withoutNationalMark
    split
    · next c d ds =>
      split
      · next hc =>
        have hmark : c = 'N' ∨ c = 'n' := by simpa using hc
        rw [identity_quote (.inl rfl), identity_quote (.inr ⟨hmark, rfl⟩)]
      · rfl
    · rfl

theorem foreign_cast : Foreign Forms.cast where
  literal := cast_literal
  valueWord _ _ h := cast_valueWord h
  standIns := by decide +kernel
  mark cs := by
    unfold withoutNationalMark
    split
    · next c d ds =>
      split
      · next hc =>
        have hmark : c = 'N' ∨ c = 'n' := by simpa using hc
        have hletter : Pattern.Fails Forms.cast (c :: '\'' :: d :: ds) :=
          cast_fails (by rcases hmark with rfl | rfl <;> simp)
        have hquote : Pattern.Fails Forms.cast ('\'' :: d :: ds) := cast_fails (by simp)
        -- behind the quote both searches stand at the same place
        rw [Pattern.occursIn, Pattern.occursIn, Pattern.find?, Pattern.find?,
          Pattern.findFrom_of_fails hletter, Pattern.findFrom_of_fails hquote,
          Pattern.findFrom_of_fails hquote, Pattern.findFrom_passed _ _ ['\''],
          Pattern.findFrom_passed _ _ ['\'', c], Option.isSome_map, Option.isSome_map]
      · rfl
    · rfl

theorem valueWordIn_cases (d : Dialect) (w : String) :
    valueWordIn d w = w ∨ valueWordIn d w ∈ ["0", "1", "CAST(GETDATE() AS date)"] := by
  unfold valueWordIn
  split <;> simp

namespace Foreign

variable {p : Pattern}

/-- A written value has a foreign form just if it is an expression of that form. -/
theorem rendered_iff (hp : Foreign p) (d : Dialect) (typeId : String) (cs : List Char) :
    p.occursIn (rendered d typeId cs).toList = true ↔
      isExpression cs = true ∧ p.occursIn cs = true := by
  have hword : ∀ w ∈ valueWords, p.occursIn w.toList = false := fun w hw =>
    hp.valueWord _ w (valueWords_written w hw).2.2.2.2.2
  have hneither : ∀ {v : List Char}, p.occursIn v = false → p.occursIn cs = false →
      (p.occursIn v = true ↔ isExpression cs = true ∧ p.occursIn cs = true) := by
    intro v hv hcs
    rw [hv, hcs]
    simp
  unfold rendered
  split
  · next w hw =>
    rcases truthWord?_eq_some hw with ⟨rfl, rfl⟩ | ⟨rfl, rfl⟩
    · exact hneither (hword "FALSE" (by decide)) (hp.standIns "0" (by decide))
    · exact hneither (hword "TRUE" (by decide)) (hp.standIns "1" (by decide))
  · split
    · next w hw =>
      refine hneither ?_ (hp.valueWord cs w hw)
      rcases valueWordIn_cases d w with hsame | hother
      · rw [hsame]
        exact hword w (valueWord?_eq_some hw).2
      · exact hp.standIns _ hother
    · split
      · next hexpression => simp [hexpression]
      · next hexpression =>
        rw [quoteLiteral_toList, hp.literal]
        simp [hexpression]

/-- Where casts are not known, a value keeps a foreign form just under its cast. -/
theorem adapt_iff (hp : Foreign p) {d : Dialect} (hd : keepsCasts d = false) {cs : List Char}
    (hcs : underCast? cs = none → p.occursIn cs = false) :
    p.occursIn (adapt d cs) = true ↔
      ∃ base, underCast? cs = some base ∧ p.occursIn base = true := by
  have hadapt : p.occursIn (adapt d cs) = p.occursIn (withoutCast cs) := by
    unfold adapt
    rw [if_neg (by simp [hd])]
    split
    · rfl
    · exact hp.mark _
  rw [hadapt, withoutCast]
  unfold underCast? at hcs ⊢
  cases hfind : Forms.cast.find? cs with
  | some m => simp
  | none => simp [hcs (by rw [hfind]; rfl)]

end Foreign

/-- Every dialect but PostgreSQL and the open one takes one cast off a default and no more. So what
is written ends in a cast just if it is an expression that ends in one under its first, and counts
up by itself just if what stands under its cast does. -/
theorem casts_and_counters_survive_under_one_cast {d : Dialect} (hpostgresql : d ≠ .postgresql)
    (hgeneric : d ≠ .generic) {typeId raw v : String} (h : defaultText? d typeId raw = some v) :
    (Forms.cast.occursIn v.toList = true ↔
      isExpression (adapt d (unwrap raw.toList)) = true ∧
        ∃ base, underCast? (unwrap raw.toList) = some base ∧ Forms.cast.occursIn base = true) ∧
    (Forms.identity.occursIn v.toList = true ↔
      isExpression (adapt d (unwrap raw.toList)) = true ∧
        ∃ base, underCast? (unwrap raw.toList) = some base ∧
          Forms.identity.occursIn base = true) := by
  have hd : keepsCasts d = false := by
    rw [← Bool.not_eq_true, keepsCasts_iff]
    exact not_or.mpr ⟨hpostgresql, hgeneric⟩
  rw [defaultText?_eq] at h
  split at h
  · cases h
  · split at h
    · rw [hd, Bool.and_false, if_neg Bool.false_ne_true] at h
      cases h
    · next hidentity =>
      obtain rfl := Option.some.inj h
      have hcast : underCast? (unwrap raw.toList) = none →
          Forms.cast.occursIn (unwrap raw.toList) = false := by
        intro hnone
        rw [Pattern.occursIn, Option.map_eq_none_iff.mp hnone]
        rfl
      rw [foreign_cast.rendered_iff, foreign_identity.rendered_iff, foreign_cast.adapt_iff hd hcast,
        foreign_identity.adapt_iff hd fun _ => by simpa using hidentity]
      exact ⟨Iff.rfl, Iff.rfl⟩

/-- MySQL gets a cast from under a cast, and a sequence from under another. -/
theorem a_cast_and_a_sequence_get_through :
    defaultText? .mysql "varchar" "'a'::text::varchar" = some "'a'::text" ∧
      Forms.cast.occursIn "'a'::text".toList = true ∧
      defaultText? .mysql "bigint" "nextval('s')::bigint" = some "nextval('s')" ∧
      Forms.identity.occursIn "nextval('s')".toList = true := by
  have hcast : defaultText? .mysql "varchar" "'a'::text::varchar" = some "'a'::text" := by
    decide +kernel
  have hsequence : defaultText? .mysql "bigint" "nextval('s')::bigint" = some "nextval('s')" := by
    decide +kernel
  have hkept := (casts_and_counters_survive_under_one_cast (by decide) (by decide) hcast).1
  have hcounts := (casts_and_counters_survive_under_one_cast (by decide) (by decide) hsequence).2
  refine ⟨hcast, hkept.mpr ⟨?_, "'a'::text".toList, ?_, ?_⟩, hsequence,
    hcounts.mpr ⟨?_, "nextval('s')".toList, ?_, ?_⟩⟩
  all_goals decide +kernel

end SchemaChart.Export
