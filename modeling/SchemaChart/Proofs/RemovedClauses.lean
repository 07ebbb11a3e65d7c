-- Clauses that are taken out of a statement before it is read, also where they stand in a string
-- literal. A clause that takes no quote stands in the literal of a text just if it stands in the
-- text, so a comment is left alone just if none of the clauses stands in it.
import SchemaChart.Proofs.Literals
import SchemaChart.Proofs.PatternTexts
import SchemaChart.Source

namespace SchemaChart.Text

/-! ## Places in a literal -/

/-- The literal of a text behind the quote that opens it. -/
def literalRest (cs : List Char) : List Char := double '\'' cs ++ ['\'']

theorem literal_eq (cs : List Char) : literal cs = '\'' :: literalRest cs := rfl

theorem double_append (q : Char) (xs ys : List Char) :
    double q (xs ++ ys) = double q xs ++ double q ys := List.flatMap_append

theorem literalRest_quote (cs : List Char) :
    literalRest ('\'' :: cs) = '\'' :: '\'' :: literalRest cs := by
  rw [literalRest, double_cons_self]
  rfl

theorem literalRest_of_ne {c : Char} (hc : c ≠ '\'') (cs : List Char) :
    literalRest (c :: cs) = c :: literalRest cs := by
  rw [literalRest, double_cons_of_ne hc]
  rfl

section

variable {cs before u rest : List Char} {d : Char}

/-- A character other than a quote comes from one of the text. -/
theorem literalRest_eq_append_cons (hd : d ≠ '\'') (h : literalRest cs = before ++ d :: rest) :
    ∃ x t, cs = x ++ d :: t ∧ before = double '\'' x ∧ rest = literalRest t := by
  induction cs generalizing before with
  | nil =>
    cases before with
    | nil => exact absurd (List.cons.inj h).1.symm hd
    | cons b before => cases before <;> cases (List.cons.inj h).2
  | cons c cs ih =>
    by_cases hc : c = '\''
    · subst hc
      rw [literalRest_quote] at h
      match before, h with
      | [], h => exact absurd (List.cons.inj h).1.symm hd
      | [_], h => exact absurd (List.cons.inj (List.cons.inj h).2).1.symm hd
      | _ :: _ :: before, h =>
        obtain ⟨rfl, hquote⟩ := List.cons.inj h
        obtain ⟨rfl, hbefore⟩ := List.cons.inj hquote
        obtain ⟨x, t, rfl, rfl, rfl⟩ := ih hbefore
        exact ⟨'\'' :: x, t, rfl, (double_cons_self _ x).symm, rfl⟩
    · rw [literalRest_of_ne hc] at h
      cases before with
      | nil =>
        obtain ⟨rfl, rfl⟩ := List.cons.inj h
        exact ⟨[], cs, rfl, rfl, rfl⟩
      | cons b before =>
        obtain ⟨rfl, hbefore⟩ := List.cons.inj h
        obtain ⟨x, t, rfl, rfl, rfl⟩ := ih hbefore
        exact ⟨c :: x, t, rfl, (double_cons_of_ne hc x).symm, rfl⟩

theorem literalRest_eq_append (hu : '\'' ∉ u) (h : literalRest cs = u ++ rest) :
    ∃ t, cs = u ++ t ∧ rest = literalRest t := by
  induction u generalizing cs with
  | nil => exact ⟨cs, rfl, h.symm⟩
  | cons d u ih =>
    rw [List.mem_cons, not_or] at hu
    cases cs with
    | nil => exact absurd (List.cons.inj h).1 hu.1
    | cons c cs =>
      by_cases hc : c = '\''
      · subst hc
        rw [literalRest_quote] at h
        exact absurd (List.cons.inj h).1 hu.1
      · rw [literalRest_of_ne hc] at h
        obtain ⟨rfl, htail⟩ := List.cons.inj h
        obtain ⟨t, rfl, rfl⟩ := ih hu.2 htail
        exact ⟨t, rfl, rfl⟩

/-- A part of a literal without quotes is a part of the text. -/
theorem literalRest_eq_iff (hne : u ≠ []) (hu : '\'' ∉ u) :
    literalRest cs = before ++ (u ++ rest) ↔
      ∃ x t, cs = x ++ (u ++ t) ∧ before = double '\'' x ∧ rest = literalRest t := by
  constructor
  · intro h
    cases u with
    | nil => exact absurd rfl hne
    | cons d u =>
      rw [List.mem_cons, not_or] at hu
      obtain ⟨x, t, rfl, rfl, ht⟩ := literalRest_eq_append_cons (Ne.symm hu.1) h
      obtain ⟨t, rfl, rfl⟩ := literalRest_eq_append hu.2 ht.symm
      exact ⟨x, t, rfl, rfl, rfl⟩
  · rintro ⟨x, t, rfl, rfl, rfl⟩
    rw [literalRest, double_append, double_append, double_eq_self hu, List.append_assoc,
      List.append_assoc]
    rfl

end

theorem getLast?_double (q : Char) (cs : List Char) : (double q cs).getLast? = cs.getLast? := by
  rcases List.eq_nil_or_concat cs with rfl | ⟨cs, c, rfl⟩
  · rfl
  · by_cases hc : c = q <;> simp [double, hc]

/-- Before a place in a literal stands a word character just if one stands before it in the text. -/
theorem any_isWordChar_before (cs : List Char) :
    ((double '\'' cs).getLast?.or (some '\'')).any isWordChar = cs.getLast?.any isWordChar := by
  rw [getLast?_double]
  cases cs.getLast? <;> rfl

theorem head?_literalRest (cs : List Char) : (literalRest cs).head? = cs.head?.or (some '\'') := by
  cases cs with
  | nil => rfl
  | cons c cs =>
    by_cases hc : c = '\''
    · rw [hc, literalRest_quote]
      rfl
    · rw [literalRest_of_ne hc]
      rfl

theorem any_isWordChar_behind (cs : List Char) :
    (literalRest cs).head?.any isWordChar = cs.head?.any isWordChar := by
  rw [head?_literalRest]
  cases cs.head? <;> rfl

theorem mem_literalRest {d : Char} (hd : d ≠ '\'') (cs : List Char) :
    d ∈ literalRest cs ↔ d ∈ cs := by
  induction cs with
  | nil => simp [literalRest, double, hd]
  | cons c cs ih =>
    by_cases hc : c = '\''
    · simp [hc, literalRest_quote, hd, ih]
    · simp [literalRest_of_ne hc, ih]

/-! ## Patterns in a literal -/

namespace Pattern

/-- Does a pattern take something but no quote, and ask nothing of what stands around it that the
quotes of a literal could change. -/
structure Unquoted (p : Pattern) : Prop where
  noQuote : p.mayTake '\'' = false
  asksForWords : p.asksForWords = true
  notEmpty : p.mayBeEmpty = false

section

variable {a b b' p : Pattern} {pre cs : List Char}

theorem Unquoted.ne_nil {prev : Option Char} {u rest : List Char} (ha : Unquoted a)
    (hu : a.Spells prev u rest) : u ≠ [] :=
  fun hnil => solid_of_mayBeEmpty ha.notEmpty prev rest (hnil ▸ hu)

/-- What such a pattern leads to stands in a literal just if it stands in the text, with what may
follow there in place of what follows in the literal. -/
theorem Unquoted.standsIn_literalRest (ha : Unquoted a)
    (hb : ∀ prev t, b.Begins prev (literalRest t) ↔ b'.Begins prev t) :
    (a ++ b).StandsIn (some '\'') (literalRest cs) ↔ (a ++ b').StandsIn none cs := by
  simp only [StandsIn, begins_seq]
  constructor
  · rintro ⟨before, _, hcs, u, rest, rfl, hu, hrest⟩
    have hne := ha.ne_nil hu
    obtain ⟨x, t, rfl, rfl, rfl⟩ := (literalRest_eq_iff hne (hu.not_mem ha.noQuote)).mp hcs
    refine ⟨x, u ++ t, rfl, u, t, rfl, ?_, ?_⟩
    · rw [Option.or_none]
      exact hu.around ha.asksForWords (any_isWordChar_before x) (any_isWordChar_behind t)
    · rw [List.getLast?_eq_some_getLast hne, Option.some_or] at hrest ⊢
      exact (hb _ t).mp hrest
  · rintro ⟨x, _, rfl, u, t, rfl, hu, ht⟩
    have hne := ha.ne_nil hu
    refine ⟨double '\'' x, u ++ literalRest t,
      (literalRest_eq_iff hne (hu.not_mem ha.noQuote)).mpr ⟨x, t, rfl, rfl, rfl⟩,
      u, literalRest t, rfl, ?_, ?_⟩
    · rw [Option.or_none] at hu
      exact hu.around ha.asksForWords (any_isWordChar_before x).symm (any_isWordChar_behind t).symm
    · rw [List.getLast?_eq_some_getLast hne, Option.some_or] at ht ⊢
      exact (hb _ t).mpr ht

theorem Unquoted.standsIn_iff (ha : Unquoted a) :
    a.StandsIn (some '\'') (literalRest cs) ↔ a.StandsIn none cs := by
  rw [standsIn_congr fun _ _ => begins_seq_empty.symm,
    ha.standsIn_literalRest fun _ _ => iff_of_true begins_empty begins_empty,
    standsIn_congr fun _ _ => begins_seq_empty]

/-- No match that such a pattern leads to begins before a literal, if the pattern does not stand
there up to the quote. -/
theorem Unquoted.noneIn (ha : Unquoted a) (hlead : ∀ prev cs, p.Begins prev cs → a.Begins prev cs)
    (hpre : ¬ a.StandsIn none (pre ++ ['\''])) (cs : List Char) :
    NoneIn p none (pre ++ ['\'']) cs := by
  intro x y hxy hy hbegins
  obtain ⟨u, rest, hcs, hu⟩ := hlead _ _ hbegins
  have hquote := hu.not_mem ha.noQuote
  rcases List.eq_nil_or_concat y with rfl | ⟨y, q, rfl⟩
  · exact hy rfl
  rw [List.concat_eq_append, ← List.append_assoc] at hxy
  obtain ⟨rfl, hq⟩ := List.append_inj' hxy rfl
  obtain rfl := List.singleton_inj.mp hq
  -- what is taken ends before the quote
  obtain ⟨v, rfl, rfl⟩ : ∃ v, y = u ++ v ∧ rest = v ++ '\'' :: cs := by
    rw [List.concat_eq_append, List.append_assoc] at hcs
    rcases List.append_eq_append_iff.mp hcs with ⟨v, rfl, hv⟩ | ⟨v, hy, hrest⟩
    · cases v with
      | nil => exact ⟨[], by simp, hv.symm⟩
      | cons d v =>
        obtain ⟨rfl, -⟩ := List.cons.inj hv
        exact absurd (List.mem_append_right y List.mem_cons_self) hquote
    · exact ⟨v, hy, hrest⟩
  refine hpre ⟨x, u ++ (v ++ ['\'']), by simp only [List.append_assoc], u, _, rfl, ?_⟩
  have hhead : ('\'' :: cs).head?.any isWordChar = ['\''].head?.any isWordChar := rfl
  exact hu.around ha.asksForWords rfl (any_head?_append hhead v)

end

end Pattern

end SchemaChart.Text

namespace SchemaChart.Source

open Text Pattern

/-! ## Each clause in a literal -/

/-- What stands before the name of a tablespace. -/
def tablespaceWords : Pattern :=
  blanks ++ opt (phrase "USING INDEX ") ++ phrase "TABLESPACE "

/-- Whether the rows of a table have identifiers. -/
def oidsClause : Pattern :=
  (phrase " WITH" ++ gap ++ lit "(" ++ gap ++ phrase "OIDS" ++ gap ++ lit "=" ++ gap
      ++ some1 isWordChar ++ gap ++ lit ")")
    <|> (phrase " WITH" ++ opt (phrase "OUT") ++ phrase " OIDS" ++ edge)

/-- The settings of an index up to the name of the first one. -/
def indexSettingsWords : Pattern :=
  phrase " WITH" ++ gap ++ lit "(" ++ gap
    ++ oneOf ["PAD_INDEX", "STATISTICS_NORECOMPUTE", "IGNORE_DUP_KEY", "ALLOW_ROW_LOCKS",
      "ALLOW_PAGE_LOCKS", "OPTIMIZE_FOR_SEQUENTIAL_KEY", "FILLFACTOR", "DATA_COMPRESSION"]

theorem storageClause_eq :
    storageClause = ((tablespaceWords ++ some1 (!isBlank ·)) <|> oidsClause) := rfl

theorem indexSettings_eq :
    indexSettings = indexSettingsWords ++ run true (· != ')') ++ (one (· == ')') ++ empty) := rfl

theorem unquoted_tablespaceWords : Unquoted tablespaceWords := ⟨rfl, rfl, rfl⟩

theorem unquoted_oidsClause : Unquoted oidsClause := ⟨rfl, rfl, rfl⟩

theorem unquoted_indexSettingsWords : Unquoted indexSettingsWords := ⟨rfl, rfl, rfl⟩

theorem unquoted_fileGroup : Unquoted fileGroup := ⟨rfl, rfl, rfl⟩

theorem unquoted_clustering : Unquoted clustering := ⟨rfl, rfl, rfl⟩

/-- The quote that closes a literal passes for the name of a tablespace. -/
theorem standsIn_storageClause (cs : List Char) :
    storageClause.StandsIn (some '\'') (literalRest cs) ↔
      storageClause.StandsIn none cs ∨ (tablespaceWords ++ textEnd).StandsIn none cs := by
  have hname : ∀ prev t, (some1 (!isBlank ·)).Begins prev (literalRest t) ↔
      (some1 (!isBlank ·) <|> textEnd).Begins prev t := by
    intro prev t
    rw [begins_alt, begins_some1, begins_some1, begins_textEnd, head?_literalRest]
    cases t with
    | nil => exact iff_of_true rfl (.inr rfl)
    | cons d ds => simp
  rw [storageClause_eq, standsIn_alt, standsIn_alt, unquoted_oidsClause.standsIn_iff,
    unquoted_tablespaceWords.standsIn_literalRest hname, standsIn_seq_alt, or_right_comm]

theorem standsIn_indexSettings (cs : List Char) :
    indexSettings.StandsIn (some '\'') (literalRest cs) ↔ indexSettings.StandsIn none cs := by
  have hclosed : ∀ prev t, (run true (· != ')') ++ (one (· == ')') ++ empty)).Begins prev
      (literalRest t) ↔ (run true (· != ')') ++ (one (· == ')') ++ empty)).Begins prev t := by
    intro prev t
    rw [begins_until, begins_until, mem_literalRest (by decide)]
  rw [indexSettings_eq, standsIn_congr fun _ _ => begins_assoc,
    unquoted_indexSettingsWords.standsIn_literalRest hclosed,
    standsIn_congr fun _ _ => begins_assoc.symm]

/-! ## Clauses in a comment -/

/-- The statement that gives a table a comment. -/
def commentOn (s : String) : List Char := ("COMMENT ON TABLE t IS " ++ quoteLiteral s).toList

/-- The statement up to the quote that opens the comment. -/
def commentHead : List Char := "COMMENT ON TABLE t IS ".toList ++ ['\'']

theorem commentOn_eq (s : String) : commentOn s = commentHead ++ literalRest s.toList := by
  rw [commentOn, String.toList_append, quoteLiteral_toList, literal_eq, ← List.singleton_append,
    ← List.append_assoc]
  rfl

/-- Is a clause taken out of what stands behind the quote, and of nothing before it. -/
def ParesComments (p : Pattern) : Prop :=
  ∀ cs, ∃ kept, p.replaceAll (fun _ => []) (commentHead ++ cs) = commentHead ++ kept ∧
    Pared p (some '\'') cs kept

theorem paresComments_of_lead {p a : Pattern} (hp : p.mayBeEmpty = false) (ha : Unquoted a)
    (hlead : ∀ prev cs, p.Begins prev cs → a.Begins prev cs)
    (hhead : a.occursIn commentHead = false) : ParesComments p := by
  intro cs
  have hnone : ¬ a.StandsIn none commentHead := by
    rw [← occursIn_iff, hhead]
    exact Bool.false_ne_true
  exact replaceAll_append (solid_of_mayBeEmpty hp) (ha.noneIn hlead hnone cs)

/-- No clause starts before the quote. -/
theorem occursIn_commentHead :
    ∀ a ∈ [tablespaceWords <|> oidsClause, indexSettingsWords, fileGroup, clustering],
      a.occursIn commentHead = false := by
  decide +kernel

theorem paresComments_storageClause : ParesComments storageClause := by
  have hwords : Unquoted (tablespaceWords <|> oidsClause) := ⟨rfl, rfl, rfl⟩
  refine paresComments_of_lead rfl hwords (fun prev cs h => ?_) (occursIn_commentHead _ (by simp))
  rw [storageClause_eq, begins_alt, begins_seq] at h
  obtain ⟨u, rest, hcs, hu, -⟩ | h := h
  · exact begins_alt.mpr (.inl ⟨u, rest, hcs, hu⟩)
  · exact begins_alt.mpr (.inr h)

theorem paresComments_indexSettings : ParesComments indexSettings := by
  refine paresComments_of_lead rfl unquoted_indexSettingsWords (fun prev cs h => ?_)
    (occursIn_commentHead _ (by simp))
  rw [indexSettings_eq, begins_assoc, begins_seq] at h
  obtain ⟨u, rest, hcs, hu, -⟩ := h
  exact ⟨u, rest, hcs, hu⟩

theorem paresComments_fileGroup : ParesComments fileGroup :=
  paresComments_of_lead rfl unquoted_fileGroup (fun _ _ h => h) (occursIn_commentHead _ (by simp))

theorem paresComments_clustering : ParesComments clustering :=
  paresComments_of_lead rfl unquoted_clustering (fun _ _ h => h) (occursIn_commentHead _ (by simp))

/-- What is left of a text when index settings, file groups and clustering are taken out of it. -/
def SettingsTaken (cs kept : List Char) : Prop :=
  ∃ settled grouped, Pared indexSettings (some '\'') cs settled ∧
    Pared fileGroup (some '\'') settled grouped ∧ Pared clustering (some '\'') grouped kept

theorem prepare_postgresql_commentHead (cs : List Char) :
    ∃ kept, prepare .postgresql (commentHead ++ cs) = commentHead ++ kept ∧
      Pared storageClause (some '\'') cs kept :=
  paresComments_storageClause cs

theorem prepare_sqlServer_commentHead (cs : List Char) :
    ∃ kept, prepare .sqlServer (commentHead ++ cs) = commentHead ++ kept ∧
      SettingsTaken cs kept := by
  obtain ⟨settled, hsettled, hpared⟩ := paresComments_indexSettings cs
  obtain ⟨grouped, hgrouped, hpared'⟩ := paresComments_fileGroup settled
  obtain ⟨kept, hkept, hpared''⟩ := paresComments_clustering grouped
  refine ⟨kept, ?_, settled, grouped, hpared, hpared', hpared''⟩
  simp only [prepare, hsettled, hgrouped, hkept]

/-- No step gives back what another took, so a text is left alone just if each step leaves it. -/
theorem SettingsTaken.eq_iff {cs kept : List Char} (h : SettingsTaken cs kept) :
    kept = cs ↔ ∀ p ∈ [indexSettings, fileGroup, clustering], ¬ p.StandsIn (some '\'') cs := by
  obtain ⟨settled, grouped, hsettled, hgrouped, hkept⟩ := h
  simp only [List.forall_mem_cons, List.not_mem_nil, false_implies, implies_true, and_true]
  constructor
  · rintro rfl
    have hshorter := hgrouped.length_le
    have hshortest := hkept.length_le
    obtain rfl := hsettled.eq_of_length_le (Nat.le_trans hshortest hshorter)
    obtain rfl := hgrouped.eq_of_length_le hshortest
    exact ⟨hsettled.eq_iff.mp rfl, hgrouped.eq_iff.mp rfl, hkept.eq_iff.mp rfl⟩
  · rintro ⟨hsettings, hgroup, hclustering⟩
    obtain rfl := hsettled.eq_iff.mpr hsettings
    obtain rfl := hgrouped.eq_iff.mpr hgroup
    exact hkept.eq_iff.mpr hclustering

/-- Clauses are taken out of a comment as out of any other part of a statement. In PostgreSQL it is
left alone just if no storage clause stands in it and it does not end where the name of a tablespace
is due, in SQL Server just if it holds no settings of an index, no file group and no clustering. -/
theorem clauses_are_taken_out_of_comments (s : String) :
    (∃ kept, prepare .postgresql (commentOn s) = commentHead ++ kept ∧
      Pared storageClause (some '\'') (literalRest s.toList) kept) ∧
    (prepare .postgresql (commentOn s) = commentOn s ↔
      ¬ storageClause.StandsIn none s.toList ∧
        ¬ (tablespaceWords ++ textEnd).StandsIn none s.toList) ∧
    (∃ kept, prepare .sqlServer (commentOn s) = commentHead ++ kept ∧
      SettingsTaken (literalRest s.toList) kept) ∧
    (prepare .sqlServer (commentOn s) = commentOn s ↔
      ∀ p ∈ [indexSettings, fileGroup, clustering], ¬ p.StandsIn none s.toList) := by
  rw [commentOn_eq]
  obtain ⟨stored, hprepare, hstored⟩ := prepare_postgresql_commentHead (literalRest s.toList)
  obtain ⟨kept, hprepare', hkept⟩ := prepare_sqlServer_commentHead (literalRest s.toList)
  refine ⟨⟨stored, hprepare, hstored⟩, ?_, ⟨kept, hprepare', hkept⟩, ?_⟩
  · rw [hprepare, List.append_cancel_left_eq, hstored.eq_iff, standsIn_storageClause,
      not_or]
  · rw [hprepare', List.append_cancel_left_eq, hkept.eq_iff]
    simp only [List.forall_mem_cons, standsIn_indexSettings, unquoted_fileGroup.standsIn_iff,
      unquoted_clustering.standsIn_iff, List.not_mem_nil, false_implies, implies_true]

/-- A comment that speaks of a tablespace loses its end with the quote that closes it, and one that
speaks of a clustered table loses that word. -/
theorem comments_lose_tablespaces_and_clusterings :
    prepare .postgresql (commentOn "moved to tablespace fast") ≠
      commentOn "moved to tablespace fast" ∧
    prepare .postgresql (commentOn "moved to tablespace fast") =
      "COMMENT ON TABLE t IS 'moved to".toList ∧
    prepare .sqlServer (commentOn "the clustered one") ≠ commentOn "the clustered one" ∧
    prepare .sqlServer (commentOn "the clustered one") =
      "COMMENT ON TABLE t IS 'the one'".toList := by
  refine ⟨fun hsame => ?_, by decide +kernel, fun hsame => ?_, by decide +kernel⟩
  · obtain ⟨-, hleft, -⟩ := clauses_are_taken_out_of_comments "moved to tablespace fast"
    exact (hleft.mp hsame).1 (occursIn_iff.mp (by decide +kernel))
  · obtain ⟨-, -, -, hleft⟩ := clauses_are_taken_out_of_comments "the clustered one"
    exact hleft.mp hsame clustering (by simp) (occursIn_iff.mp (by decide +kernel))

end SchemaChart.Source
