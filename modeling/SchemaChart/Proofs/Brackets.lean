-- Names in brackets, as SQL Server writes them: how far each scan takes such a name for one name.
import SchemaChart.Export.Quoting
import SchemaChart.Proofs.Cuts
import SchemaChart.Proofs.StatementBreaks

namespace SchemaChart.Text

/-! ## What reading a piece leaves of its separators -/

section

variable {c : Char} {cs : List Char}

theorem count_dropWhile_isBlank (hc : isBlank c = false) (cs : List Char) :
    (cs.dropWhile isBlank).count c = cs.count c := by
  have hblank : (cs.takeWhile isBlank).count c = 0 := by
    rw [List.count_eq_zero]
    intro hmem
    have hblank := List.all_eq_true.mp (List.all_takeWhile (p := isBlank) (l := cs)) c hmem
    simp [hc] at hblank
  have happend := congrArg (List.count c) (List.takeWhile_append_dropWhile (p := isBlank) (l := cs))
  rw [List.count_append, hblank] at happend
  omega

theorem count_trim (hc : isBlank c = false) (cs : List Char) : (trim cs).count c = cs.count c := by
  unfold trim trimEnd trimStart
  rw [List.count_reverse, count_dropWhile_isBlank hc, List.count_reverse,
    count_dropWhile_isBlank hc]

theorem count_undouble {q : Char} (hc : c ≠ q) (cs : List Char) :
    (undouble q cs).count c = cs.count c := by
  fun_induction undouble q cs with
  | case1 => rfl
  | case2 => rfl
  | case3 a b cs hab ih =>
    obtain ⟨ha, hb⟩ := Bool.and_eq_true_iff.mp hab
    simp only [beq_iff_eq] at ha hb
    subst ha hb
    simp [ih, Ne.symm hc]
  | case4 a b cs hab ih => rw [List.count_cons, List.count_cons, ih]

theorem count_unquoteWith? {l r : Char} (hl : c ≠ l) (hr : c ≠ r) {v : List Char}
    (h : unquoteWith? l r cs = some v) : v.count c = cs.count c := by
  unfold unquoteWith? at h
  split at h
  · rename_i a b ds
    split at h
    · rename_i hends
      simp only [Bool.and_eq_true, beq_iff_eq] at hends
      obtain ⟨rfl, hlast⟩ := hends
      obtain ⟨ys, hys⟩ := List.getLast?_eq_some_iff.mp hlast
      rw [← Option.some.inj h, count_undouble hr, hys, List.dropLast_concat]
      simp [Ne.symm hl, Ne.symm hr]
    · cases h
  · cases h

/-- Taking the quotes from a name keeps its dots. -/
theorem count_unquoteIdentifier (cs : List Char) :
    (unquoteIdentifier cs).count '.' = cs.count '.' := by
  rw [← count_trim (c := '.') rfl cs]
  unfold unquoteIdentifier
  rcases h1 : unquoteWith? '"' '"' (trim cs) with _ | v
  · rcases h2 : unquoteWith? '`' '`' (trim cs) with _ | v
    · rcases h3 : unquoteWith? '[' ']' (trim cs) with _ | v
      · simp [h1, h2, h3]
      · simpa [h1, h2, h3] using count_unquoteWith? (by decide) (by decide) h3
    · simpa [h1, h2] using count_unquoteWith? (by decide) (by decide) h2
  · simpa [h1] using count_unquoteWith? (by decide) (by decide) h1

end

/-! ## Names in brackets -/

/-- A name in brackets: a closing bracket in it is doubled. -/
def bracketed (name : List Char) : List Char := '[' :: double ']' name ++ [']']

/-- What stands behind the first closing bracket of a name in brackets. -/
def trailing (name : List Char) : List Char :=
  ((double ']' name ++ [']']).dropWhile (· != ']')).tail

theorem bracketed_eq (name : List Char) :
    ∃ lead, ']' ∉ lead ∧ bracketed name = '[' :: lead ++ ']' :: trailing name := by
  have hmem : ']' ∈ double ']' name ++ [']'] := by simp
  obtain ⟨lead, rest, htext, hlead⟩ := List.eq_append_cons_of_mem hmem
  have hrest : trailing name = rest := by
    unfold trailing
    rw [htext, List.dropWhile_append_of_pos]
    · rfl
    · intro c hc
      simpa using fun hcb : c = ']' => hlead (hcb ▸ hc)
  refine ⟨lead, hlead, ?_⟩
  unfold bracketed
  rw [hrest, List.cons_append, List.cons_append, htext]

theorem trailing_eq_nil {name : List Char} (h : ']' ∉ name) : trailing name = [] := by
  unfold trailing
  rw [double_eq_self h, List.dropWhile_append_of_pos]
  · rfl
  · intro c hc
    simpa using fun hcb : c = ']' => h (hcb ▸ hc)

theorem trimmed_bracketed (name : List Char) : Trimmed (bracketed name) :=
  ⟨⟨'[', rfl, rfl⟩, ']', List.getLast?_concat, rfl⟩

theorem unquoteIdentifier_bracketed (name : List Char) :
    unquoteIdentifier (bracketed name) = name :=
  unquoteIdentifier_doubled (by decide)

namespace Grouping

variable {g : Grouping}

/-- A quoted text is passed over to its closing quote. -/
theorem behind_inQuote (sep : Char → Bool) (d : Int) {r : Char} {name : List Char} (hr : r ∉ name)
    (rest : List Char) :
    g.behind ⟨d, some r⟩ (name ++ r :: rest) = g.behind ⟨d, none⟩ rest ∧
      g.uncut sep ⟨d, some r⟩ (name ++ r :: rest) = g.uncut sep ⟨d, none⟩ rest := by
  induction name with
  | nil => simp [behind, uncut, step, cuts]
  | cons c name ih =>
    have hc : c ≠ r := fun h => hr (h ▸ List.mem_cons_self)
    have ih := ih fun h => hr (List.mem_cons_of_mem c h)
    simpa [behind, uncut, step, cuts, hc] using ih

/-- A bracketed name leaves a scan where its text behind the first closing bracket leaves it. -/
theorem scan_bracketed (hg : g.opens '[' = some ']') (sep : Char → Bool) (name : List Char) :
    g.behind {} (bracketed name) = g.behind {} (trailing name) ∧
      g.uncut sep {} (bracketed name) = g.uncut sep {} (trailing name) := by
  obtain ⟨lead, hlead, htext⟩ := bracketed_eq name
  have hstep : g.step {} '[' = ⟨0, some ']'⟩ := by simp [step, hg]
  have hcut : g.cuts sep {} '[' = false := by simp [cuts, hg]
  have hquote := behind_inQuote (g := g) sep 0 hlead (trailing name)
  rw [htext, List.cons_append, behind_cons, uncut, hstep, hcut]
  simpa using hquote

/-- Does a scan cut a text nowhere, and stand behind it as before it. -/
def neutral (g : Grouping) (sep : Char → Bool) (cs : List Char) : Bool :=
  g.uncut sep {} cs && g.behind {} cs == {}

/-- Two bracketed names are cut at the separator between them, and only there, just if the first
is neutral and the second uncut behind the first closing bracket. -/
theorem segments_bracketed_iff (hg : g.opens '[' = some ']') {c : Char}
    (hc : g.cuts (· == c) {} c = true) (s t : List Char) :
    g.segments (· == c) {} (bracketed s ++ c :: bracketed t) = [bracketed s, bracketed t] ↔
      g.neutral (· == c) (trailing s) = true ∧ g.uncut (· == c) {} (trailing t) = true := by
  have hs := scan_bracketed hg (· == c) s
  have ht := scan_bracketed hg (· == c) t
  have hhere : ∀ n, g.cuts (· == c) n c = true ↔ n = {} := by
    intro n
    constructor
    · intro h
      rcases n with ⟨d, q⟩
      simp only [cuts, Bool.and_eq_true, Option.isNone_iff_eq_none, beq_iff_eq] at h
      rw [h.1.1.1.1, h.1.1.1.2]
    · rintro rfl
      exact hc
  rw [segments_eq_pair_iff, hhere, hs.1, hs.2, neutral, Bool.and_eq_true, beq_iff_eq, and_assoc]
  refine and_congr_right fun _ => and_congr_right fun hbehind => ?_
  rw [hbehind, ht.2]

end Grouping

theorem splitQualified_bracketed_iff {s t : List Char} (hs : s ≠ []) (ht : t ≠ []) :
    splitQualified (bracketed s ++ '.' :: bracketed t) = [s, t] ↔
      Grouping.names.neutral (· == '.') (trailing s) = true ∧
        Grouping.names.uncut (· == '.') {} (trailing t) = true := by
  have htrim := ((trimmed_bracketed s).append ['.'] (trimmed_bracketed t)).trim_eq
  rw [List.singleton_append] at htrim
  have hparts := parts_eq_pair_iff Grouping.names count_unquoteIdentifier (n := {})
    (x := bracketed s) (y := bracketed t) (by rwa [unquoteIdentifier_bracketed])
    (by rwa [unquoteIdentifier_bracketed])
  rw [unquoteIdentifier_bracketed, unquoteIdentifier_bracketed] at hparts
  rw [splitQualified, htrim, hparts, Grouping.segments_bracketed_iff rfl rfl]

theorem splitTopLevel_bracketed_iff (s t : List Char) :
    splitTopLevel ',' (bracketed s ++ ',' :: bracketed t) = [bracketed s, bracketed t] ↔
      Grouping.elements.neutral (· == ',') (trailing s) = true ∧
        Grouping.elements.uncut (· == ',') {} (trailing t) = true := by
  have hparts := parts_eq_pair_iff Grouping.elements (count_trim (c := ',') rfl) (n := {})
    (x := bracketed s) (y := bracketed t)
    (by rw [(trimmed_bracketed s).trim_eq]; exact (trimmed_bracketed s).ne_nil)
    (by rw [(trimmed_bracketed t).trim_eq]; exact (trimmed_bracketed t).ne_nil)
  rw [(trimmed_bracketed s).trim_eq, (trimmed_bracketed t).trim_eq] at hparts
  rw [splitTopLevel, hparts, Grouping.segments_bracketed_iff rfl rfl]

/-! ## Offsets -/

theorem byteSize_append (cs ds : List Char) : byteSize (cs ++ ds) = byteSize cs + byteSize ds := by
  have hshift : ∀ (ds : List Char) (n : Nat),
      ds.foldl (fun n c => n + c.utf8Size) n = n + byteSize ds := by
    intro ds
    induction ds with
    | nil => simp [byteSize]
    | cons d ds ih =>
      intro n
      have hd := ih d.utf8Size
      simp only [byteSize, List.foldl_cons, Nat.zero_add] at hd ⊢
      rw [ih, hd, Nat.add_assoc]
      rfl
  unfold byteSize
  rw [List.foldl_append, hshift]
  rfl

theorem byteSize_cons (c : Char) (cs : List Char) :
    byteSize (c :: cs) = c.utf8Size + byteSize cs := by
  have happend := byteSize_append [c] cs
  rw [List.singleton_append] at happend
  rw [happend]
  simp [byteSize]

/-- Every character takes a byte at least. -/
theorem byteSize_take_lt (cs : List Char) {k m : Nat} (hkm : k < m) (hk : k < cs.length) :
    byteSize (cs.take k) < byteSize (cs.take m) := by
  induction cs generalizing k m with
  | nil => simp at hk
  | cons c cs ih =>
    obtain ⟨m, rfl⟩ : ∃ j, m = j + 1 := ⟨m - 1, by omega⟩
    have hpos := c.utf8Size_pos
    cases k with
    | zero =>
      rw [List.take_zero, List.take_succ_cons, byteSize_cons]
      simp only [byteSize, List.foldl_nil]
      omega
    | succ k =>
      rw [List.take_succ_cons, List.take_succ_cons, byteSize_cons, byteSize_cons]
      have hlt := ih (k := k) (m := m) (by omega) (by simpa using hk)
      omega

/-- The parenthesis before a bracketed name is closed by the one behind it just if the name itself
closes its quotes and its parentheses. -/
theorem closingParen?_bracketed_iff (name : List Char) :
    closingParen? (String.ofList ('(' :: bracketed name ++ [')'])) 0 =
        some (byteSize ('(' :: bracketed name)) ↔
      Grouping.words.contained {} name = true := by
  have hbrackets : Grouping.words.contained {} (bracketed name)
      = Grouping.words.contained {} name := by
    unfold bracketed
    rw [List.cons_append, contained_bracket (.inl rfl) (by simp) (by decide),
      contained_double (by simp) (by decide)]
  have hopen : closing? 0 none ('(' :: bracketed name ++ [')'])
      = (closing? 1 none (bracketed name ++ [')'])).map (· + 1) := rfl
  have hstart : fromByte 0 0 ('(' :: bracketed name ++ [')'])
      = (0, '(' :: bracketed name ++ [')']) := rfl
  have hclosing : closing? 1 none (bracketed name ++ [')']) = some (bracketed name).length ↔
      Grouping.words.contained {} (bracketed name) = true := closing?_eq_length_iff (d := 0)
  rw [← hbrackets, ← hclosing]
  unfold closingParen?
  rw [String.toList_ofList, hstart]
  dsimp only
  rw [hopen, Option.map_map]
  rcases closing? 1 none (bracketed name ++ [')']) with _ | k
  · simp
  · -- the offset tells how many characters stand before it
    have hwhole : ('(' :: bracketed name ++ [')']).take ((bracketed name).length + 1)
        = '(' :: bracketed name := by simp
    have hlength : ('(' :: bracketed name ++ [')']).length = (bracketed name).length + 2 := by simp
    rw [Option.map_some, Function.comp_apply, Option.some.injEq, Option.some.injEq, Nat.zero_add]
    constructor
    · intro h
      rcases Nat.lt_trichotomy k (bracketed name).length with hlt | heq | hgt
      · have hless := byteSize_take_lt ('(' :: bracketed name ++ [')']) (k := k + 1)
          (m := (bracketed name).length + 1) (by omega) (by omega)
        rw [hwhole, h] at hless
        exact absurd hless (Nat.lt_irrefl _)
      · exact heq
      · have hmore := byteSize_take_lt ('(' :: bracketed name ++ [')'])
          (k := (bracketed name).length + 1) (m := k + 1) (by omega) (by omega)
        rw [hwhole, h] at hmore
        exact absurd hmore (Nat.lt_irrefl _)
    · rintro rfl
      rw [hwhole]

end SchemaChart.Text

namespace SchemaChart.Script

open Text

/-! ## Statements -/

/-- The scan keeps a bracketed name to its first closing bracket. -/
theorem Scan.run_inBracket {s : Scan} (hmode : s.mode = .quoted ']') {lead : List Char}
    (hlead : ']' ∉ lead) (rest : List Char) :
    s.run (lead ++ ']' :: rest) =
      { s.keepAll (lead ++ [']']) with mode := .code false }.run rest := by
  induction lead generalizing s with
  | nil =>
    have hstep : s.step ']' rest = { s.keepAll [']'] with mode := .code false } := by
      simp only [step, hmode]
      rfl
    rw [List.nil_append, List.nil_append, run, hstep]
  | cons c lead ih =>
    have hc : c ≠ ']' := fun h => hlead (h ▸ List.mem_cons_self)
    have hstep : s.step c (lead ++ ']' :: rest) = s.keep c := by simp [step, hmode, hc]
    have ih := ih (s := s.keep c) hmode fun h => hlead (List.mem_cons_of_mem c h)
    rw [List.cons_append, run, hstep, ih, List.cons_append, keepAll_cons]

/-- Behind the first closing bracket of a name a scan is outside quotes, all of the name so far
being kept. -/
theorem Scan.run_bracketed (name : List Char) :
    ∃ s : Scan, ({} : Scan).run (bracketed name) = s.run (trailing name) ∧
      s.mode = .code false ∧ s.Started ∧ s.start = 1 ∧ s.done = [] ∧
      s.current.reverse ++ trailing name = bracketed name := by
  obtain ⟨lead, hlead, htext⟩ := bracketed_eq name
  have hfirst : ({} : Scan).step '[' (lead ++ ']' :: trailing name) =
      { mode := .quoted ']', current := ['['] } := by
    have hline : isBatchLine
        (('[' :: (lead ++ ']' :: trailing name)).takeWhile (· != '\n')) = false := by
      rw [List.takeWhile_cons_of_pos rfl]
      exact isBatchLine_of_head rfl (by decide) _
    simp only [step, hline]
    rfl
  have hblank : isBlank '[' = false := rfl
  refine ⟨{ ({ mode := .quoted ']', current := ['['] } : Scan).keepAll (lead ++ [']']) with
    mode := .code false }, ?_, rfl, ?_, rfl, rfl, ?_⟩
  · rw [htext, List.cons_append, run, hfirst, run_inBracket rfl hlead]
  · simp [Started, keepAll, hblank]
  · rw [htext]
    simp [keepAll]

/-- A bracketed name is one statement just if it is unbroken behind its first closing bracket. -/
theorem splitStatements_bracketed_iff (name : List Char) :
    splitStatements (bracketed name) = [⟨String.ofList (bracketed name), 1⟩] ↔
      (Mode.code false).unbroken (trailing name) = true := by
  obtain ⟨s, hrun, hmode, hstarted, hstart, hdone, htext⟩ := Scan.run_bracketed name
  have hlength := congrArg List.length htext
  rw [List.length_append, List.length_reverse] at hlength
  unfold splitStatements
  rw [hrun, ← hmode]
  constructor
  · intro h
    rcases hu : s.mode.unbroken (trailing name) with _ | _
    · have hbroken := Scan.run_broken hu
      have hflush := Scan.weight_flush (s.run (trailing name))
      have hweight : s.weight = s.current.length := by simp [Scan.weight, hdone]
      have hall : (bracketed name).length ≤ (s.run (trailing name)).flush.weight := by
        rw [List.reverse_eq_iff] at h
        unfold Scan.weight
        rw [h]
        simp
      omega
    · rfl
  · intro h
    obtain ⟨m, hm⟩ := Scan.run_unbroken hstarted (by rw [hmode]; rfl) h
    have hkept : ({ s.keepAll (trailing name) with mode := m } : Scan).current.reverse
        = bracketed name := by simpa [Scan.keepAll] using htext
    rw [hm, Scan.flush_eq (trimmed_bracketed name) hkept]
    simp [Scan.keepAll, hdone, hstart]

end SchemaChart.Script

namespace SchemaChart.Export

open Script (Mode splitStatements)
open Text

theorem quoteIdentifier_sqlServer (s : String) :
    (quoteIdentifier .sqlServer s).toList = bracketed s.toList := by
  simp [quoteIdentifier, identifierQuotes, bracketed]

/-- A name in brackets is hidden from scans up to its first closing bracket. What stands behind
that is read as if no bracket was open: qualified names and lists are cut at the separator
between two names, and only there, just if the rest of the first name is neutral and that of the
second is uncut; a name is one statement just if its rest is unbroken. The search for a closing
parenthesis does not see brackets at all: it ends behind the name just if the name closes its own
quotes and parentheses. A name without a closing bracket has no such rest. -/
theorem brackets_hide_a_name_to_its_first_closing_bracket {s t : String} (hs : s ≠ "")
    (ht : t ≠ "") :
    (splitQualified (quoteIdentifier .sqlServer s ++ "." ++ quoteIdentifier .sqlServer t).toList =
        [s.toList, t.toList] ↔
      Grouping.names.neutral (· == '.') (trailing s.toList) = true ∧
        Grouping.names.uncut (· == '.') {} (trailing t.toList) = true) ∧
    (splitTopLevel ',' (quoteIdentifier .sqlServer s ++ "," ++ quoteIdentifier .sqlServer t).toList
        = [(quoteIdentifier .sqlServer s).toList, (quoteIdentifier .sqlServer t).toList] ↔
      Grouping.elements.neutral (· == ',') (trailing s.toList) = true ∧
        Grouping.elements.uncut (· == ',') {} (trailing t.toList) = true) ∧
    (splitStatements (quoteIdentifier .sqlServer s).toList = [⟨quoteIdentifier .sqlServer s, 1⟩] ↔
      (Mode.code false).unbroken (trailing s.toList) = true) ∧
    (closingParen? ("(" ++ quoteIdentifier .sqlServer s ++ ")") 0 =
        some (byteSize ("(" ++ quoteIdentifier .sqlServer s).toList) ↔
      Grouping.words.contained {} s.toList = true) ∧
    (']' ∉ s.toList → trailing s.toList = []) := by
  have hne : ∀ {x : String}, x ≠ "" → x.toList ≠ [] := by
    intro x hx h
    exact hx (String.toList_eq_nil_iff.mp h)
  have hquoted := quoteIdentifier_sqlServer s
  have hquoted' := quoteIdentifier_sqlServer t
  have hstring : quoteIdentifier .sqlServer s = String.ofList (bracketed s.toList) := by
    rw [← hquoted, String.ofList_toList]
  refine ⟨?_, ?_, ?_, ?_, trailing_eq_nil⟩
  · rw [← splitQualified_bracketed_iff (hne hs) (hne ht)]
    simp [hquoted, hquoted']
  · rw [← splitTopLevel_bracketed_iff]
    simp [hquoted, hquoted']
  · rw [← Script.splitStatements_bracketed_iff, hquoted, ← hstring]
  · rw [← closingParen?_bracketed_iff]
    have hgroup : "(" ++ quoteIdentifier .sqlServer s ++ ")"
        = String.ofList ('(' :: bracketed s.toList ++ [')']) := by
      rw [hstring, ← String.toList_inj]
      simp
    rw [hgroup]
    simp [hquoted]

/-- A name that no scan takes for one: behind its closing bracket it has a dot, a comma, a
semicolon and a closing parenthesis. -/
theorem a_name_that_leaves_its_brackets :
    "a].,;)" ≠ "" ∧ "b" ≠ "" ∧
    splitQualified (quoteIdentifier .sqlServer "a].,;)" ++ "." ++
      quoteIdentifier .sqlServer "b").toList ≠ ["a].,;)".toList, "b".toList] ∧
    splitTopLevel ',' (quoteIdentifier .sqlServer "a].,;)" ++ "," ++
      quoteIdentifier .sqlServer "b").toList ≠
      [(quoteIdentifier .sqlServer "a].,;)").toList, (quoteIdentifier .sqlServer "b").toList] ∧
    splitStatements (quoteIdentifier .sqlServer "a].,;)").toList ≠
      [⟨quoteIdentifier .sqlServer "a].,;)", 1⟩] ∧
    closingParen? ("(" ++ quoteIdentifier .sqlServer "a].,;)" ++ ")") 0 ≠
      some (byteSize ("(" ++ quoteIdentifier .sqlServer "a].,;)").toList) := by
  have hs : "a].,;)" ≠ "" := by decide
  have ht : "b" ≠ "" := by decide
  obtain ⟨hqualified, hlist, hstatement, hgroup, _⟩ :=
    brackets_hide_a_name_to_its_first_closing_bracket hs ht
  refine ⟨hs, ht, ?_, ?_, ?_, ?_⟩
  · intro h
    exact absurd (hqualified.mp h).1 (by decide)
  · intro h
    exact absurd (hlist.mp h).1 (by decide)
  · intro h
    exact absurd (hstatement.mp h) (by decide)
  · intro h
    exact absurd (hgroup.mp h) (by decide)

end SchemaChart.Export
