-- String literals in scripts. Whatever a text holds, its literal is one piece to every scan that
-- knows its quotes, and gives the text back; so a list of literals gives back all of its texts.
import SchemaChart.Export.ColumnType
import SchemaChart.Proofs.Brackets

namespace SchemaChart.Text

/-! ## One literal -/

/-- A text as a string literal. -/
def literal (cs : List Char) : List Char := '\'' :: double '\'' cs ++ ['\'']

theorem quoteLiteral_toList (s : String) : (quoteLiteral s).toList = literal s.toList := by
  simp [quoteLiteral, literal]

theorem trimmed_literal (cs : List Char) : Trimmed (literal cs) :=
  ⟨⟨'\'', rfl, rfl⟩, '\'', List.getLast?_concat, rfl⟩

theorem unquoteLiteral?_literal (cs : List Char) : unquoteLiteral? (literal cs) = some cs := by
  have hquotes : unquoteWith? '\'' '\'' (literal cs) = some cs := by
    rw [literal, List.cons_append, unquoteWith?_cons (by simp), List.getLast?_concat,
      List.dropLast_concat, undouble_double]
    rfl
  unfold unquoteLiteral?
  rw [(trimmed_literal cs).trim_eq]
  dsimp only
  split
  · next m rest heq =>
    -- a second quote is no mark before the literal
    obtain rfl : '\'' = m := (List.cons.inj heq).1
    simpa using hquotes
  · exact hquotes

namespace Grouping

/-- A doubled quote closes a quote and opens it again. -/
theorem segments_inDoubled {g : Grouping} (sep : Char → Bool) (d : Int) {q : Char}
    (hq : g.opens q = some q) (cs rest : List Char) :
    g.segments sep ⟨d, some q⟩ (double q cs ++ q :: rest) =
      (double q cs ++ [q]).foldr consHead (g.segments sep ⟨d, none⟩ rest) := by
  induction cs with
  | nil => simp [double, segments, cuts, step]
  | cons c cs ih =>
    by_cases hc : c = q
    · subst hc
      simp [double_cons_self, segments, cuts, step, hq, ih]
    · simp [double_cons_of_ne hc, segments, cuts, step, hc, ih]

/-- A scan passes over whatever stands between quotes that it knows. -/
theorem passes_doubled {g : Grouping} {q : Char} (hq : g.opens q = some q) (sep : Char → Bool)
    (cs : List Char) : g.Passes sep (q :: double q cs ++ [q]) := by
  intro rest
  have hinside := segments_inDoubled sep 0 hq cs rest
  rw [List.append_assoc, List.singleton_append, List.cons_append]
  simp [segments, cuts, step, hq, hinside]

theorem passes_literal {g : Grouping} (hg : g = elements ∨ g = words) (sep : Char → Bool)
    (cs : List Char) : g.Passes sep (literal cs) :=
  passes_doubled (by rcases hg with rfl | rfl <;> rfl) sep cs

end Grouping

theorem splitWords_literal (cs : List Char) : splitWords (literal cs) = [literal cs] := by
  rw [splitWords, (Grouping.passes_literal (.inr rfl) isBlank cs).last]
  rfl

/-! ## Lists of literals -/

theorem splitTopLevel_literals {pad : List Char} (hpad : ∀ c ∈ pad, isBlank c = true)
    (vs : List (List Char)) :
    splitTopLevel ',' ((',' :: pad).intercalate (vs.map literal)) = vs.map literal := by
  by_cases hvs : vs = []
  · subst hvs
    rfl
  · have hparts : ∀ p ∈ vs.map literal, Grouping.elements.Passes (· == ',') p ∧ Trimmed p :=
      List.forall_mem_map.mpr fun v _ =>
        ⟨Grouping.passes_literal (.inl rfl) _ v, trimmed_literal v⟩
    have hnil : ∀ c ∈ ([] : List Char), isBlank c = true := by simp
    have hsplit := splitTopLevel_passed rfl rfl hpad hnil (by simpa using hvs) hparts [] hnil
    rwa [List.nil_append, List.append_nil] at hsplit

/-! ## Literals in groups -/

theorem closing?_inDoubled (d : Nat) {q : Char} (hq : plainQuote q = some q)
    (cs rest : List Char) :
    closing? d (some q) (double q cs ++ q :: rest) =
      (closing? d none rest).map (· + ((double q cs).length + 1)) := by
  induction cs with
  | nil => simp [double, closing?]
  | cons c cs ih =>
    by_cases hc : c = q
    · subst hc
      simp [double_cons_self, closing?, hq, ih, Function.comp_def, Nat.add_assoc]
    · simp [double_cons_of_ne hc, closing?, hc, ih, Function.comp_def, Nat.add_assoc]

theorem closing?_doubled (d : Nat) {q : Char} (hq : plainQuote q = some q) (cs rest : List Char) :
    closing? d none (q :: double q cs ++ [q] ++ rest) =
      (closing? d none rest).map (· + (q :: double q cs ++ [q]).length) := by
  have hinside := closing?_inDoubled d hq cs rest
  rw [List.append_assoc, List.singleton_append, List.cons_append]
  simp [closing?, hq, hinside, Function.comp_def, Nat.add_assoc]

/-- The search for a closing parenthesis goes past a list, if it goes past each of its parts. -/
theorem closing?_joined {pad : List Char} (hpad : ∀ c ∈ pad, isBlank c = true) (d : Nat)
    {parts : List (List Char)}
    (hparts : ∀ p ∈ parts, ∀ rest, closing? d none (p ++ rest) =
      (closing? d none rest).map (· + p.length)) (rest : List Char) :
    closing? d none ((',' :: pad).intercalate parts ++ rest) =
      (closing? d none rest).map (· + ((',' :: pad).intercalate parts).length) := by
  have hcomma : ∀ c ∈ ',' :: pad, plainQuote c = none ∧ c ≠ '(' ∧ c ≠ ')' := by
    intro c hc
    apply Grouping.opens_plain (.inr rfl)
    rcases List.mem_cons.mp hc with rfl | hc
    · rfl
    · exact isPlain_of_isBlank (hpad c hc)
  induction parts with
  | nil => simp [List.intercalate]
  | cons p ps ih =>
    have hp := hparts p List.mem_cons_self
    have ih := ih fun x hx => hparts x (List.mem_cons_of_mem p hx)
    cases ps with
    | nil =>
      rw [List.intercalate_singleton]
      exact hp rest
    | cons q qs =>
      rw [List.intercalate_cons_cons, List.append_assoc, List.append_assoc, hp,
        closing?_passed hcomma, ih, Option.map_map, Option.map_map]
      congr 1
      funext n
      simp only [Function.comp_apply, List.length_append]
      omega

theorem closing?_literals {pad : List Char} (hpad : ∀ c ∈ pad, isBlank c = true) (d : Nat)
    (vs : List (List Char)) (rest : List Char) :
    closing? d none ((',' :: pad).intercalate (vs.map literal) ++ rest) =
      (closing? d none rest).map (· + ((',' :: pad).intercalate (vs.map literal)).length) :=
  closing?_joined hpad d (List.forall_mem_map.mpr fun v _ => closing?_doubled d rfl v) rest

theorem splitGroup?_literals {pad : List Char} (hpad : ∀ c ∈ pad, isBlank c = true)
    (vs : List (List Char)) (rest : List Char) :
    splitGroup? ((',' :: pad).intercalate (vs.map literal) ++ ')' :: rest) =
      some ((',' :: pad).intercalate (vs.map literal), rest) := by
  have hclose : closing? 1 none (')' :: rest) = some 0 := rfl
  have hlist := closing?_literals hpad 1 vs (')' :: rest)
  rw [hclose] at hlist
  simp [splitGroup?, hlist]

end SchemaChart.Text

namespace SchemaChart.Export

open Text

theorem literals_toList (between : String) (vs : List String) :
    (literals between vs).toList =
      between.toList.intercalate ((vs.map String.toList).map literal) := by
  rw [literals, String.toList_intercalate, List.map_map, List.map_map]
  simp [Function.comp_def, quoteLiteral_toList]

/-- The texts of a list of literals can be read from it. -/
theorem literals_read {between : String} {pad : List Char} (hbetween : between.toList = ',' :: pad)
    (hpad : ∀ c ∈ pad, isBlank c = true) (vs : List String) :
    (splitTopLevel ',' (literals between vs).toList).filterMap
      (fun v => (unquoteLiteral? v).map String.ofList) = vs := by
  rw [literals_toList, hbetween, splitTopLevel_literals hpad, List.map_map, List.filterMap_map]
  simp [Function.comp_def, unquoteLiteral?_literal, String.ofList_toList]

theorem literals_inj {vs ws : List String} (h : literals "," vs = literals "," ws) : vs = ws := by
  have hread : ∀ vs : List String, (splitTopLevel ',' (literals "," vs).toList).filterMap
      (fun v => (unquoteLiteral? v).map String.ofList) = vs := literals_read rfl (by simp)
  rw [← hread vs, h, hread ws]

end SchemaChart.Export
