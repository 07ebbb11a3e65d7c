-- Statements that cannot be read. Such a statement leaves its warning and nothing else, unless it
-- breaks the import down: no writer looks at the warnings, so the schema is the one that the other
-- statements lead to.
import SchemaChart.Proofs.Declarations
import SchemaChart.Proofs.Writers

namespace SchemaChart.Schema.Builder

open Text

/-! ## Writers do not look at warnings -/

/-- A schema under construction with other warnings before its own. -/
def afterWarnings (ws : List String) (b : Builder) : Builder :=
  { b with warnings := ws ++ b.warnings }

section

variable (ws : List String) (b : Builder)

@[simp] theorem warn_afterWarnings (message : String) :
    (b.afterWarnings ws).warn message = (b.warn message).afterWarnings ws := by
  simp [warn, afterWarnings]

theorem foldl_afterWarnings {f : Builder → α → Builder}
    (h : ∀ b x, f (afterWarnings ws b) x = (f b x).afterWarnings ws) (xs : List α) :
    xs.foldl f (b.afterWarnings ws) = (xs.foldl f b).afterWarnings ws := by
  induction xs generalizing b with
  | nil => rfl
  | cons x xs ih => rw [List.foldl_cons, h, ih, List.foldl_cons]

theorem resolve_afterWarnings (r : TableRef) :
    (b.afterWarnings ws).resolve r = ((b.resolve r).1, (b.resolve r).2.afterWarnings ws) := by
  have hexact : (b.afterWarnings ws).lookupExact? r = b.lookupExact? r := rfl
  have hname : (b.afterWarnings ws).lookupName? r.name = b.lookupName? r.name := rfl
  unfold resolve
  rw [hexact, hname]
  rcases b.lookupExact? r with _ | i
  · rcases b.lookupName? r.name with _ | i
    · rfl
    · exact congrArg (Prod.mk (some i)) (warn_afterWarnings ws b _)
  · rfl

/-- What is done to the table that a reference means, and what is done if there is none. -/
theorem resolved_afterWarnings (r : TableRef) {found : Nat → Builder → Builder}
    {missing : Builder → Builder}
    (hf : ∀ i b, found i (afterWarnings ws b) = (found i b).afterWarnings ws)
    (hm : ∀ b, missing (afterWarnings ws b) = (missing b).afterWarnings ws) :
    (match (b.afterWarnings ws).resolve r with
      | (some i, b') => found i b'
      | (none, b') => missing b') =
    (match b.resolve r with
      | (some i, b') => found i b'
      | (none, b') => missing b').afterWarnings ws := by
  rw [resolve_afterWarnings]
  rcases b.resolve r with ⟨_ | i, b'⟩
  · exact hm b'
  · exact hf i b'

theorem addTable_afterWarnings (t : Table) :
    (b.afterWarnings ws).addTable t = ((b.addTable t).1, (b.addTable t).2.afterWarnings ws) := by
  have hexact : (b.afterWarnings ws).lookupExact? t.ref = b.lookupExact? t.ref := rfl
  unfold addTable
  rw [hexact]
  rcases b.lookupExact? t.ref with _ | i
  · rfl
  · exact congrArg (Prod.mk i) (warn_afterWarnings ws b _)

theorem addType_afterWarnings (t : CustomType) :
    (b.afterWarnings ws).addType t = (b.addType t).afterWarnings ws := by
  unfold addType
  change (if b.types.any (fun u => sameName u.name t.name && b.sameSchema u.schema t.schema) then
    _ else _) = _
  split
  · exact warn_afterWarnings ws b _
  · rfl

theorem addIndex_afterWarnings (i : Nat) (index : Index) :
    (b.afterWarnings ws).addIndex i index = (b.addIndex i index).afterWarnings ws := by
  have htables : (b.afterWarnings ws).tables = b.tables := rfl
  unfold addIndex
  rw [htables]
  split
  · rfl
  · split
    · exact warn_afterWarnings ws b _
    · split <;> rfl

theorem setPrimaryKey_afterWarnings (i : Nat) (name : Option String) (columns : List String) :
    (b.afterWarnings ws).setPrimaryKey i name columns =
      (b.setPrimaryKey i name columns).afterWarnings ws := by
  have htables : (b.afterWarnings ws).tables = b.tables := rfl
  rcases ht : b.tables[i]? with _ | t
  · unfold setPrimaryKey
    rw [htables, ht]
  · rw [setPrimaryKey_eq name columns ht,
      setPrimaryKey_eq (b := b.afterWarnings ws) name columns ht]
    simp [afterWarnings]

theorem addUnique_afterWarnings (i : Nat) (name : Option String) (columns : List String) :
    (b.afterWarnings ws).addUnique i name columns =
      (b.addUnique i name columns).afterWarnings ws := by
  have htables : (b.afterWarnings ws).tables = b.tables := rfl
  unfold addUnique
  rw [htables, addIndex_afterWarnings]
  dsimp only
  split
  · split <;> rfl
  · rfl

theorem apply_afterWarnings (i : Nat) (fact : Fact) :
    (b.afterWarnings ws).apply i fact = (b.apply i fact).afterWarnings ws := by
  have htables : (b.afterWarnings ws).tables = b.tables := rfl
  unfold apply
  rw [htables]
  split
  · rfl
  · cases fact with
    | primaryKey name columns => exact setPrimaryKey_afterWarnings ws b i name columns
    | unique name columns => exact addUnique_afterWarnings ws b i name columns
    | index name columns unique method => exact addIndex_afterWarnings ws b i _
    | foreignKey name columns target targetColumns onUpdate onDelete => rfl

theorem applyAll_afterWarnings (i : Nat) (facts : List Fact) :
    (b.afterWarnings ws).applyAll i facts = (b.applyAll i facts).afterWarnings ws :=
  foldl_afterWarnings ws b (fun b fact => apply_afterWarnings ws b i fact) facts

theorem addColumn_afterWarnings (i : Nat) (column : Column) :
    (b.afterWarnings ws).addColumn i column = (b.addColumn i column).afterWarnings ws := by
  have htables : (b.afterWarnings ws).tables = b.tables := rfl
  unfold addColumn
  rw [htables]
  split
  · rfl
  · split
    · exact warn_afterWarnings ws b _
    · rfl

theorem onColumn_afterWarnings (i : Nat) (column purpose : String) (f : Column → Column) :
    (b.afterWarnings ws).onColumn i column purpose f =
      (b.onColumn i column purpose f).afterWarnings ws := by
  have htables : (b.afterWarnings ws).tables = b.tables := rfl
  unfold onColumn
  rw [htables]
  split
  · rfl
  · split
    · rfl
    · exact warn_afterWarnings ws b _

theorem alterAt_afterWarnings (i : Nat) (a : Alteration) :
    (b.afterWarnings ws).alterAt i a = (b.alterAt i a).afterWarnings ws := by
  cases a with
  | addConstraint fact => exact apply_afterWarnings ws b i fact
  | addColumn column facts =>
    simp only [alterAt]
    rw [addColumn_afterWarnings, applyAll_afterWarnings]
  | modifyColumn column => rfl
  | setDefault column value => exact onColumn_afterWarnings ws b i column "default" _
  | setNotNull column => rfl

theorem alter_afterWarnings (r : TableRef) (a : Alteration) :
    (b.afterWarnings ws).alter r a = (b.alter r a).afterWarnings ws :=
  resolved_afterWarnings ws b r (fun i b => alterAt_afterWarnings ws b i a)
    (fun b => warn_afterWarnings ws b _)

/-- What a declaration does to a schema, and what it has to say, does not depend on what was said
before. -/
theorem declare_afterWarnings (d : Declaration) :
    (b.afterWarnings ws).declare d = (b.declare d).afterWarnings ws := by
  cases d with
  | table t facts unread =>
    rw [declare_table, declare_table, addTable_afterWarnings]
    dsimp only
    rw [foldl_afterWarnings (f := warnUnread t.ref) ws _ (fun b _ => warn_afterWarnings ws b _),
      applyAll_afterWarnings]
  | index r index =>
    exact resolved_afterWarnings ws b r (fun i b => addIndex_afterWarnings ws b i index)
      (fun b => warn_afterWarnings ws b _)
  | alter r changes =>
    exact foldl_afterWarnings ws b (fun b a => alter_afterWarnings ws b r a) changes
  | type t => exact addType_afterWarnings ws b t
  | tableComment r comment =>
    exact resolved_afterWarnings ws b r (fun _ _ => rfl) (fun _ => rfl)
  | columnComment r column comment =>
    exact resolved_afterWarnings ws b r
      (fun i b => onColumn_afterWarnings ws b i column "comment" _) (fun _ => rfl)

end

end SchemaChart.Schema.Builder

namespace SchemaChart.Import

open Data (Arithmetic)
open Schema (Builder Declaration Writing)
open Schema.Writing (declaring)
open Script (Statement classify)
open Text

/-! ## Which statements fail -/

/-- Why a text comes to nothing, from an empty schema. -/
def stop? (s : Source) (text : List Char) : Option (Stop String) :=
  match Strategy.ofKind? (classify text) with
  | none => none
  | some σ =>
    match σ.take s (s.prepare text) { dialect := s.dialect } with
    | .ok _ _ => none
    | .error stop _ => some stop

/-- Why a text is refused, if it is. -/
def reason? (s : Source) (text : List Char) : Option String :=
  match stop? s text with
  | some (.refused message) => some message
  | _ => none

/-- How a statement breaks the import down, if it does: while it is read, or while it is told where
it failed. -/
def fault? (a : Arithmetic) (s : Source) (st : Statement) : Option Fault :=
  match stop? s st.text.toList with
  | some (.fault fault) => some fault
  | some (.refused message) =>
    match failureAt a st message with
    | .ok _ => none
    | .error fault => some fault
  | none => none

/-- The failure of a statement that is refused. -/
def failure? (a : Arithmetic) (s : Source) (st : Statement) : Option Failure :=
  (reason? s st.text.toList).bind fun message => (failureAt a st message).toOption

/-- What is said about a statement that is refused. -/
def skipWarning? (s : Source) (st : Statement) : Option String :=
  (reason? s st.text.toList).map (skipped st)

/-- Is a text a view without a list of columns whose query starts with `SELECT`, in capitals, but
has a character that reaches beyond its sixth byte. -/
def CutsCharacter (s : Source) (text : List Char) : Prop :=
  classify text = .createView ∧
  ∃ f, Reading.viewStatement.find? (s.prepare text) = some f ∧ f.group? "columns" = none ∧
    let query := trimStart ((trim (f.group "query")).dropWhile (· == '('))
    startsWith (upper query) "SELECT" = true ∧ splitBytes? 6 query = none

/-! ## Programs that fail before they write -/

theorem declaring_eq_error {d : Except (Stop ε) Declaration} {b b' : Builder} {stop : Stop ε}
    (h : declaring d b = .error stop b') : b' = b ∧ ∀ c, declaring d c = .error stop c := by
  rcases d with e | d
  · cases h
    exact ⟨rfl, fun _ => rfl⟩
  · cases h

/-- Each pass over a statement reads all of it before it writes. -/
theorem Strategy.pass_eq {kind : Script.Kind} {σ : Strategy} (h : ofKind? kind = some σ)
    {pass : Source → List Char → Writing String Unit}
    (hpass : pass = σ.tolerant ∨ σ.strict = some pass) (s : Source) (cs : List Char) :
    ∃ d, pass s cs = declaring d := by
  cases kind with
  | createTable =>
    obtain rfl := Option.some.inj h
    rcases hpass with rfl | hpass
    · exact ⟨_, Reading.table_eq s cs⟩
    · obtain rfl := Option.some.inj hpass
      exact ⟨_, strictTable_eq s cs⟩
  | createIndex =>
    obtain rfl := Option.some.inj h
    rcases hpass with rfl | hpass
    · exact ⟨_, Reading.index_eq cs⟩
    · obtain rfl := Option.some.inj hpass
      exact ⟨_, strictIndex_eq s cs⟩
  | alterTable =>
    obtain rfl := Option.some.inj h
    rcases hpass with rfl | hpass
    · exact ⟨_, Reading.alter_eq s cs⟩
    · cases hpass
  | createView =>
    obtain rfl := Option.some.inj h
    rcases hpass with rfl | hpass
    · exact ⟨_, Reading.view_eq s cs⟩
    · cases hpass
  | createType =>
    obtain rfl := Option.some.inj h
    rcases hpass with rfl | hpass
    · exact ⟨_, Reading.customType_eq cs⟩
    · cases hpass
  | commentOn =>
    obtain rfl := Option.some.inj h
    rcases hpass with rfl | hpass
    · exact ⟨_, Reading.comment_eq cs⟩
    · cases hpass
  | other => cases h

theorem Strategy.pass_eq_error {kind : Script.Kind} {σ : Strategy} (h : ofKind? kind = some σ)
    {pass : Source → List Char → Writing String Unit}
    (hpass : pass = σ.tolerant ∨ σ.strict = some pass) {s : Source} {cs : List Char}
    {b b' : Builder} {stop : Stop String} (hstop : pass s cs b = .error stop b') :
    b' = b ∧ ∀ c, pass s cs c = .error stop c := by
  obtain ⟨d, hd⟩ := pass_eq h hpass s cs
  rw [hd] at hstop ⊢
  exact declaring_eq_error hstop

/-- The tolerant reader starts from the schema that the grammar found, and the grammar tells why if
both refuse a text. -/
theorem Strategy.take_of_strict_refused {kind : Script.Kind}
    {strict tolerant : Source → List Char → Writing String Unit}
    (h : ofKind? kind = some ⟨some strict, tolerant⟩) {s : Source} {cs : List Char}
    {b b' : Builder} {e : String} (he : strict s cs b = .error (.refused e) b') :
    take ⟨some strict, tolerant⟩ s cs b =
      match tolerant s cs b with
      | .ok _ c => .ok () c
      | .error (.refused _) _ => .error (.refused e) b
      | .error (.fault fault) _ => .error (.fault fault) b := by
  obtain ⟨rfl, -⟩ := pass_eq_error h (.inr rfl) he
  unfold take
  dsimp only [Writing.onRefusal]
  rw [he]
  dsimp only
  rcases ht : tolerant s cs b' with ⟨_, c⟩ | ⟨e' | fault, c⟩
  · rfl
  · obtain ⟨rfl, -⟩ := pass_eq_error h (.inl rfl) ht
    rfl
  · obtain ⟨rfl, -⟩ := pass_eq_error h (.inl rfl) ht
    rfl

/-! ## What a statement comes to -/

theorem stop?_eq (s : Source) (text : List Char) :
    stop? s text =
      match declaration s (s.prepare text) (classify text) with
      | .ok _ => none
      | .error stop => some stop := by
  unfold stop?
  rcases hσ : Strategy.ofKind? (classify text) with _ | σ
  · rw [Strategy.ofKind?_eq_none hσ]
    rfl
  · obtain ⟨d, hd, htake⟩ := Strategy.take_eq hσ s (s.prepare text)
    rw [hd]
    dsimp only
    rw [htake]
    rcases d with stop | d
    · rfl
    · rfl

/-- From every schema a statement breaks down, is refused with its warning, or declares the same. -/
theorem dispatch_cases (a : Arithmetic) (s : Source) (st : Statement) :
    (∃ fault, fault? a s st = some fault ∧ ∀ b, dispatch a s st b = .error (.fault fault) b) ∨
    (∃ f, fault? a s st = none ∧ reason? s st.text.toList = some f.message ∧
      failureAt a st f.message = .ok f ∧
      ∀ b, dispatch a s st b = .error (.refused f) (b.warn (skipped st f.message))) ∨
    ∃ d : Option Declaration, fault? a s st = none ∧ reason? s st.text.toList = none ∧
      ∀ b, dispatch a s st b = .ok () (d.elim b b.declare) := by
  unfold fault? reason?
  simp only [stop?_eq, dispatch_eq, read]
  rcases declaration s (s.prepare st.text.toList) (classify st.text.toList) with
    (message | fault) | d
  · dsimp only
    rcases hf : failureAt a st message with fault | f
    · exact .inl ⟨fault, rfl, fun _ => rfl⟩
    · obtain rfl := failureAt_message hf
      exact .inr (.inl ⟨f, rfl, rfl, hf, fun _ => rfl⟩)
  · exact .inl ⟨fault, rfl, fun _ => rfl⟩
  · refine .inr (.inr ⟨d, rfl, rfl, fun b => ?_⟩)
    cases d with
    | none => rfl
    | some d => rfl

theorem reason?_eq_some {s : Source} {text : List Char} {message : String} :
    reason? s text = some message ↔
      declaration s (s.prepare text) (classify text) = .error (.refused message) := by
  unfold reason?
  rw [stop?_eq]
  rcases declaration s (s.prepare text) (classify text) with (message' | fault) | d
  · simp
  · simp
  · simp

theorem Progress.step_cases (a : Arithmetic) (s : Source) (st : Statement) :
    (∃ fault, fault? a s st = some fault ∧ ∀ p : Progress, p.step a s st = .error fault) ∨
    (∃ f, fault? a s st = none ∧ reason? s st.text.toList = some f.message ∧
      failureAt a st f.message = .ok f ∧ ∀ p : Progress, p.step a s st = .ok (p.fail st f)) ∨
    ∃ d : Option Declaration, fault? a s st = none ∧ reason? s st.text.toList = none ∧
      ∀ p : Progress,
        p.step a s st = .ok { p with builder := d.elim p.builder p.builder.declare } := by
  unfold step
  rcases dispatch_cases a s st with ⟨fault, hfault, h⟩ | ⟨f, hfault, hreason, hf, h⟩ |
    ⟨d, hfault, hreason, h⟩
  · exact .inl ⟨fault, hfault, fun p => by rw [h]⟩
  · exact .inr (.inl ⟨f, hfault, hreason, hf, fun p => by rw [h]; rfl⟩)
  · exact .inr (.inr ⟨d, hfault, hreason, fun p => by rw [h]⟩)

/-! ## How the import breaks down -/

theorem selection?_eq_error {query : List Char} {fault : Fault} :
    Reading.selection? query = .error fault ↔
      fault = .cutCharacter ∧
      let text := trimStart ((trim query).dropWhile (· == '('))
      startsWith (upper text) "SELECT" = true ∧ splitBytes? 6 text = none := by
  unfold Reading.selection?
  dsimp only
  generalize trimStart ((trim query).dropWhile (· == '(')) = text
  split
  · rename_i hselect
    rcases splitBytes? 6 text with _ | ⟨word, behind⟩
    · constructor
      · intro h
        exact ⟨(Except.error.inj h).symm, hselect, rfl⟩
      · rintro ⟨rfl, -⟩
        rfl
    · constructor
      · intro h
        cases h
      · rintro ⟨-, -, h⟩
        cases h
  · rename_i hselect
    constructor
    · intro h
      cases h
    · rintro ⟨-, h, -⟩
      exact absurd h hselect

theorem projectionNames_eq_error {query : List Char} {fault : Fault} :
    Reading.projectionNames query = .error fault ↔ Reading.selection? query = .error fault := by
  unfold Reading.projectionNames
  rcases Reading.selection? query with fault' | (_ | items)
  · simp [bind, Except.bind]
  · simp [bind, Except.bind, pure, Except.pure]
  · simp [bind, Except.bind, pure, Except.pure]

theorem viewDeclaration_eq_fault {s : Source} {cs : List Char} {fault : Fault} :
    Reading.viewDeclaration s cs = .error (.fault fault) ↔
      ∃ f, Reading.viewStatement.find? cs = some f ∧ f.group? "columns" = none ∧
        Reading.selection? (f.group "query") = .error fault := by
  unfold Reading.viewDeclaration Reading.viewNames
  rcases Reading.viewStatement.find? cs with _ | f
  · simp
  · rcases hcolumns : f.group? "columns" with _ | columns
    · simp only [Option.some.injEq, exists_eq_left', hcolumns, true_and, ← projectionNames_eq_error]
      rcases Reading.projectionNames (f.group "query") with fault' | names
      · simp
      · simp
    · simp [hcolumns]

/-- Only a view is ever read into the middle of a character. -/
theorem read_eq_fault {s : Source} {st : Statement} {fault : Fault} :
    read s st = .error (.fault fault) ↔
      fault = .cutCharacter ∧ CutsCharacter s st.text.toList := by
  have hview : some <$> Reading.viewDeclaration s (s.prepare st.text.toList) =
      .error (.fault fault) ↔ _ := map_eq_error.trans viewDeclaration_eq_fault
  simp only [selection?_eq_error] at hview
  unfold read CutsCharacter
  cases classify st.text.toList with
  | createView =>
    refine hview.trans ?_
    constructor
    · rintro ⟨f, hf, hcolumns, rfl, hselect, hcut⟩
      exact ⟨rfl, rfl, f, hf, hcolumns, hselect, hcut⟩
    · rintro ⟨rfl, -, f, hf, hcolumns, hselect, hcut⟩
      exact ⟨f, hf, hcolumns, rfl, hselect, hcut⟩
  | other => simp [declaration]
  | _ => simp [declaration, map_eq_error, mapError_ne_fault]

theorem reportedLine_checked (st : Statement) (n : Nat) :
    reportedLine .checked st (some n) =
      if n + st.line = 0 ∨ Nat.pow 2 64 ≤ n + st.line then .error .overflow
      else .ok (n + st.line - 1) := by
  unfold reportedLine Arithmetic.add
  dsimp only
  split
  · change Arithmetic.checked.sub (n + st.line) 1 = _
    unfold Arithmetic.sub
    split
    · rw [if_neg (by omega)]
    · rw [if_pos (by omega)]
      rfl
  · rw [if_pos (by omega)]
    rfl

/-- Where arithmetic wraps around, one less than zero is the greatest word. -/
theorem reportedLine_wrapping (st : Statement) (n : Nat) :
    reportedLine .wrapping st (some n) =
      .ok ((n + st.line + (Nat.pow 2 64 - 1)) % Nat.pow 2 64) := by
  have hword : Nat.pow 2 64 = 18446744073709551616 := rfl
  have hsub : ∀ sum, sum < Nat.pow 2 64 →
      Arithmetic.wrapping.sub sum 1 = .ok ((sum + (Nat.pow 2 64 - 1)) % Nat.pow 2 64) := by
    intro sum hsum
    unfold Arithmetic.sub Arithmetic.overflow
    rw [hword] at hsum ⊢
    split
    · exact congrArg Except.ok (by omega)
    · exact congrArg Except.ok (by omega)
  unfold reportedLine Arithmetic.add
  dsimp only
  split
  · rename_i hsum
    exact hsub _ hsum
  · change Arithmetic.wrapping.sub ((n + st.line) % Nat.pow 2 64) 1 = _
    rw [hsub _ (Nat.mod_lt _ (by decide)), Nat.mod_add_mod]

theorem reportedLine_eq_error {a : Arithmetic} {st : Statement} {told : Option Nat}
    {fault : Fault} :
    reportedLine a st told = .error fault ↔
      fault = .overflow ∧ a = .checked ∧
        ∃ n, told = some n ∧ (n + st.line = 0 ∨ Nat.pow 2 64 ≤ n + st.line) := by
  rcases told with _ | n
  · simp [reportedLine]
  · cases a with
    | wrapping => simp [reportedLine_wrapping]
    | checked =>
      rw [reportedLine_checked]
      split
      · rename_i hout
        constructor
        · intro h
          exact ⟨(Except.error.inj h).symm, rfl, n, rfl, hout⟩
        · rintro ⟨rfl, -⟩
          rfl
      · rename_i hout
        constructor
        · intro h
          cases h
        · rintro ⟨-, -, m, hm, hout'⟩
          obtain rfl := Option.some.inj hm
          exact absurd hout' hout

theorem failureAt_eq_error {a : Arithmetic} {st : Statement} {message : String} {fault : Fault} :
    failureAt a st message = .error fault ↔
      reportedLine a st (numberBehind? "Line: " message.toList) = .error fault := by
  unfold failureAt errorPosition
  dsimp only
  rcases reportedLine a st (numberBehind? "Line: " message.toList) with fault' | line
  · simp [bind, Except.bind]
  · simp [bind, Except.bind, pure, Except.pure]

/-- A statement breaks the import down while it is read, or while it is told where it failed. -/
theorem fault?_iff {a : Arithmetic} {s : Source} {st : Statement} {fault : Fault} :
    fault? a s st = some fault ↔
      read s st = .error (.fault fault) ∨
        ∃ message, reason? s st.text.toList = some message ∧
          failureAt a st message = .error fault := by
  unfold fault? reason?
  rw [stop?_eq, ← read]
  rcases read s st with (message | fault') | d
  · dsimp only
    rcases hf : failureAt a st message with fault' | f
    · simp [hf]
    · simp [hf]
  · simp
  · simp

/-- An import breaks down over a view that is cut inside a character, or, where arithmetic is
checked, over a line that is no machine word. -/
theorem fault?_eq_some {a : Arithmetic} {s : Source} {st : Statement} {fault : Fault} :
    fault? a s st = some fault ↔
      (fault = .cutCharacter ∧ CutsCharacter s st.text.toList) ∨
      (fault = .overflow ∧ a = .checked ∧
        ∃ message n, reason? s st.text.toList = some message ∧
          numberBehind? "Line: " message.toList = some n ∧
          (n + st.line = 0 ∨ Nat.pow 2 64 ≤ n + st.line)) := by
  rw [fault?_iff, read_eq_fault]
  refine or_congr Iff.rfl ?_
  constructor
  · rintro ⟨message, hreason, hf⟩
    obtain ⟨rfl, ha, n, hn, hout⟩ := reportedLine_eq_error.mp (failureAt_eq_error.mp hf)
    exact ⟨rfl, ha, message, n, hreason, hn, hout⟩
  · rintro ⟨rfl, ha, message, n, hreason, hn, hout⟩
    have hline := reportedLine_eq_error.mpr ⟨rfl, ha, n, hn, hout⟩
    exact ⟨message, hreason, failureAt_eq_error.mpr hline⟩

/-! ## Two runs side by side -/

/-- A list that has the items of two others, those of each in their order. -/
inductive Woven : List α → List α → List α → Prop
  | nil : Woven [] [] []
  | left {xs ys zs : List α} (x : α) : Woven xs ys zs → Woven (x :: xs) ys (x :: zs)
  | right {xs ys zs : List α} (y : α) : Woven xs ys zs → Woven xs (y :: ys) (y :: zs)

theorem Woven.append_left {xs ys zs : List α} (h : Woven xs ys zs) (more : List α) :
    Woven (xs ++ more) ys (zs ++ more) := by
  induction h with
  | nil =>
    induction more with
    | nil => exact .nil
    | cons x xs ih => exact .left x ih
  | left x _ ih => exact .left x ih
  | right y _ ih => exact .right y ih

theorem Woven.append_right {xs ys zs : List α} (h : Woven xs ys zs) (y : α) :
    Woven xs (ys ++ [y]) (zs ++ [y]) := by
  induction h with
  | nil => exact .right y .nil
  | left x _ ih => exact .left x ih
  | right y _ ih => exact .right y ih

/-- Two schemas under construction that are the same but for warnings: the first has those of the
second, and `skips` among them. -/
structure Beside (b b' : Builder) (skips : List String) : Prop where
  same : { b with warnings := b'.warnings } = b'
  woven : Woven b'.warnings skips b.warnings

theorem Beside.declare {b b' : Builder} {skips : List String} (h : Beside b b' skips)
    (d : Declaration) : Beside (b.declare d) (b'.declare d) skips := by
  obtain ⟨hsame, hwoven⟩ := h
  have hb : b = Builder.afterWarnings b.warnings { b' with warnings := [] } := by
    rw [← hsame]
    simp [Builder.afterWarnings]
  have hb' : b' = Builder.afterWarnings b'.warnings { b' with warnings := [] } := by
    simp [Builder.afterWarnings]
  rw [hb, hb', Builder.declare_afterWarnings, Builder.declare_afterWarnings]
  exact ⟨rfl, hwoven.append_left _⟩

theorem Beside.skip {b b' : Builder} {skips : List String} (h : Beside b b' skips)
    (message : String) : Beside (b.warn message) b' (skips ++ [message]) :=
  ⟨h.same, h.woven.append_right message⟩

/-- The first statement that breaks the import down ends a run. -/
theorem Progress.run_of_fault {a : Arithmetic} {s : Source} {sts : List Statement} {fault : Fault}
    (h : sts.findSome? (fault? a s) = some fault) (p : Progress) :
    p.run a s sts = .error fault := by
  induction sts generalizing p with
  | nil => cases h
  | cons st sts ih =>
    rw [List.findSome?_cons] at h
    rw [run_cons]
    rcases step_cases a s st with ⟨fault', hf, hstep⟩ | ⟨f, hf, -, -, hstep⟩ | ⟨d, hf, -, hstep⟩
    · rw [hf] at h
      rw [hstep, Option.some.inj h]
      rfl
    · rw [hf] at h
      rw [hstep]
      exact ih h _
    · rw [hf] at h
      rw [hstep]
      exact ih h _

theorem beside_start (s : Source) :
    Beside (Progress.start s).builder (Progress.start s).builder [] := ⟨rfl, .nil⟩

/-- Statements that are refused make no difference but for their warnings and failures. -/
theorem beside_run {a : Arithmetic} {s : Source} {sts : List Statement} {p q : Progress}
    {skips : List String} (hsafe : sts.findSome? (fault? a s) = none)
    (h : Beside p.builder q.builder skips) :
    ∃ p' q', p.run a s sts = .ok p' ∧
      q.run a s (sts.filter fun st => (reason? s st.text.toList).isNone) = .ok q' ∧
      Beside p'.builder q'.builder (skips ++ sts.filterMap (skipWarning? s)) ∧
      p'.failures = p.failures ++ sts.filterMap (failure? a s) ∧ q'.failures = q.failures := by
  induction sts generalizing p q skips with
  | nil => exact ⟨p, q, rfl, rfl, by simpa using h, by simp, rfl⟩
  | cons st sts ih =>
    rw [List.findSome?_cons] at hsafe
    rw [Progress.run_cons]
    rcases Progress.step_cases a s st with ⟨fault, hf, -⟩ | ⟨f, hf, hr, hm, hstep⟩ |
      ⟨d, hf, hr, hstep⟩
    · rw [hf] at hsafe
      cases hsafe
    · rw [hf] at hsafe
      obtain ⟨p', q', hp, hq, hbeside, hfailures, hnone⟩ :=
        ih hsafe (p := p.fail st f) (h.skip (skipped st f.message))
      have hskip : skipWarning? s st = some (skipped st f.message) := by
        rw [skipWarning?, hr, Option.map_some]
      have hfail : failure? a s st = some f := by
        rw [failure?, hr, Option.bind_some, hm]
        rfl
      refine ⟨p', q', by rw [hstep]; exact hp, ?_, ?_, ?_, hnone⟩
      · rwa [List.filter_cons_of_neg (by simp [hr])]
      · rwa [List.filterMap_cons_some hskip, List.append_cons]
      · rwa [List.filterMap_cons_some hfail, List.append_cons]
    · rw [hf] at hsafe
      have hbeside : Beside (d.elim p.builder p.builder.declare)
          (d.elim q.builder q.builder.declare) skips := by
        cases d with
        | none => exact h
        | some d => exact h.declare d
      obtain ⟨p', q', hp, hq, hbeside, hfailures, hnone⟩ :=
        ih hsafe (p := { p with builder := d.elim p.builder p.builder.declare })
          (q := { q with builder := d.elim q.builder q.builder.declare }) hbeside
      have hskip : skipWarning? s st = none := by
        rw [skipWarning?, hr, Option.map_none]
      have hfail : failure? a s st = none := by
        rw [failure?, hr, Option.bind_none]
      refine ⟨p', q', by rw [hstep]; exact hp, ?_, ?_, ?_, hnone⟩
      · rw [List.filter_cons_of_pos (by simp [hr]), Progress.run_cons, hstep]
        exact hq
      · rwa [List.filterMap_cons_none hskip]
      · rwa [List.filterMap_cons_none hfail]

/-- The failures of a run are those of the statements that are refused, in their order. -/
theorem Progress.run_failures {a : Arithmetic} {s : Source} {sts : List Statement} {p : Progress}
    (h : (start s).run a s sts = .ok p) :
    sts.findSome? (fault? a s) = none ∧ p.failures = sts.filterMap (failure? a s) := by
  rcases hsafe : sts.findSome? (fault? a s) with _ | fault
  · obtain ⟨p', -, hp', -, -, hfailures, -⟩ := beside_run hsafe (beside_start s)
    obtain rfl := Except.ok.inj (hp'.symm.trans h)
    exact ⟨rfl, hfailures⟩
  · rw [run_of_fault hsafe] at h
    cases h

/-- A statement that fails leaves no trace but its warning, unless it breaks the import down. Each
pass over a statement fails before it writes, and after a refusal by the grammar the tolerant reader
starts from the same schema. Whether a statement is refused is a matter of its text alone. An import
breaks down over the first view that is cut inside a character, or, where arithmetic is checked, the
first statement whose line is no machine word; if there is none, the schema of a script is that of
the script without the statements that are refused, and there is one warning for each of these. -/
theorem failed_statements_leave_only_warnings (s : Source) :
    (∀ kind σ pass, Strategy.ofKind? kind = some σ → pass = σ.tolerant ∨ σ.strict = some pass →
      ∀ cs b stop b', pass s cs b = .error stop b' →
        b' = b ∧ ∀ c, pass s cs c = .error stop c) ∧
    (∀ kind strict tolerant, Strategy.ofKind? kind = some ⟨some strict, tolerant⟩ →
      ∀ cs b e b', strict s cs b = .error (.refused e) b' →
        Strategy.take ⟨some strict, tolerant⟩ s cs b =
          match tolerant s cs b with
          | .ok _ c => .ok () c
          | .error (.refused _) _ => .error (.refused e) b
          | .error (.fault fault) _ => .error (.fault fault) b) ∧
    (∀ a st fault, fault? a s st = some fault →
      ∀ b, dispatch a s st b = .error (.fault fault) b) ∧
    (∀ a st message, fault? a s st = none → reason? s st.text.toList = some message →
      ∃ f, f.message = message ∧
        ∀ b, dispatch a s st b = .error (.refused f) (b.warn (skipped st message))) ∧
    (∀ a st, fault? a s st = none → reason? s st.text.toList = none →
      ∀ b, ∃ b', dispatch a s st b = .ok () b') ∧
    (∀ a st, fault? a s st = some .cutCharacter ↔ CutsCharacter s st.text.toList) ∧
    (∀ a st, fault? a s st = some .overflow ↔ a = .checked ∧
      ∃ message n, reason? s st.text.toList = some message ∧
        numberBehind? "Line: " message.toList = some n ∧
        (n + st.line = 0 ∨ Nat.pow 2 64 ≤ n + st.line)) ∧
    (∀ a sts fault, sts.findSome? (fault? a s) = some fault →
      (Progress.start s).run a s sts = .error fault) ∧
    ∀ a sts, sts.findSome? (fault? a s) = none →
      ∃ whole rest, (Progress.start s).run a s sts = .ok whole ∧
        (Progress.start s).run a s (sts.filter fun st => (reason? s st.text.toList).isNone) =
          .ok rest ∧
        whole.builder.tables = rest.builder.tables ∧ whole.builder.types = rest.builder.types ∧
        whole.builder.pending = rest.builder.pending ∧
        Woven rest.builder.warnings (sts.filterMap (skipWarning? s)) whole.builder.warnings ∧
        whole.failures = sts.filterMap (failure? a s) ∧ rest.failures = [] := by
  refine ⟨fun _ _ _ hσ hpass _ _ _ _ h => Strategy.pass_eq_error hσ hpass h,
    fun _ _ _ hσ _ _ _ _ h => Strategy.take_of_strict_refused hσ h, fun a st fault hfault => ?_,
    fun a st message hfault hreason => ?_, fun a st hfault hreason => ?_, fun a st => ?_,
    fun a st => ?_, fun a sts fault h => Progress.run_of_fault h _, fun a sts hsafe => ?_⟩
  · rcases dispatch_cases a s st with ⟨fault', hf, h⟩ | ⟨f, hf, -⟩ | ⟨d, hf, -⟩
    · obtain rfl := Option.some.inj (hf.symm.trans hfault)
      exact h
    · simp [hf] at hfault
    · simp [hf] at hfault
  · rcases dispatch_cases a s st with ⟨fault', hf, -⟩ | ⟨f, -, hr, -, h⟩ | ⟨d, -, hr, -⟩
    · simp [hf] at hfault
    · obtain rfl := Option.some.inj (hr.symm.trans hreason)
      exact ⟨f, rfl, h⟩
    · simp [hr] at hreason
  · rcases dispatch_cases a s st with ⟨fault', hf, -⟩ | ⟨f, -, hr, -⟩ | ⟨d, -, -, h⟩
    · simp [hf] at hfault
    · simp [hr] at hreason
    · exact fun b => ⟨_, h b⟩
  · rw [fault?_eq_some]
    simp
  · rw [fault?_eq_some]
    simp
  · obtain ⟨whole, rest, hwhole, hrest, ⟨hsame, hwoven⟩, hfailures, hnone⟩ :=
      beside_run hsafe (beside_start s)
    have htables := congrArg Builder.tables hsame
    have htypes := congrArg Builder.types hsame
    have hpending := congrArg Builder.pending hsame
    exact ⟨whole, rest, hwhole, hrest, htables, htypes, hpending, hwoven, hfailures, hnone⟩

/-- A comment on nothing is skipped, between a table that the grammar refuses for its two commas and
the same table once more. A view whose `SELECT` ends in a letter of three bytes ends the import. -/
theorem a_comment_on_nothing_is_skipped :
    let twice : Statement := ⟨"CREATE TABLE t (a int,, b int)", 1⟩
    let broken : Statement := ⟨"COMMENT ON t", 2⟩
    let cut : Statement := ⟨"CREATE VIEW v AS SELECẗ a FROM t", 3⟩
    (∃ e, ∀ b, strictTable .mysql twice.text.toList b = .error (.refused e) b ∧
      Strategy.take ⟨some strictTable, Reading.table⟩ .mysql twice.text.toList b =
        Reading.table .mysql twice.text.toList b) ∧
    (∃ whole rest, (Progress.start .mysql).run .checked .mysql [twice, broken, twice] = .ok whole ∧
      (Progress.start .mysql).run .checked .mysql [twice, twice] = .ok rest ∧
      whole.builder.tables = rest.builder.tables ∧
      whole.failures = [⟨"unsupported COMMENT ON form", some 2, none⟩] ∧
      Woven rest.builder.warnings ["Skipped statement at line 2: unsupported COMMENT ON form"]
        whole.builder.warnings) ∧
    ∀ a, (Progress.start .mysql).run a .mysql [twice, broken, cut] = .error .cutCharacter := by
  intro twice broken cut
  obtain ⟨-, htwo, -, -, -, -, -, hfault, hrun⟩ := failed_statements_leave_only_warnings .mysql
  have htwice : stop? .mysql twice.text.toList = none := by decide +kernel
  have hbroken : stop? .mysql broken.text.toList =
      some (.refused "unsupported COMMENT ON form") := by decide +kernel
  have hcut : stop? .mysql cut.text.toList = some (.fault .cutCharacter) := by decide +kernel
  have hplace : ∀ a, failureAt a broken "unsupported COMMENT ON form" =
      .ok ⟨"unsupported COMMENT ON form", some 2, none⟩ := by
    intro a
    have hline : errorPosition "unsupported COMMENT ON form".toList = (none, none) := by
      decide +kernel
    unfold failureAt
    rw [hline]
    rfl
  refine ⟨?_, ?_, fun a => ?_⟩
  · have hrefused : (strictTableDeclaration .mysql twice.text.toList).isOk = false := by
      decide +kernel
    have hread : (Reading.tableDeclaration .mysql twice.text.toList).isOk = true := by
      decide +kernel
    obtain ⟨e, he⟩ : ∃ e, strictTableDeclaration .mysql twice.text.toList = .error e := by
      rcases h : strictTableDeclaration .mysql twice.text.toList with e | d
      · exact ⟨e, rfl⟩
      · rw [h] at hrefused
        cases hrefused
    obtain ⟨d, hd⟩ : ∃ d, Reading.tableDeclaration .mysql twice.text.toList = .ok d := by
      rcases h : Reading.tableDeclaration .mysql twice.text.toList with e | d
      · rw [h] at hread
        cases hread
      · exact ⟨d, rfl⟩
    have hstrict : ∀ b, strictTable .mysql twice.text.toList b = .error (.refused e) b := by
      intro b
      rw [strictTable_eq, he]
      rfl
    refine ⟨e, fun b => ⟨hstrict b, ?_⟩⟩
    rw [htwo .createTable _ _ rfl _ _ _ _ (hstrict b), Reading.table_eq, hd]
    rfl
  · have hsafe : [twice, broken, twice].findSome? (fault? .checked .mysql) = none := by
      simp [fault?, htwice, hbroken, hplace]
    obtain ⟨whole, rest, hwhole, hrest, htables, -, -, hwoven, hfail, -⟩ := hrun .checked _ hsafe
    have hskip : skipped broken "unsupported COMMENT ON form" =
        "Skipped statement at line 2: unsupported COMMENT ON form" := by decide +kernel
    simp only [List.filter, reason?, htwice, hbroken, Option.isNone_none,
      Option.isNone_some] at hrest
    simp only [List.filterMap, skipWarning?, reason?, htwice, hbroken, Option.map, hskip] at hwoven
    simp only [List.filterMap, failure?, reason?, htwice, hbroken, Option.bind, hplace,
      Except.toOption] at hfail
    exact ⟨whole, rest, hwhole, hrest, htables, hfail, hwoven⟩
  · refine hfault a _ _ ?_
    simp [fault?, htwice, hbroken, hplace, hcut]

end SchemaChart.Import
