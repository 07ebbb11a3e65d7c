-- What the statements of a script declare. Every program that takes in a statement reads all of it
-- before it writes: it is refused, or breaks down, with nothing written, or it takes one
-- declaration into the schema.
import SchemaChart.Import.Run

namespace SchemaChart.Schema

/-! ## Declarations -/

/-- What a statement declares. -/
inductive Declaration where
  /-- A table, the facts about it, and the elements that could not be read. -/
  | table (table : Table) (facts : List Fact) (unread : List String)
  | index (table : TableRef) (index : Index)
  | alter (table : TableRef) (changes : List Alteration)
  | type (type : CustomType)
  | tableComment (table : TableRef) (comment : Option String)
  | columnComment (table : TableRef) (column : String) (comment : Option String)
deriving Repr, DecidableEq

namespace Builder

/-- Takes a declaration into the schema. -/
def declare (b : Builder) : Declaration → Builder
  | .table t facts unread =>
    let (i, b) := b.addTable t
    (unread.foldl (warnUnread t.ref) b).applyAll i facts
  | .index r index => b.addIndexTo r index
  | .alter r changes => changes.foldl (fun b a => b.alter r a) b
  | .type t => b.addType t
  | .tableComment r comment =>
    match b.resolve r with
    | (some i, b) => b.setTableComment i comment
    | (none, b) => b
  | .columnComment r column comment =>
    match b.resolve r with
    | (some i, b) => b.setColumnComment i column comment
    | (none, b) => b

/-- What the declaration of a table does, step by step. -/
theorem declare_table (b : Builder) (t : Table) (facts : List Fact) (unread : List String) :
    b.declare (.table t facts unread) =
      (unread.foldl (warnUnread t.ref) (b.addTable t).2).applyAll (b.addTable t).1 facts := rfl

end Builder

namespace Writing

/-- The program that takes in what was read. -/
def declaring (d : Except (Stop ε) Declaration) : Writing ε Unit := fun b =>
  match d with
  | .ok d => .ok () (b.declare d)
  | .error stop => .error stop b

theorem declaring_ok {x : Except ε Declaration} {d : Declaration} (h : x = .ok d) (b : Builder) :
    declaring (x.mapError .refused) b = .ok () (b.declare d) := by
  rw [h]
  rfl

section

variable (b : Builder)

theorem bind_apply (w : Writing ε α) (next : α → Writing ε β) :
    (w >>= next) b =
      match w b with
      | .ok a b => next a b
      | .error stop b => .error stop b := by
  change EStateM.bind w next b = _
  unfold EStateM.bind
  cases w b with
  | ok a b => rfl
  | error stop b => rfl

theorem addTable_bind (t : Table) (next : Nat → Writing ε α) :
    (addTable t >>= next) b = next (b.addTable t).1 (b.addTable t).2 := rfl

/-- A program that writes into the table that a reference means, if there is one. -/
theorem resolve_modify (r : TableRef) (f : Nat → Builder → Builder) :
    (do if let some i ← resolve r then modify (f i) : Writing ε Unit) b =
      .ok () (match b.resolve r with
        | (some i, b) => f i b
        | (none, b) => b) := by
  rw [bind_apply]
  dsimp only [resolve, modifyGet, MonadStateOf.modifyGet, EStateM.modifyGet]
  rcases b.resolve r with ⟨_ | i, b⟩
  · rfl
  · rfl

/-- A program that writes once for each item of a list. -/
theorem forIn_modify (xs : List α) (f : α → Builder → Builder) :
    (forIn xs PUnit.unit fun x _ => do
      modify (f x)
      pure (ForInStep.yield PUnit.unit) : Writing ε PUnit) b =
      .ok () (xs.foldl (fun b x => f x b) b) := by
  induction xs generalizing b with
  | nil => rfl
  | cons x xs ih =>
    rw [List.forIn_cons]
    exact ih (f x b)

end

end Writing

end SchemaChart.Schema

namespace SchemaChart

/-! ## Results that are mapped and chained -/

theorem map_eq_ok {f : α → β} {x : Except ε α} {y : β} (h : f <$> x = .ok y) :
    ∃ a, x = .ok a ∧ f a = y := by
  rcases x with e | a
  · cases h
  · exact ⟨a, rfl, Except.ok.inj h⟩

theorem map_eq_error {f : α → β} {x : Except ε α} {e : ε} : f <$> x = .error e ↔ x = .error e := by
  rcases x with e' | a
  · simp [Functor.map, Except.map]
  · simp [Functor.map, Except.map]

theorem bind_eq_ok {x : Except ε α} {next : α → Except ε β} {y : β} (h : x >>= next = .ok y) :
    ∃ a, x = .ok a ∧ next a = .ok y := by
  rcases x with e | a
  · cases h
  · exact ⟨a, rfl, h⟩

theorem eq_ok_of_toOption {x : Except ε α} {a : α} (h : x.toOption = some a) : x = .ok a := by
  rcases x with e | b
  · cases h
  · exact congrArg Except.ok (Option.some.inj h)

theorem mapError_eq_refused {x : Except ε α} {e : ε}
    (h : x.mapError Stop.refused = .error (.refused e)) : x = .error e := by
  rcases x with e' | a
  · exact congrArg Except.error (Stop.refused.inj (Except.error.inj h))
  · cases h

theorem mapError_ne_fault {x : Except ε α} {fault : Fault} :
    x.mapError Stop.refused ≠ .error (.fault fault) := by
  intro h
  rcases x with e | a
  · cases Except.error.inj h
  · cases h

theorem mapError_eq_ok {f : ε → δ} {x : Except ε α} {y : α} (h : x.mapError f = .ok y) :
    x = .ok y := by
  rcases x with e | a
  · cases h
  · exact congrArg Except.ok (Except.ok.inj h)

end SchemaChart

namespace SchemaChart.Reading

open Text
open Schema (Declaration Table TableRef Writing)
open Schema.Writing (addTable_bind bind_apply declaring forIn_modify resolve_modify)

/-! ## What the tolerant readers declare -/

def tableDeclaration (s : Source) (cs : List Char) : Except String Declaration :=
  match tableHead.find? cs with
  | none => .error "unrecognized CREATE TABLE syntax"
  | some f =>
    let r := TableRef.parse (f.group "name")
    match splitGroup? f.after with
    | none => .error ("unbalanced parentheses in CREATE TABLE " ++ r.display)
    | some (inside, after) =>
      let e := (splitTopLevel ',' inside).foldl (Elements.add s) {}
      if e.columns.isEmpty then .error ("no columns found in CREATE TABLE " ++ r.display)
      else
        let t : Table :=
          { name := r.name, schema := r.schema, columns := e.columns,
            comment := tableComment? after }
        .ok (.table t e.facts e.unread)

theorem table_eq (s : Source) (cs : List Char) :
    table s cs = declaring ((tableDeclaration s cs).mapError .refused) := by
  funext b
  unfold table tableDeclaration
  rcases tableHead.find? cs with _ | f
  · rfl
  · dsimp only
    rcases splitGroup? f.after with _ | ⟨inside, after⟩
    · rfl
    · dsimp only
      split
      · rfl
      · -- the table, then a warning for each element that is not read, then the facts
        rw [addTable_bind, bind_apply, forIn_modify]
        dsimp only
        rw [bind_apply, forIn_modify]
        rfl

def indexDeclaration (cs : List Char) : Except String Declaration :=
  (fun (r, i) => .index r i) <$> createIndex cs

theorem index_eq (cs : List Char) :
    index cs = declaring ((indexDeclaration cs).mapError .refused) := by
  unfold index indexDeclaration
  rcases createIndex cs with e | ⟨r, i⟩
  · rfl
  · rfl

def alterDeclaration (s : Source) (cs : List Char) : Except String Declaration :=
  (fun (r, changes) => .alter r changes) <$> alterTable s cs

theorem alter_eq (s : Source) (cs : List Char) :
    alter s cs = declaring ((alterDeclaration s cs).mapError .refused) := by
  funext b
  unfold alter alterDeclaration
  rcases alterTable s cs with e | ⟨r, changes⟩
  · rfl
  · change (forIn changes PUnit.unit _ >>= fun _ => pure () : Writing String Unit) b = _
    rw [bind_apply, forIn_modify]
    rfl

def typeDeclaration (cs : List Char) : Except String Declaration :=
  match typeHead.find? cs with
  | none => .error "unsupported CREATE TYPE form"
  | some f =>
    match splitGroup? f.after with
    | none => .error "unbalanced parentheses in CREATE TYPE"
    | some (inside, _) => .ok (.type (typeOf f inside))

theorem customType_eq (cs : List Char) :
    customType cs = declaring ((typeDeclaration cs).mapError .refused) := by
  unfold customType typeDeclaration
  rcases typeHead.find? cs with _ | f
  · rfl
  · dsimp only
    rcases splitGroup? f.after with _ | ⟨inside, after⟩
    · rfl
    · rfl

def commentDeclaration (cs : List Char) : Except String Declaration :=
  match commentStatement.find? cs with
  | none => .error "unsupported COMMENT ON form"
  | some f =>
    let target := f.group "target"
    let text := (unquoteLiteral? (f.group "value")).map String.ofList
    if upper (f.group "kind") == "TABLE".toList then
      .ok (.tableComment (TableRef.parse target) text)
    else
      match (splitQualified target).reverse with
      | [] => .error "COMMENT ON COLUMN without column"
      | [_] => .error "COMMENT ON COLUMN without table"
      | column :: table :: outer =>
        .ok (.columnComment ⟨String.ofList table, outer.head?.map String.ofList⟩
          (String.ofList column) text)

theorem comment_eq (cs : List Char) :
    comment cs = declaring ((commentDeclaration cs).mapError .refused) := by
  funext b
  unfold comment commentDeclaration
  rcases commentStatement.find? cs with _ | f
  · rfl
  · dsimp only
    split
    · exact resolve_modify b _ _
    · rcases (splitQualified (f.group "target")).reverse with _ | ⟨column, _ | ⟨table, outer⟩⟩
      · rfl
      · rfl
      · exact resolve_modify b _ _

def viewDeclaration (s : Source) (cs : List Char) : Except (Stop String) Declaration :=
  match viewStatement.find? cs with
  | none => .error (.refused "unrecognized CREATE VIEW syntax")
  | some f =>
    match viewNames f with
    | .error fault => .error (.fault fault)
    | .ok names => .ok (.table (viewOf s f names) [] [])

theorem view_eq (s : Source) (cs : List Char) : view s cs = declaring (viewDeclaration s cs) := by
  unfold view viewDeclaration
  rcases viewStatement.find? cs with _ | f
  · rfl
  · dsimp only
    rcases viewNames f with fault | names
    · rfl
    · rfl

end SchemaChart.Reading

namespace SchemaChart.Import

open Text
open Data (Arithmetic)
open Schema (Builder Declaration TableRef Writing)
open Schema.Writing (addTable_bind bind_apply declaring forIn_modify refuse)
open Script (Statement classify)

/-! ## What the strict grammar declares -/

def strictTableDeclaration (s : Source) (cs : List Char) : Except String Declaration :=
  match oneStatement s cs with
  | .error e => .error e
  | .ok (.table d) =>
    if d.columns.isEmpty then
      .error (refusal ("CREATE TABLE " ++ d.name ++ " declares no columns"))
    else .ok (.table (tableOf d cs) (factsOf d) [])
  | .ok _ => .error (refusal "statement is not a CREATE TABLE")

theorem strictTable_eq (s : Source) (cs : List Char) :
    strictTable s cs = declaring ((strictTableDeclaration s cs).mapError .refused) := by
  funext b
  unfold strictTable strictTableDeclaration
  rcases oneStatement s cs with e | (d | d | _)
  · rfl
  · change (if d.columns.isEmpty = true then _ else _ : Writing String Unit) b = _
    dsimp only
    split
    · rfl
    · rw [addTable_bind, bind_apply, forIn_modify]
      rfl
  · rfl
  · rfl

def strictIndexDeclaration (s : Source) (cs : List Char) : Except String Declaration :=
  match oneStatement s cs with
  | .error e => .error e
  | .ok (.index d) =>
    match indexColumns d.keys with
    | .error e =>
      .error (refusal ("expression index on " ++ d.table ++ " (" ++ e ++ ") is not supported"))
    | .ok columns => .ok (.index (TableRef.parse d.table.toList) (indexOf d columns))
  | .ok _ => .error (refusal "statement is not a CREATE INDEX")

theorem strictIndex_eq (s : Source) (cs : List Char) :
    strictIndex s cs = declaring ((strictIndexDeclaration s cs).mapError .refused) := by
  funext b
  unfold strictIndex strictIndexDeclaration
  rcases oneStatement s cs with e | (d | d | _)
  · rfl
  · rfl
  · change (match indexColumns d.keys with
      | .error e => _
      | .ok columns => _ : Writing String Unit) b = _
    dsimp only
    rcases indexColumns d.keys with e | columns
    · rfl
    · rfl
  · rfl

/-! ## One statement -/

/-- What the strict grammar reads, and else what the tolerant reader does. If both refuse a text,
the grammar tells why. -/
def strictFirst (strict tolerant : Except String Declaration) : Except String Declaration :=
  match strict with
  | .ok d => .ok d
  | .error e =>
    match tolerant with
    | .ok d => .ok d
    | .error _ => .error e

/-- What a prepared statement of a kind declares. -/
def declaration (s : Source) (cs : List Char) :
    Script.Kind → Except (Stop String) (Option Declaration)
  | .createTable =>
    some <$> (strictFirst (strictTableDeclaration s cs) (Reading.tableDeclaration s cs)).mapError
      .refused
  | .createIndex =>
    some <$> (strictFirst (strictIndexDeclaration s cs) (Reading.indexDeclaration cs)).mapError
      .refused
  | .alterTable => some <$> (Reading.alterDeclaration s cs).mapError .refused
  | .createView => some <$> Reading.viewDeclaration s cs
  | .createType => some <$> (Reading.typeDeclaration cs).mapError .refused
  | .commentOn => some <$> (Reading.commentDeclaration cs).mapError .refused
  | .other => .ok none

/-- What a statement of a script declares, if anything. -/
def read (s : Source) (st : Statement) : Except (Stop String) (Option Declaration) :=
  declaration s (s.prepare st.text.toList) (classify st.text.toList)

theorem strictFirst_eq_ok {strict tolerant : Except String Declaration} {d : Declaration}
    (h : strictFirst strict tolerant = .ok d) : strict = .ok d ∨ tolerant = .ok d := by
  unfold strictFirst at h
  split at h
  · exact Or.inl h
  · split at h
    · exact Or.inr h
    · cases h

theorem strictFirst_eq_error {e e' : String} {tolerant : Except String Declaration}
    (h : strictFirst (.error e) tolerant = .error e') : e' = e := by
  rcases tolerant with _ | d
  · exact (Except.error.inj h).symm
  · cases h

theorem strictFirst_eq (strict tolerant : Except String Declaration) :
    (declaring (strict.mapError .refused)).onRefusal (fun e =>
        (declaring (tolerant.mapError .refused)).onRefusal fun _ => refuse e) =
      declaring ((strictFirst strict tolerant).mapError .refused) := by
  funext b
  rcases strict with e | d
  · rcases tolerant with e' | d'
    · rfl
    · rfl
  · rfl

theorem Strategy.ofKind?_eq_none {kind : Script.Kind} (h : ofKind? kind = none) :
    kind = .other := by
  cases kind with
  | other => rfl
  | _ => cases h

/-- A strategy takes in what the statement declares. -/
theorem Strategy.take_eq {kind : Script.Kind} {σ : Strategy} (h : ofKind? kind = some σ)
    (s : Source) (cs : List Char) :
    ∃ d, declaration s cs kind = some <$> d ∧ σ.take s cs = declaring d := by
  cases kind with
  | createTable =>
    obtain rfl := Option.some.inj h
    refine ⟨_, rfl, ?_⟩
    rw [← strictFirst_eq, ← strictTable_eq, ← Reading.table_eq]
    rfl
  | createIndex =>
    obtain rfl := Option.some.inj h
    refine ⟨_, rfl, ?_⟩
    rw [← strictFirst_eq, ← strictIndex_eq, ← Reading.index_eq]
    rfl
  | alterTable =>
    obtain rfl := Option.some.inj h
    exact ⟨_, rfl, Reading.alter_eq s cs⟩
  | createView =>
    obtain rfl := Option.some.inj h
    exact ⟨_, rfl, Reading.view_eq s cs⟩
  | createType =>
    obtain rfl := Option.some.inj h
    exact ⟨_, rfl, Reading.customType_eq cs⟩
  | commentOn =>
    obtain rfl := Option.some.inj h
    exact ⟨_, rfl, Reading.comment_eq cs⟩
  | other => cases h

/-- What a statement comes to. Where it is refused, the warning is all that is written. -/
theorem dispatch_eq (a : Arithmetic) (s : Source) (st : Statement) (b : Builder) :
    dispatch a s st b =
      match read s st with
      | .ok none => .ok () b
      | .ok (some d) => .ok () (b.declare d)
      | .error (.refused message) =>
        match failureAt a st message with
        | .ok failure => .error (.refused failure) (b.warn (skipped st failure.message))
        | .error fault => .error (.fault fault) b
      | .error (.fault fault) => .error (.fault fault) b := by
  unfold dispatch read
  rcases hσ : Strategy.ofKind? (classify st.text.toList) with _ | σ
  · rw [Strategy.ofKind?_eq_none hσ]
    rfl
  · obtain ⟨d, hd, htake⟩ := Strategy.take_eq hσ s (s.prepare st.text.toList)
    rw [hd]
    dsimp only
    rw [htake]
    rcases d with (message | fault) | d
    · -- a refusal: the line of the failure is found before its warning is written
      change (liftM (failureAt a st message) >>= _ : Writing Failure Unit) b = _
      dsimp only [Functor.map, Except.map]
      rw [bind_apply]
      rcases failureAt a st message with fault | failure
      · rfl
      · rfl
    · rfl
    · rfl

theorem failureAt_message {a : Arithmetic} {st : Statement} {message : String} {f : Failure}
    (h : failureAt a st message = .ok f) : f.message = message := by
  unfold failureAt at h
  obtain ⟨line, -, h⟩ := bind_eq_ok h
  exact congrArg Failure.message (Except.ok.inj h).symm

/-! ## Runs -/

namespace Progress

/-- Takes in a declaration. -/
def declare (p : Progress) (d : Declaration) : Progress := { p with builder := p.builder.declare d }

/-- Notes a failure. -/
def fail (p : Progress) (st : Statement) (f : Failure) : Progress :=
  ⟨p.builder.warn (skipped st f.message), p.failures ++ [f]⟩

section

variable (a : Arithmetic) (s : Source) (p : Progress)

theorem step_eq (st : Statement) :
    p.step a s st =
      match read s st with
      | .ok none => .ok p
      | .ok (some d) => .ok (p.declare d)
      | .error (.refused message) => p.fail st <$> failureAt a st message
      | .error (.fault fault) => .error fault := by
  unfold step
  rw [dispatch_eq]
  rcases read s st with (message | fault) | (_ | d)
  · dsimp only
    rcases failureAt a st message with fault | f
    · rfl
    · rfl
  · rfl
  · rfl
  · rfl

theorem run_cons (st : Statement) (sts : List Statement) :
    p.run a s (st :: sts) = p.step a s st >>= (·.run a s sts) := by
  rw [run, List.foldlM_cons]
  rfl

theorem run_append (sts sts' : List Statement) :
    p.run a s (sts ++ sts') = p.run a s sts >>= (·.run a s sts') := by
  rw [run, List.foldlM_append]
  rfl

end

variable {a : Arithmetic} {s : Source} {p q : Progress}

/-- A statement that does not break the import down declares something or nothing, or fails. -/
theorem step_eq_ok {st : Statement} (h : p.step a s st = .ok q) :
    (read s st = .ok none ∧ q = p) ∨
    (∃ d, read s st = .ok (some d) ∧ q = p.declare d) ∨
    ∃ message f, read s st = .error (.refused message) ∧ failureAt a st message = .ok f ∧
      q = p.fail st f := by
  rw [step_eq] at h
  split at h
  · rename_i hr
    exact .inl ⟨hr, (Except.ok.inj h).symm⟩
  · rename_i d hr
    exact .inr (.inl ⟨d, hr, (Except.ok.inj h).symm⟩)
  · rename_i message hr
    obtain ⟨f, hf, hq⟩ := map_eq_ok h
    exact .inr (.inr ⟨message, f, hr, hf, hq.symm⟩)
  · cases h

/-- What every statement keeps, a run keeps. -/
theorem run_induction {P : Progress → Prop} (hstep : ∀ p q st, P p → p.step a s st = .ok q → P q)
    (hp : P p) {sts : List Statement} (h : p.run a s sts = .ok q) : P q := by
  induction sts generalizing p with
  | nil =>
    obtain rfl := Except.ok.inj h
    exact hp
  | cons st sts ih =>
    rw [run_cons] at h
    obtain ⟨p', hp', h⟩ := bind_eq_ok h
    exact ih (hstep p p' st hp hp') h

end Progress

section

variable {s : Source} {run : Except Fault Progress}

theorem outcome_eq_ok {r : Schema} (h : outcome s run = .ok r) :
    ∃ p, run = .ok p ∧ p.finish s = .ok r := by
  rcases run with fault | p
  · cases h
  · exact ⟨p, rfl, mapError_eq_ok h⟩

theorem outcome_eq_refused {e : Error} (h : outcome s run = .error (.refused e)) :
    ∃ p, run = .ok p ∧ p.finish s = .error e := by
  rcases run with fault | p
  · cases h
  · exact ⟨p, rfl, mapError_eq_refused h⟩

theorem outcome_eq_fault {fault : Fault} :
    outcome s run = .error (.fault fault) ↔ run = .error fault := by
  constructor
  · intro h
    rcases run with fault' | p
    · exact congrArg Except.error (Stop.fault.inj (Except.error.inj h))
    · exact absurd h mapError_ne_fault
  · rintro rfl
    rfl

end

end SchemaChart.Import
