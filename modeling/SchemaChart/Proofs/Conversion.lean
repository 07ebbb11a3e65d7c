-- When a schema can be laid out as a diagram: exactly when the indexes of the tables that are
-- shown name columns that are there.
import SchemaChart.Import.Convert
import SchemaChart.Proofs.IndexColumns

namespace SchemaChart.Import

open Data (Arithmetic)
open Diagram (Field)
open Schema (Builder)
open Script (Statement)
open Text

/-! ## Lists of steps that may fail -/

theorem mapM_cons_eq_ok {f : α → Except ε β} {x : α} {xs : List α} {zs : List β}
    (h : (x :: xs).mapM f = .ok zs) :
    ∃ y ys, f x = .ok y ∧ xs.mapM f = .ok ys ∧ zs = y :: ys := by
  rw [List.mapM_cons] at h
  rcases hx : f x with e | y
  · simp [hx, bind, Except.bind] at h
  · rcases hxs : xs.mapM f with e | ys
    · simp [hx, hxs, bind, Except.bind] at h
    · simp only [hx, hxs, bind, Except.bind, pure, Except.pure, Except.ok.injEq] at h
      exact ⟨y, ys, rfl, rfl, h.symm⟩

theorem mapM_eq_ok_iff {f : α → Except ε β} {xs : List α} :
    (∃ ys, xs.mapM f = .ok ys) ↔ ∀ x ∈ xs, ∃ y, f x = .ok y := by
  induction xs with
  | nil => simp [pure, Except.pure]
  | cons x xs ih =>
    rw [List.forall_mem_cons, ← ih]
    constructor
    · rintro ⟨zs, h⟩
      obtain ⟨y, ys, hx, hxs, _⟩ := mapM_cons_eq_ok h
      exact ⟨⟨y, hx⟩, ys, hxs⟩
    · rintro ⟨⟨y, hx⟩, ys, hxs⟩
      exact ⟨y :: ys, by simp [hx, hxs, bind, Except.bind, pure, Except.pure]⟩

theorem mapM_eq_error {f : α → Except ε β} {xs : List α} {e : ε} (h : xs.mapM f = .error e) :
    ∃ x ∈ xs, f x = .error e := by
  induction xs with
  | nil => cases h
  | cons x xs ih =>
    rw [List.mapM_cons] at h
    rcases hx : f x with e' | y
    · simp only [hx, bind, Except.bind, Except.error.injEq] at h
      exact ⟨x, List.mem_cons_self, h ▸ hx⟩
    · rcases hxs : xs.mapM f with e' | ys
      · simp only [hx, hxs, bind, Except.bind, Except.error.injEq] at h
        obtain ⟨z, hz, he⟩ := ih (h ▸ hxs)
        exact ⟨z, List.mem_cons_of_mem x hz, he⟩
      · simp [hx, hxs, bind, Except.bind, pure, Except.pure] at h

/-! ## Fields and indexes of a table -/

/-- The fields of a table that is to have this identifier. -/
def fieldsOf (s : Schema) (id : String) (t : Schema.Table) : List Field :=
  t.columns.mapIdx (fun k c => field t s.types (id ++ "f" ++ toString k) c)

/-- A field has the name of its column, so that a name has the same position in both. -/
theorem fieldsOf_position (s : Schema) (id : String) (t : Schema.Table) (name : String) :
    Schema.positionByName? Field.name name (fieldsOf s id t) = t.position? name := by
  unfold Schema.Table.position?
  rw [Schema.positionByName?_map, Schema.positionByName?_map Schema.Column.name]
  congr 1
  apply List.ext_getElem?
  intro k
  simp only [fieldsOf, List.getElem?_map, List.getElem?_mapIdx, Option.map_map]
  rcases t.columns[k]? with _ | c
  · rfl
  · rfl

theorem fieldsOf_getElem? (s : Schema) (id : String) (t : Schema.Table) (k : Nat) :
    (fieldsOf s id t)[k]? =
      (t.columns[k]?).map (field t s.types (id ++ "f" ++ toString k)) := by
  simp [fieldsOf]

/-- What is said about an index that names a column its table lacks. -/
def missingIndexColumn (i : Schema.Index) (t : Schema.Table) (column : String) : String :=
  "Index " ++ i.name ++ " on " ++ t.name ++ " references column " ++ column
    ++ " which does not exist"

/-- The identifier of one field that an index names. -/
theorem indexFields_step (s : Schema) (id : String) (t : Schema.Table) (i : Schema.Index)
    (c : String) :
    (∃ f, (match (Schema.positionByName? Field.name c (fieldsOf s id t)).bind
        ((fieldsOf s id t)[·]?) with
      | some f => Except.ok f.id
      | none => .error (Error.conversion (missingIndexColumn i t c))) = .ok f) ↔
      t.HasColumn c := by
  rw [fieldsOf_position, ← t.position?_isSome]
  rcases hp : t.position? c with _ | k
  · simp
  · obtain ⟨col, hcol, _⟩ := Schema.positionByName?_eq_some hp
    simp [fieldsOf_getElem?, hcol]

theorem indexFields_eq_ok_iff (s : Schema) (id : String) (t : Schema.Table) (i : Schema.Index) :
    (∃ ids, indexFields t (fieldsOf s id t) i = .ok ids) ↔ ∀ c ∈ i.columns, t.HasColumn c := by
  unfold indexFields
  rw [mapM_eq_ok_iff]
  constructor
  · intro h c hc
    exact (indexFields_step s id t i c).mp (h c hc)
  · intro h c hc
    exact (indexFields_step s id t i c).mpr (h c hc)

theorem indexFields_eq_error {s : Schema} {id : String} {t : Schema.Table} {i : Schema.Index}
    {e : Error} (h : indexFields t (fieldsOf s id t) i = .error e) :
    ∃ c ∈ i.columns, ¬ t.HasColumn c ∧ e = .conversion (missingIndexColumn i t c) := by
  unfold indexFields at h
  obtain ⟨c, hc, he⟩ := mapM_eq_error h
  refine ⟨c, hc, ?_, ?_⟩
  · intro hk
    obtain ⟨f, hf⟩ := (indexFields_step s id t i c).mpr hk
    exact absurd (he.symm.trans hf) (by simp)
  · split at he
    · cases he
    · exact (Except.error.inj he).symm

/-! ## Tables -/

/-- An index with the identifiers of its fields. -/
def indexIn (s : Schema) (id : String) (t : Schema.Table) (i : Schema.Index) :
    Except Error Diagram.Index := do
  return index i (← indexFields t (fieldsOf s id t) i)

theorem indexIn_eq_ok_iff (s : Schema) (id : String) (t : Schema.Table) (i : Schema.Index) :
    (∃ x, indexIn s id t i = .ok x) ↔ ∀ c ∈ i.columns, t.HasColumn c := by
  rw [← indexFields_eq_ok_iff s id]
  unfold indexIn
  rcases indexFields t (fieldsOf s id t) i with e | ids
  · simp [bind, Except.bind]
  · simp [bind, Except.bind, pure, Except.pure]

theorem indexIn_eq_error {s : Schema} {id : String} {t : Schema.Table} {i : Schema.Index}
    {e : Error} (h : indexIn s id t i = .error e) :
    ∃ c ∈ i.columns, ¬ t.HasColumn c ∧ e = .conversion (missingIndexColumn i t c) := by
  unfold indexIn at h
  rcases hf : indexFields t (fieldsOf s id t) i with e' | ids
  · simp only [hf, bind, Except.bind, Except.error.injEq] at h
    exact indexFields_eq_error (h ▸ hf)
  · simp [hf, bind, Except.bind, pure, Except.pure] at h

/-- The table at a position, once its indexes are known. -/
def placedTable (s : Schema) (source : Dialect) (o : Options) (n : Nat) (t : Schema.Table)
    (indexes : List Diagram.Index) : Diagram.Table :=
  { id := "t" ++ toString n
    name := t.name
    schema := t.schema <|> source.defaultSchema?
    x := (o.layout.place n).1
    y := (o.layout.place n).2
    fields := fieldsOf s ("t" ++ toString n) t
    indexes := indexes
    color := o.layout.color n t.isView
    isView := t.isView
    isMaterializedView := if t.isMaterializedView then some true else none
    comments := t.comment
    order := some t.order }

theorem table_eq (s : Schema) (source : Dialect) (o : Options) (n : Nat) (t : Schema.Table) :
    table s source o n t =
      (t.indexes.mapM (indexIn s ("t" ++ toString n) t)).map (placedTable s source o n t) := by
  have h : table s source o n t =
      (t.indexes.mapM (indexIn s ("t" ++ toString n) t)).bind
        (fun indexes => pure (placedTable s source o n t indexes)) := rfl
  rw [h]
  rcases t.indexes.mapM (indexIn s ("t" ++ toString n) t) with e | indexes
  · rfl
  · rfl

theorem table_eq_ok_iff (s : Schema) (source : Dialect) (o : Options) (n : Nat)
    (t : Schema.Table) :
    (∃ u, table s source o n t = .ok u) ↔ ∀ i ∈ t.indexes, ∀ c ∈ i.columns, t.HasColumn c := by
  have hall : (∃ is, t.indexes.mapM (indexIn s ("t" ++ toString n) t) = .ok is) ↔
      ∀ i ∈ t.indexes, ∀ c ∈ i.columns, t.HasColumn c := by
    rw [mapM_eq_ok_iff]
    simp only [indexIn_eq_ok_iff]
  rw [table_eq, ← hall]
  rcases t.indexes.mapM (indexIn s ("t" ++ toString n) t) with e | indexes
  · simp [Except.map]
  · simp [Except.map]

theorem table_eq_error {s : Schema} {source : Dialect} {o : Options} {n : Nat}
    {t : Schema.Table} {e : Error} (h : table s source o n t = .error e) :
    ∃ i ∈ t.indexes, ∃ c ∈ i.columns, ¬ t.HasColumn c ∧
      e = .conversion (missingIndexColumn i t c) := by
  rw [table_eq] at h
  rcases hm : t.indexes.mapM (indexIn s ("t" ++ toString n) t) with e' | indexes
  · simp only [hm, Except.map, Except.error.injEq] at h
    obtain ⟨i, hi, he⟩ := mapM_eq_error (h ▸ hm)
    exact ⟨i, hi, indexIn_eq_error he⟩
  · rw [hm] at h
    cases h

/-- The table at a position is made from the columns alone, but for its indexes. -/
theorem table_eq_ok {s : Schema} {source : Dialect} {o : Options} {n : Nat} {t : Schema.Table}
    {u : Diagram.Table} (h : table s source o n t = .ok u) :
    ∃ indexes, u = placedTable s source o n t indexes := by
  rw [table_eq] at h
  rcases hm : t.indexes.mapM (indexIn s ("t" ++ toString n) t) with e | indexes
  · rw [hm] at h
    cases h
  · simp only [hm, Except.map, Except.ok.injEq] at h
    exact ⟨indexes, h.symm⟩

/-- Tables are made one by one, each with its position. -/
theorem tablesFrom_eq_mapM (s : Schema) (source : Dialect) (o : Options) (n : Nat)
    (ts : List Schema.Table) :
    tablesFrom s source o n ts = (ts.zipIdx n).mapM fun p => table s source o p.2 p.1 := by
  induction ts generalizing n with
  | nil => rfl
  | cons t ts ih => rw [tablesFrom, ih, List.zipIdx_cons, List.mapM_cons]

theorem tablesFrom_cons_eq_ok {s : Schema} {source : Dialect} {o : Options} {n : Nat}
    {t : Schema.Table} {ts : List Schema.Table} {vs : List Diagram.Table}
    (h : tablesFrom s source o n (t :: ts) = .ok vs) :
    ∃ u us, table s source o n t = .ok u ∧ tablesFrom s source o (n + 1) ts = .ok us ∧
      vs = u :: us := by
  rw [tablesFrom_eq_mapM, List.zipIdx_cons] at h
  rw [tablesFrom_eq_mapM]
  exact mapM_cons_eq_ok h

theorem tablesFrom_eq_ok_iff (s : Schema) (source : Dialect) (o : Options) (n : Nat)
    (ts : List Schema.Table) :
    (∃ us, tablesFrom s source o n ts = .ok us) ↔
      ∀ t ∈ ts, ∀ i ∈ t.indexes, ∀ c ∈ i.columns, t.HasColumn c := by
  rw [tablesFrom_eq_mapM, mapM_eq_ok_iff]
  simp only [table_eq_ok_iff]
  constructor
  · intro h t ht
    rw [← List.zipIdx_map_fst n ts] at ht
    obtain ⟨p, hp, rfl⟩ := List.mem_map.mp ht
    exact h p hp
  · intro h p hp
    exact h p.1 (List.fst_mem_of_mem_zipIdx hp)

theorem tablesFrom_eq_error {s : Schema} {source : Dialect} {o : Options} {n : Nat}
    {ts : List Schema.Table} {e : Error} (h : tablesFrom s source o n ts = .error e) :
    ∃ t ∈ ts, ∃ i ∈ t.indexes, ∃ c ∈ i.columns, ¬ t.HasColumn c ∧
      e = .conversion (missingIndexColumn i t c) := by
  rw [tablesFrom_eq_mapM] at h
  obtain ⟨p, hp, he⟩ := mapM_eq_error h
  exact ⟨p.1, List.fst_mem_of_mem_zipIdx hp, table_eq_error he⟩

/-- The tables of a diagram stand in the order of the schema, each at its position. -/
theorem tablesFrom_getElem? {s : Schema} {source : Dialect} {o : Options} {n : Nat}
    {ts : List Schema.Table} {us : List Diagram.Table} (h : tablesFrom s source o n ts = .ok us)
    (k : Nat) :
    ∃ indexes, us[k]? = (ts[k]?).map (fun t => placedTable s source o (n + k) t indexes) := by
  induction ts generalizing n us k with
  | nil =>
    cases h
    exact ⟨[], rfl⟩
  | cons t ts ih =>
    obtain ⟨u, us', ht, hts, rfl⟩ := tablesFrom_cons_eq_ok h
    cases k with
    | zero =>
      obtain ⟨indexes, rfl⟩ := table_eq_ok ht
      exact ⟨indexes, rfl⟩
    | succ k =>
      obtain ⟨indexes, hk⟩ := ih hts k
      refine ⟨indexes, ?_⟩
      rw [List.getElem?_cons_succ, List.getElem?_cons_succ, hk, Nat.add_right_comm n 1 k,
        Nat.add_assoc n k 1]

/-! ## The whole conversion -/

/-- The tables of a diagram, each with the identifier that it has in the schema. -/
def placedTables (s : Schema) (o : Options) (tables : List Diagram.Table) : Placed :=
  ((included s o).map (·.id)).zip tables

/-- The diagram before the check for what points nowhere. -/
def laidOut (s : Schema) (source target : Dialect) (o : Options) (tables : List Diagram.Table) :
    Diagram :=
  { id := "d"
    name := o.diagramName.getD ("SQL Import (" ++ source.displayName ++ ")")
    dialect := if target == .generic then source else target
    tables := tables
    relationships :=
      ((s.relationships.map (relationship (placedTables s o tables) source)).filterMap
        (·.1)).mapIdx (fun n r => { r with id := "r" ++ toString n })
    customTypes :=
      if (customTypes s source o).isEmpty then none else some (customTypes s source o) }

/-- A diagram whose indexes have their identifiers. -/
def numbered (d : Diagram) : Diagram :=
  { d with tables := d.tables.map (fun t => { t with indexes := numberIndexes t.id t.indexes }) }

/-- What there is to say about the foreign keys of a schema. -/
def keyMessages (s : Schema) (source : Dialect) (o : Options) (tables : List Diagram.Table) :
    List String :=
  (s.relationships.map (relationship (placedTables s o tables) source)).flatMap (·.2)

/-- A conversion makes its tables, and from them all the rest. -/
theorem convert_eq (s : Schema) (source target : Dialect) (o : Options) :
    convert s source target o =
      (tablesFrom s source o 0 (included s o)).map (fun tables =>
        (numbered (laidOut s source target o tables).pruned,
          keyMessages s source o tables ++ (laidOut s source target o tables).issues)) := by
  have h : convert s source target o =
      (tablesFrom s source o 0 (included s o)).bind (fun tables => pure
        (numbered (laidOut s source target o tables).pruned,
          keyMessages s source o tables ++ (laidOut s source target o tables).issues)) := rfl
  rw [h]
  rcases tablesFrom s source o 0 (included s o) with e | tables
  · rfl
  · rfl

theorem convert_eq_error {s : Schema} {source target : Dialect} {o : Options} {e : Error}
    (h : convert s source target o = .error e) :
    ∃ t ∈ included s o, ∃ i ∈ t.indexes, ∃ c ∈ i.columns, ¬ t.HasColumn c ∧
      e = .conversion (missingIndexColumn i t c) := by
  rw [convert_eq] at h
  rcases ht : tablesFrom s source o 0 (included s o) with e' | tables
  · rw [ht] at h
    cases h
    exact tablesFrom_eq_error ht
  · rw [ht] at h
    cases h

theorem convert_eq_ok {s : Schema} {source target : Dialect} {o : Options}
    {r : Diagram × List String} (h : convert s source target o = .ok r) :
    ∃ tables, tablesFrom s source o 0 (included s o) = .ok tables ∧
      r.1 = numbered (laidOut s source target o tables).pruned := by
  rw [convert_eq] at h
  rcases ht : tablesFrom s source o 0 (included s o) with e | tables
  · rw [ht] at h
    cases h
  · rw [ht] at h
    cases h
    exact ⟨tables, rfl, rfl⟩

theorem convert_eq_ok_iff (s : Schema) (source target : Dialect) (o : Options) :
    (∃ r, convert s source target o = .ok r) ↔
      ∀ t ∈ included s o, ∀ i ∈ t.indexes, ∀ c ∈ i.columns, t.HasColumn c := by
  rw [← tablesFrom_eq_ok_iff s source o 0]
  constructor
  · rintro ⟨r, h⟩
    obtain ⟨tables, ht, _⟩ := convert_eq_ok h
    exact ⟨tables, ht⟩
  · rintro ⟨tables, ht⟩
    exact ⟨_, by rw [convert_eq, ht]; rfl⟩

/-! ## Scripts whose schema cannot be laid out -/

/-- A table that is shown has a primary key over a column that it lacks. -/
def UnknownKeyColumn (s : Schema) (o : Options) : Prop :=
  ∃ t ∈ included s o, ∃ i ∈ t.indexes, i.isPrimaryKey = true ∧ ∃ c ∈ i.columns, ¬ t.HasColumn c

/-- The schema of a script keeps what its statements keep. -/
theorem finish_known {s : Source} {p : Progress} {r : Schema} (hp : p.builder.Known)
    (h : p.finish s = .ok r) : ∀ t ∈ r.tables, Schema.IndexesKnown r.warnings t := by
  have hr : p.builder.finish = r := by
    unfold Progress.finish at h
    split at h
    · cases h
    · exact Except.ok.inj h
  intro t ht
  rw [← hr, Schema.Builder.finish_eq] at ht ⊢
  refine Schema.indexesKnown_mono ?_ (hp t ht)
  intro w hw
  exact List.mem_append_left _ (List.mem_append_left _ hw)

theorem parse_known {a : Arithmetic} {d : Dialect} {cs : List Char} {r : Schema}
    (h : parse a d cs = .ok r) : ∀ t ∈ r.tables, Schema.IndexesKnown r.warnings t := by
  unfold parse at h
  dsimp only at h
  split at h
  · cases h
  · rename_i s _
    split at h
    · obtain ⟨p, hp, hfinish⟩ := outcome_eq_ok h
      exact finish_known (Visited.runDump hp).known hfinish
    · obtain ⟨p, hp, hfinish⟩ := outcome_eq_ok h
      exact finish_known (Visited.start.run hp).known hfinish

/-- A new primary key leaves a table with a key over a column that it lacks just if the key makes
an index and one of its columns is unknown. -/
theorem withPrimaryKey_unknown_iff (t : Schema.Table) (name : Option String)
    (columns : List String) :
    (∃ i ∈ (Builder.withPrimaryKey name columns t).indexes, i.isPrimaryKey = true ∧
      ∃ c ∈ i.columns, ¬ (Builder.withPrimaryKey name columns t).HasColumn c) ↔
    (name.getD "" ≠ "" ∨ 1 < columns.length) ∧ ∃ c ∈ columns, ¬ t.HasColumn c := by
  simp only [Schema.hasColumn_withPrimaryKey]
  constructor
  · rintro ⟨i, hi, hp, c, hc, hn⟩
    rcases List.mem_append.mp hi with hi | hi
    · simp [hp] at hi
    · obtain ⟨hmade, rfl⟩ := (Schema.mem_primaryKeyIndex? name columns i).mp hi
      exact ⟨hmade, c, hc, hn⟩
  · rintro ⟨hmade, c, hc, hn⟩
    exact ⟨_, List.mem_append_right _ ((Schema.mem_primaryKeyIndex? name columns _).mpr
      ⟨hmade, rfl⟩), rfl, c, hc, hn⟩

/-- Of a schema whose indexes are known, a conversion fails on nothing but a primary key. -/
theorem convert_fails_iff {s : Schema} (h : ∀ t ∈ s.tables, Schema.IndexesKnown s.warnings t)
    (source target : Dialect) (o : Options) :
    (∃ m, convert s source target o = .error (.conversion m)) ↔ UnknownKeyColumn s o := by
  constructor
  · rintro ⟨m, hm⟩
    obtain ⟨t, ht, i, hi, c, hc, hn, _⟩ := convert_eq_error hm
    rcases h t (List.mem_filter.mp ht).1 i hi c hc with hk | ⟨hp, _⟩
    · exact absurd hk hn
    · exact ⟨t, ht, i, hi, hp, c, hc, hn⟩
  · rintro ⟨t, ht, i, hi, _, c, hc, hn⟩
    rcases hr : convert s source target o with e | r
    · obtain ⟨_, _, _, _, _, _, _, he⟩ := convert_eq_error hr
      exact ⟨_, by rw [he]⟩
    · exact absurd ((convert_eq_ok_iff s source target o).mp ⟨r, hr⟩ t ht i hi c hc) hn

/-- The schema of a script fails to be laid out exactly if a table that is shown has a primary key
over a column that it lacks. After any statements an index names columns that its table has, unless
it is a primary key whose missing columns were warned about; and a primary key comes to name a
missing column just when it is declared over one, with a name or with other columns. -/
theorem conversion_fails_exactly_on_unknown_key_columns {a : Arithmetic} {d : Dialect}
    {cs : List Char} {r : Schema} (hr : parse a d cs = .ok r) (source target : Dialect)
    (o : Options) :
    ((∃ m, convert r source target o = .error (.conversion m)) ↔ UnknownKeyColumn r o) ∧
    ((∃ x, convert r source target o = .ok x) ↔ ¬ UnknownKeyColumn r o) ∧
    (∀ (a : Arithmetic) (s : Source) (sts : List Statement) (p : Progress),
      (Progress.start s).run a s sts = .ok p ∨ runDump a s sts = .ok p → p.builder.Known) ∧
    (∀ (t : Schema.Table) (name : Option String) (columns : List String),
      (∃ i ∈ (Builder.withPrimaryKey name columns t).indexes, i.isPrimaryKey = true ∧
        ∃ c ∈ i.columns, ¬ (Builder.withPrimaryKey name columns t).HasColumn c) ↔
      (name.getD "" ≠ "" ∨ 1 < columns.length) ∧ ∃ c ∈ columns, ¬ t.HasColumn c) := by
  have hfail := convert_fails_iff (parse_known hr) source target o
  refine ⟨hfail, ?_, ?_, withPrimaryKey_unknown_iff⟩
  · rw [← hfail]
    rcases hc : convert r source target o with e | x
    · obtain ⟨_, _, _, _, _, _, _, rfl⟩ := convert_eq_error hc
      simp
    · simp
  · rintro a s sts p (hp | hp)
    · exact (Visited.start.run hp).known
    · exact (Visited.runDump hp).known

/-- A table whose primary key names a column that is not there: the script is read, with a
warning, and its schema cannot be laid out. -/
theorem a_key_over_a_missing_column_fails :
    ∃ r, parse .checked .postgresql "CREATE TABLE t (a int, PRIMARY KEY (a, b));".toList = .ok r ∧
      r.warnings = ["Primary key column b not found in table t"] ∧
      ∃ m, convert r .postgresql .generic {} = .error (.conversion m) := by
  let t : Schema.Table :=
    { id := "t0", name := "t", schema := none,
      columns := [{ name := "a", type := "INT", nullable := false, primaryKey := true }],
      indexes := [{ name := "", columns := ["a", "b"], unique := true, isPrimaryKey := true }] }
  let r : Schema := { tables := [t], warnings := ["Primary key column b not found in table t"] }
  have hr : parse .checked .postgresql "CREATE TABLE t (a int, PRIMARY KEY (a, b));".toList =
      .ok r := eq_ok_of_toOption (by decide +kernel)
  have hu : UnknownKeyColumn r {} := by
    refine ⟨t, by decide, _, List.mem_singleton.mpr rfl, rfl, "b", by decide, ?_⟩
    rintro ⟨c, hc, hs⟩
    rw [List.mem_singleton.mp hc] at hs
    revert hs
    decide
  have hiff := conversion_fails_exactly_on_unknown_key_columns hr .postgresql .generic {}
  exact ⟨r, hr, rfl, hiff.1.mpr hu⟩

end SchemaChart.Import
