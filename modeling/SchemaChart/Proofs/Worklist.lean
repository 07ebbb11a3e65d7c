-- The laws of the foreign keys that wait for their tables. When the schema is finished, every
-- pending key is linked, or has one warning; and every link comes from a pending key.
import SchemaChart.Proofs.Writers

namespace SchemaChart.Schema

open Text

/-! ## Links without repetition -/

namespace Builder

theorem sameLink_iff (a b : ForeignKey) :
    sameLink a b = true ↔ a.sourceTableId = b.sourceTableId ∧ a.targetTableId = b.targetTableId ∧
      sameName a.sourceColumn b.sourceColumn = true ∧
      sameName a.targetColumn b.targetColumn = true := by
  simp [sameLink, and_assoc]

theorem sameLink_refl (a : ForeignKey) : sameLink a a = true := by
  simp [sameLink]

theorem prefix_addLink (links : List ForeignKey) (k : ForeignKey) : links <+: addLink links k := by
  unfold addLink
  split
  · exact List.prefix_refl links
  · exact List.prefix_append links [k]

theorem prefix_foldl_addLink (new old : List ForeignKey) : old <+: new.foldl addLink old := by
  induction new generalizing old with
  | nil => exact List.prefix_refl old
  | cons k ks ih => exact (prefix_addLink old k).trans (ih (addLink old k))

theorem mem_of_mem_foldl_addLink {new old : List ForeignKey} {l : ForeignKey}
    (h : l ∈ new.foldl addLink old) : l ∈ old ∨ l ∈ new := by
  induction new generalizing old with
  | nil => exact Or.inl h
  | cons k ks ih =>
    rcases ih h with hl | hl
    · unfold addLink at hl
      split at hl
      · exact Or.inl hl
      · rcases List.mem_append.mp hl with hl | hl
        · exact Or.inl hl
        · exact Or.inr (List.mem_singleton.mp hl ▸ List.mem_cons_self)
    · exact Or.inr (List.mem_cons_of_mem k hl)

/-- A link that is to be added is there afterwards, in this or in another spelling. -/
theorem foldl_addLink_represents {new : List ForeignKey} (old : List ForeignKey)
    {k : ForeignKey} (h : k ∈ new) :
    ∃ l ∈ new.foldl addLink old, sameLink l k = true := by
  induction new generalizing old with
  | nil => cases h
  | cons x xs ih =>
    rcases List.mem_cons.mp h with rfl | hk
    · have hnow : ∃ l ∈ addLink old k, sameLink l k = true := by
        unfold addLink
        split
        · rename_i hany
          exact List.any_eq_true.mp hany
        · exact ⟨k, by simp, sameLink_refl k⟩
      obtain ⟨l, hl, hs⟩ := hnow
      exact ⟨l, (prefix_foldl_addLink xs _).subset hl, hs⟩
    · exact ih (addLink old x) hk

/-- No two links join the same columns of the same tables. -/
def Distinct (links : List ForeignKey) : Prop :=
  links.Pairwise (fun a b => sameLink a b = false)

theorem distinct_foldl_addLink (new : List ForeignKey) {old : List ForeignKey}
    (h : Distinct old) : Distinct (new.foldl addLink old) := by
  induction new generalizing old with
  | nil => exact h
  | cons k ks ih =>
    rw [List.foldl_cons]
    apply ih
    unfold addLink
    split
    · exact h
    · rename_i hnone
      refine List.pairwise_append.mpr ⟨h, List.pairwise_singleton _ _, ?_⟩
      intro a ha b hb
      rw [List.mem_singleton.mp hb]
      exact Bool.eq_false_iff.mpr (fun hs => hnone (List.any_eq_true.mpr ⟨a, ha, hs⟩))

/-! ## What becomes of one key -/

/-- A reference names a table together with its schema. -/
def Resolves (b : Builder) (r : TableRef) (t : Table) : Prop :=
  ∃ i, b.lookupExact? r = some i ∧ b.tables[i]? = some t

/-- The position that a reference has is one of a table. -/
theorem lookupExact?_lt {b : Builder} {r : TableRef} {i : Nat} (h : b.lookupExact? r = some i) :
    i < b.tables.length := by
  unfold lookupExact? at h
  rw [Option.orElse_apply, Option.orElse_eq_or, Option.or_eq_some_iff] at h
  rcases h with h | ⟨_, h⟩
  · exact (List.findIdx?_eq_some_iff_getElem.mp h).1
  · exact (List.findIdx?_eq_some_iff_getElem.mp h).1

theorem resolves_or_none (b : Builder) (r : TableRef) :
    (∃ t, b.Resolves r t) ∨ b.lookupExact? r = none := by
  rcases h : b.lookupExact? r with _ | i
  · exact Or.inr rfl
  · exact Or.inl ⟨b.tables.get ⟨i, lookupExact?_lt h⟩, i, h, List.getElem?_eq_getElem _⟩

theorem ends?_eq_some {b : Builder} {k : PendingKey} {source target : Table}
    (hs : b.Resolves k.source source) (ht : b.Resolves k.target target) :
    b.ends? k = some (source, target) := by
  obtain ⟨i, hi, hsource⟩ := hs
  obtain ⟨j, hj, htarget⟩ := ht
  simp [ends?, hi, hj, hsource, htarget]

theorem ends?_eq_none {b : Builder} {k : PendingKey}
    (h : b.lookupExact? k.source = none ∨ b.lookupExact? k.target = none) :
    b.ends? k = none := by
  rcases h with h | h
  · simp [ends?, h]
  · simp [ends?, h]

end Builder

/-- The columns that a key refers to: those it names, or else the primary key of the target. -/
def PendingKey.referenced (k : PendingKey) (target : Table) : List String :=
  if k.targetColumns.isEmpty then target.primaryKeyColumns else k.targetColumns

/-- What is said about a key that refers to `n` columns, but has not as many itself. -/
def PendingKey.arityWarning (k : PendingKey) (n : Nat) : String :=
  "Foreign key " ++ k.name ++ " on " ++ k.source.display ++ " has "
    ++ toString k.sourceColumns.length ++ " column(s) but references "
    ++ toString n ++ " column(s), skipped"

/-- What is said about a key one of whose tables never came. -/
def PendingKey.droppedWarning (k : PendingKey) (missing : TableRef) : String :=
  "Foreign key " ++ k.name ++ " dropped: table " ++ missing.display ++ " was never defined"

namespace Builder

/-- The links that a key asks for. -/
def linksFor (b : Builder) (k : PendingKey) : List ForeignKey :=
  match b.ends? k with
  | some (source, target) =>
    if (k.referenced target).length = k.sourceColumns.length then
      linksOf k source target (k.referenced target)
    else []
  | none => []

/-- The warning about the number of columns of a key, if there is one. -/
def arityWarning? (b : Builder) (k : PendingKey) : Option String :=
  match b.ends? k with
  | some (_, target) =>
    if (k.referenced target).length = k.sourceColumns.length then none
    else some (k.arityWarning (k.referenced target).length)
  | none => none

/-- The first of the two tables of a key that is unknown. -/
def missingEnd (b : Builder) (k : PendingKey) : TableRef :=
  if (b.lookupExact? k.source).isNone then k.source else k.target

/-- The warning about a table of a key, if there is one. -/
def droppedWarning? (b : Builder) (k : PendingKey) : Option String :=
  match b.ends? k with
  | some _ => none
  | none => some (k.droppedWarning (b.missingEnd k))

theorem mem_linksFor {b : Builder} {k : PendingKey} {l : ForeignKey} :
    l ∈ b.linksFor k ↔ ∃ source target, b.Resolves k.source source ∧ b.Resolves k.target target ∧
      (k.referenced target).length = k.sourceColumns.length ∧
      l ∈ linksOf k source target (k.referenced target) := by
  constructor
  · intro h
    rcases b.resolves_or_none k.source with ⟨source, hs⟩ | hn
    · rcases b.resolves_or_none k.target with ⟨target, ht⟩ | hn
      · simp only [linksFor, ends?_eq_some hs ht] at h
        split at h
        · rename_i hc
          exact ⟨source, target, hs, ht, hc, h⟩
        · cases h
      · simp [linksFor, ends?_eq_none (Or.inr hn)] at h
    · simp [linksFor, ends?_eq_none (Or.inl hn)] at h
  · rintro ⟨source, target, hs, ht, hc, h⟩
    simp only [linksFor, ends?_eq_some hs ht, hc, if_true]
    exact h

/-! ## The whole line of keys -/

/-- One key adds its links or its warning, and nothing else. -/
theorem link_eq {b : Builder} {k : PendingKey} {source target : Table}
    (h : b.ends? k = some (source, target)) :
    b.link k source target = { b with
      relationships := (b.linksFor k).foldl addLink b.relationships
      warnings := b.warnings ++ (b.arityWarning? k).toList } := by
  unfold link linksFor arityWarning?
  simp only [h, bne_iff_ne, ne_eq, ite_not]
  change (if (k.referenced target).length = k.sourceColumns.length then _ else _) = _
  split
  · simp [PendingKey.referenced]
  · rfl

/-- The links of the keys so far depend neither on earlier links nor on earlier warnings. -/
theorem foldl_link (b : Builder) (ks : List PendingKey) (links : List ForeignKey)
    (ws : List String) :
    ks.foldl (fun b k =>
        match b.ends? k with
        | some (source, target) => b.link k source target
        | none => b) { b with relationships := links, warnings := ws } =
      { b with
        relationships := (ks.flatMap b.linksFor).foldl addLink links
        warnings := ws ++ ks.filterMap b.arityWarning? } := by
  induction ks generalizing links ws with
  | nil => simp
  | cons k ks ih =>
    rw [List.foldl_cons, List.flatMap_cons, List.foldl_append, List.filterMap_cons]
    rcases he : b.ends? k with _ | ⟨source, target⟩
    · have hstep : ({ b with relationships := links, warnings := ws } : Builder).ends? k =
          none := he
      simp only [hstep, ih]
      simp [linksFor, arityWarning?, he]
    · have hstep : ({ b with relationships := links, warnings := ws } : Builder).ends? k =
          some (source, target) := he
      simp only [hstep, link_eq hstep, ih]
      have hl : ({ b with relationships := links, warnings := ws } : Builder).linksFor k =
          b.linksFor k := rfl
      have hw : ({ b with relationships := links, warnings := ws } : Builder).arityWarning? k =
          b.arityWarning? k := rfl
      rw [hl, hw]
      rcases b.arityWarning? k with _ | w
      · simp
      · simp

theorem linkAll_eq (b : Builder) :
    b.linkAll = { b with
      relationships := (b.pending.flatMap b.linksFor).foldl addLink b.relationships
      warnings := b.warnings ++ b.pending.filterMap b.arityWarning? } :=
  foldl_link b b.pending b.relationships b.warnings

theorem foldl_warnDropped (b : Builder) (ks : List PendingKey) (ws : List String) :
    (ks.filter (fun k => (b.ends? k).isNone)).foldl warnDropped { b with warnings := ws } =
      { b with warnings := ws ++ ks.filterMap b.droppedWarning? } := by
  induction ks generalizing ws with
  | nil => simp
  | cons k ks ih =>
    rw [List.filterMap_cons, List.filter_cons]
    rcases he : b.ends? k with _ | ends
    · have hstep : warnDropped { b with warnings := ws } k =
          { b with warnings := ws ++ [k.droppedWarning (b.missingEnd k)] } := rfl
      simp only [Option.isNone_none, if_true, List.foldl_cons, hstep, ih]
      simp [droppedWarning?, he]
    · simp only [Option.isNone_some, Bool.false_eq_true, if_false, ih]
      simp [droppedWarning?, he]

/-- The finished schema: the tables as they are, the links of all keys without repetition, and
after the warnings so far those about numbers of columns and those about missing tables. -/
theorem finish_eq (b : Builder) :
    b.finish =
      { tables := b.tables
        relationships := (b.pending.flatMap b.linksFor).foldl addLink b.relationships
        types := b.types
        warnings := b.warnings ++ b.pending.filterMap b.arityWarning?
          ++ b.pending.filterMap b.droppedWarning? } := by
  unfold finish
  rw [linkAll_eq]
  have h := foldl_warnDropped
    { b with relationships := (b.pending.flatMap b.linksFor).foldl addLink b.relationships }
    b.pending (b.warnings ++ b.pending.filterMap b.arityWarning?)
  exact congrArg (fun d : Builder =>
    ({ tables := d.tables
       relationships := d.relationships
       types := d.types
       warnings := d.warnings } : Schema)) h

/-! ## Every key is settled once -/

theorem resolves_unique {b : Builder} {r : TableRef} {t u : Table} (ht : b.Resolves r t)
    (hu : b.Resolves r u) : t = u := by
  obtain ⟨i, hi, hti⟩ := ht
  obtain ⟨j, hj, huj⟩ := hu
  rw [hi] at hj
  cases hj
  exact Option.some.inj (hti.symm.trans huj)

theorem not_resolves_of_none {b : Builder} {r : TableRef} {t : Table}
    (h : b.lookupExact? r = none) : ¬ b.Resolves r t := by
  rintro ⟨i, hi, _⟩
  rw [h] at hi
  cases hi

/-- A schema under construction without the key at a place in the line. -/
def without (b : Builder) (p : Nat) : Builder := { b with pending := b.pending.eraseIdx p }

/-- Warnings with one more message among them. -/
def OneMore (message : String) (old new : List String) : Prop :=
  ∃ before after, old = before ++ after ∧ new = before ++ message :: after

/-- The key at a place is linked: each pair of its columns is joined, and nothing is said. -/
def LinkedAt (b : Builder) (p : Nat) (k : PendingKey) : Prop :=
  ∃ source target, b.Resolves k.source source ∧ b.Resolves k.target target ∧
    (k.referenced target).length = k.sourceColumns.length ∧
    (∀ (n : Nat) s t, k.sourceColumns[n]? = some s → (k.referenced target)[n]? = some t →
      ∃ l ∈ b.finish.relationships, l.sourceTableId = source.id ∧ l.targetTableId = target.id ∧
        sameName l.sourceColumn s = true ∧ sameName l.targetColumn t = true) ∧
    b.finish.warnings = (b.without p).finish.warnings

/-- The key at a place has not as many columns as it refers to: it adds one warning, and no
link. -/
def MismatchedAt (b : Builder) (p : Nat) (k : PendingKey) : Prop :=
  ∃ source target, b.Resolves k.source source ∧ b.Resolves k.target target ∧
    (k.referenced target).length ≠ k.sourceColumns.length ∧
    b.finish.relationships = (b.without p).finish.relationships ∧
    OneMore (k.arityWarning (k.referenced target).length) (b.without p).finish.warnings
      b.finish.warnings

/-- A table of the key at a place is unknown: it adds one warning, and no link. -/
def DroppedAt (b : Builder) (p : Nat) (k : PendingKey) : Prop :=
  (b.lookupExact? k.source = none ∨ b.lookupExact? k.target = none) ∧
    b.finish.relationships = (b.without p).finish.relationships ∧
    OneMore (k.droppedWarning (b.missingEnd k)) (b.without p).finish.warnings b.finish.warnings

/-- The line of keys around one of them. -/
theorem pending_split {b : Builder} {p : Nat} {k : PendingKey} (h : b.pending[p]? = some k) :
    ∃ before after, b.pending = before ++ k :: after ∧
      (b.without p).pending = before ++ after := by
  obtain ⟨hp, hk⟩ := List.getElem?_eq_some_iff.mp h
  refine ⟨b.pending.take p, b.pending.drop (p + 1), ?_, List.eraseIdx_eq_take_drop_succ _ _⟩
  rw [← hk, List.getElem_cons_drop, List.take_append_drop]

/-- A key that asks for no link makes none. -/
theorem finish_relationships_without {b : Builder} {p : Nat} {k : PendingKey}
    (h : b.pending[p]? = some k) (hl : b.linksFor k = []) :
    b.finish.relationships = (b.without p).finish.relationships := by
  obtain ⟨before, after, hall, hrest⟩ := pending_split h
  rw [finish_eq, finish_eq, hall, hrest]
  have hsame : (b.without p).linksFor = b.linksFor := rfl
  rw [hsame]
  simp [hl, without]

/-- The warnings around those of one key. -/
theorem finish_warnings_split {b : Builder} {p : Nat} {k : PendingKey}
    (h : b.pending[p]? = some k) :
    ∃ ws xs ys zs,
      b.finish.warnings = ws ++ (b.arityWarning? k).toList ++ xs ++ ys
        ++ (b.droppedWarning? k).toList ++ zs ∧
      (b.without p).finish.warnings = ws ++ xs ++ ys ++ zs := by
  obtain ⟨before, after, hall, hrest⟩ := pending_split h
  refine ⟨b.warnings ++ before.filterMap b.arityWarning?, after.filterMap b.arityWarning?,
    before.filterMap b.droppedWarning?, after.filterMap b.droppedWarning?, ?_, ?_⟩
  · rw [finish_eq, hall]
    rcases ha : b.arityWarning? k with _ | a <;> rcases hd : b.droppedWarning? k with _ | d <;>
      simp [ha, hd]
  · have ha : (b.without p).arityWarning? = b.arityWarning? := rfl
    have hd : (b.without p).droppedWarning? = b.droppedWarning? := rfl
    rw [finish_eq, hrest, ha, hd]
    simp [without]

theorem linkedAt {b : Builder} {p : Nat} {k : PendingKey} {source target : Table}
    (h : b.pending[p]? = some k) (hs : b.Resolves k.source source)
    (ht : b.Resolves k.target target)
    (hn : (k.referenced target).length = k.sourceColumns.length) : b.LinkedAt p k := by
  have he := ends?_eq_some hs ht
  refine ⟨source, target, hs, ht, hn, ?_, ?_⟩
  · intro n s t hsn htn
    have hzip : (s, t) ∈ k.sourceColumns.zip (k.referenced target) := by
      apply List.mem_of_getElem? (i := n)
      rw [List.getElem?_zip_eq_some]
      exact ⟨hsn, htn⟩
    have hmem : { name := k.name, sourceTable := source.name, sourceSchema := source.schema,
                  sourceTableId := source.id, sourceColumn := s, targetTable := target.name,
                  targetSchema := target.schema, targetTableId := target.id, targetColumn := t,
                  updateAction := k.onUpdate, deleteAction := k.onDelete : ForeignKey } ∈
        b.pending.flatMap b.linksFor := by
      refine List.mem_flatMap.mpr ⟨k, List.mem_of_getElem? h, ?_⟩
      exact mem_linksFor.mpr ⟨source, target, hs, ht, hn, List.mem_map.mpr ⟨(s, t), hzip, rfl⟩⟩
    obtain ⟨l, hl, hsame⟩ := foldl_addLink_represents b.relationships hmem
    obtain ⟨h1, h2, h3, h4⟩ := (sameLink_iff l _).mp hsame
    rw [finish_eq]
    exact ⟨l, hl, h1, h2, h3, h4⟩
  · obtain ⟨ws, xs, ys, zs, hb, hw⟩ := finish_warnings_split h
    rw [hb, hw]
    simp [arityWarning?, droppedWarning?, he, hn]

theorem mismatchedAt {b : Builder} {p : Nat} {k : PendingKey} {source target : Table}
    (h : b.pending[p]? = some k) (hs : b.Resolves k.source source)
    (ht : b.Resolves k.target target)
    (hn : (k.referenced target).length ≠ k.sourceColumns.length) : b.MismatchedAt p k := by
  have he := ends?_eq_some hs ht
  refine ⟨source, target, hs, ht, hn, ?_, ?_⟩
  · exact finish_relationships_without h (by simp [linksFor, he, hn])
  · obtain ⟨ws, xs, ys, zs, hb, hw⟩ := finish_warnings_split h
    refine ⟨ws, xs ++ ys ++ zs, by simp [hw], ?_⟩
    rw [hb]
    simp [arityWarning?, droppedWarning?, he, hn]

theorem droppedAt {b : Builder} {p : Nat} {k : PendingKey} (h : b.pending[p]? = some k)
    (hn : b.lookupExact? k.source = none ∨ b.lookupExact? k.target = none) :
    b.DroppedAt p k := by
  have he := ends?_eq_none hn
  refine ⟨hn, ?_, ?_⟩
  · exact finish_relationships_without h (by simp [linksFor, he])
  · obtain ⟨ws, xs, ys, zs, hb, hw⟩ := finish_warnings_split h
    refine ⟨ws ++ xs ++ ys, zs, hw, ?_⟩
    rw [hb]
    simp [arityWarning?, droppedWarning?, he]

/-- The three fates of a key exclude each other. -/
theorem not_linked_of_mismatched {b : Builder} {p : Nat} {k : PendingKey}
    (h : b.MismatchedAt p k) : ¬ b.LinkedAt p k := by
  obtain ⟨source, target, hs, ht, hn, _⟩ := h
  rintro ⟨source', target', hs', ht', hn', _⟩
  rw [resolves_unique ht' ht] at hn'
  exact hn hn'

theorem not_dropped_of_resolves {b : Builder} {p : Nat} {k : PendingKey} {source target : Table}
    (hs : b.Resolves k.source source) (ht : b.Resolves k.target target) :
    ¬ b.DroppedAt p k := by
  rintro ⟨hn | hn, _⟩
  · exact not_resolves_of_none hn hs
  · exact not_resolves_of_none hn ht

/-- A key makes a link: the link joins two columns of the key, one by one, and carries the
identifiers, names and schemas of the tables that the key means. -/
def Makes (b : Builder) (k : PendingKey) (l : ForeignKey) : Prop :=
  ∃ source ∈ b.tables, ∃ target ∈ b.tables,
    b.Resolves k.source source ∧ b.Resolves k.target target ∧
    ∃ (n : Nat) (s t : String), k.sourceColumns[n]? = some s ∧ (k.referenced target)[n]? = some t ∧
      l = { name := k.name, sourceTable := source.name, sourceSchema := source.schema,
            sourceTableId := source.id, sourceColumn := s, targetTable := target.name,
            targetSchema := target.schema, targetTableId := target.id, targetColumn := t,
            updateAction := k.onUpdate, deleteAction := k.onDelete }

theorem makes_of_mem_linksFor {b : Builder} {k : PendingKey} {l : ForeignKey}
    (h : l ∈ b.linksFor k) : b.Makes k l := by
  obtain ⟨source, target, hs, ht, _, h⟩ := mem_linksFor.mp h
  obtain ⟨⟨s, t⟩, hst, rfl⟩ := List.mem_map.mp h
  obtain ⟨n, hn⟩ := List.mem_iff_getElem?.mp hst
  obtain ⟨hsn, htn⟩ := List.getElem?_zip_eq_some.mp hn
  obtain ⟨_, _, hsource⟩ := id hs
  obtain ⟨_, _, htarget⟩ := id ht
  exact ⟨source, List.mem_of_getElem? hsource, target, List.mem_of_getElem? htarget, hs, ht,
    n, s, t, hsn, htn, rfl⟩

/-- Each key in the line is linked, or mismatched, or dropped, and only one of these; each link
of the finished schema is made by a key in the line; and no link is there twice. -/
theorem every_pending_key_is_settled_once (b : Builder) (h : b.Reached) :
    (∀ p k, b.pending[p]? = some k →
      (b.LinkedAt p k ∧ ¬ b.MismatchedAt p k ∧ ¬ b.DroppedAt p k) ∨
      (¬ b.LinkedAt p k ∧ b.MismatchedAt p k ∧ ¬ b.DroppedAt p k) ∨
      (¬ b.LinkedAt p k ∧ ¬ b.MismatchedAt p k ∧ b.DroppedAt p k)) ∧
    (∀ l ∈ b.finish.relationships, ∃ k ∈ b.pending, b.Makes k l) ∧
    Distinct b.finish.relationships := by
  refine ⟨?_, ?_, ?_⟩
  · intro p k hk
    by_cases hn : b.lookupExact? k.source = none ∨ b.lookupExact? k.target = none
    · have hd := droppedAt hk hn
      refine Or.inr (Or.inr ⟨?_, ?_, hd⟩)
      · rintro ⟨source, target, hs, ht, _⟩
        exact not_dropped_of_resolves hs ht hd
      · rintro ⟨source, target, hs, ht, _⟩
        exact not_dropped_of_resolves hs ht hd
    · rw [not_or] at hn
      obtain ⟨source, hs⟩ := (b.resolves_or_none k.source).resolve_right hn.1
      obtain ⟨target, ht⟩ := (b.resolves_or_none k.target).resolve_right hn.2
      have hd : ¬ b.DroppedAt p k := not_dropped_of_resolves hs ht
      by_cases hc : (k.referenced target).length = k.sourceColumns.length
      · have hl := linkedAt hk hs ht hc
        exact Or.inl ⟨hl, fun hm => not_linked_of_mismatched hm hl, hd⟩
      · have hm := mismatchedAt hk hs ht hc
        exact Or.inr (Or.inl ⟨not_linked_of_mismatched hm, hm, hd⟩)
  · intro l hl
    rw [finish_eq, h.relationships_eq_nil] at hl
    rcases mem_of_mem_foldl_addLink hl with hl | hl
    · cases hl
    · obtain ⟨k, hk, hl⟩ := List.mem_flatMap.mp hl
      exact ⟨k, hk, makes_of_mem_linksFor hl⟩
  · rw [finish_eq, h.relationships_eq_nil]
    exact distinct_foldl_addLink _ List.Pairwise.nil

/-- A table with a key to one that comes behind it, spelled in other letters, and a key to a table
that never comes. -/
def twoKeys : Builder :=
  let orders : Table :=
    { name := "orders", schema := none, columns := [{ name := "user_id", type := "int" }] }
  let users : Table :=
    { name := "users", schema := some "public", columns := [{ name := "id", type := "int" }] }
  let b := (({ dialect := .postgresql } : Builder).addTable orders).2.apply 0
    (.foreignKey none ["user_id"] ⟨"Users", none⟩ ["ID"] none none)
  (b.addTable users).2.queueKey ⟨"ghost", orders.ref, ["user_id"], ⟨"ghosts", none⟩, [], none, none⟩

theorem twoKeys_settled_once :
    twoKeys.Reached ∧ twoKeys.pending.length = 2 ∧
    (∀ p k, twoKeys.pending[p]? = some k →
      (twoKeys.LinkedAt p k ∧ ¬ twoKeys.MismatchedAt p k ∧ ¬ twoKeys.DroppedAt p k) ∨
      (¬ twoKeys.LinkedAt p k ∧ twoKeys.MismatchedAt p k ∧ ¬ twoKeys.DroppedAt p k) ∨
      (¬ twoKeys.LinkedAt p k ∧ ¬ twoKeys.MismatchedAt p k ∧ twoKeys.DroppedAt p k)) ∧
    (∀ l ∈ twoKeys.finish.relationships, ∃ k ∈ twoKeys.pending, twoKeys.Makes k l) ∧
    Distinct twoKeys.finish.relationships := by
  have h : twoKeys.Reached := .queueKey _ (.addTable _ (.apply _ _ (.addTable _ (.start _))))
  exact ⟨h, by decide, every_pending_key_is_settled_once twoKeys h⟩

end Builder

end SchemaChart.Schema
