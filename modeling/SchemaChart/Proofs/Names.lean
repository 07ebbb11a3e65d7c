-- Names up to the case of the letters A to Z, the position that a name has in a list, items that a
-- search cannot miss, and the numbers in identifiers.
import SchemaChart.Schema.Basic

namespace SchemaChart.Text

/-! ## The same name -/

/-- A name with the letters A to Z in lower case. -/
def foldName (s : String) : List Char := s.toList.map Char.toLower

theorem sameName_iff (a b : String) : sameName a b = true ↔ foldName a = foldName b := by
  simp [sameName, eqIgnoringCase, foldName]

@[simp] theorem sameName_refl (a : String) : sameName a a = true := by
  simp [sameName_iff]

theorem sameName_symm {a b : String} (h : sameName a b = true) : sameName b a = true := by
  rw [sameName_iff] at h ⊢
  exact h.symm

theorem sameName_trans {a b c : String} (h : sameName a b = true) (h' : sameName b c = true) :
    sameName a c = true := by
  rw [sameName_iff] at h h' ⊢
  exact h.trans h'

end SchemaChart.Text

namespace SchemaChart.Schema

open Text

/-! ## Positions by name -/

/-- A position depends on the names alone. -/
theorem positionByName?_map (nameOf : α → String) (name : String) (items : List α) :
    positionByName? nameOf name items = positionByName? id name (items.map nameOf) := by
  simp [positionByName?, List.findIdx?_map, Function.comp_def]

theorem positionByName?_isSome (nameOf : α → String) (name : String) (items : List α) :
    (positionByName? nameOf name items).isSome = true ↔
      ∃ x ∈ items, sameName (nameOf x) name = true := by
  unfold positionByName?
  rw [Option.orElse_apply, Option.orElse_eq_or, Option.isSome_or, Bool.or_eq_true]
  simp only [List.findIdx?_isSome, List.any_eq_true, beq_iff_eq]
  constructor
  · rintro (⟨x, hx, he⟩ | h)
    · exact ⟨x, hx, by rw [he]; exact sameName_refl name⟩
    · exact h
  · exact Or.inr

/-- The item at the position of a name has that name. -/
theorem positionByName?_eq_some {nameOf : α → String} {name : String} {items : List α} {i : Nat}
    (h : positionByName? nameOf name items = some i) :
    ∃ x, items[i]? = some x ∧ sameName (nameOf x) name = true := by
  unfold positionByName? at h
  rw [Option.orElse_apply, Option.orElse_eq_or, Option.or_eq_some_iff] at h
  rcases h with h | ⟨_, h⟩
  · obtain ⟨hi, he, _⟩ := List.findIdx?_eq_some_iff_getElem.mp h
    rw [beq_iff_eq] at he
    exact ⟨items[i], List.getElem?_eq_getElem hi, by rw [he]; exact sameName_refl name⟩
  · obtain ⟨hi, he, _⟩ := List.findIdx?_eq_some_iff_getElem.mp h
    exact ⟨items[i], List.getElem?_eq_getElem hi, he⟩

namespace Table

/-- A table has a column of this name, up to case. -/
def HasColumn (t : Table) (name : String) : Prop :=
  ∃ c ∈ t.columns, sameName c.name name = true

theorem position?_isSome (t : Table) (name : String) :
    (t.position? name).isSome = true ↔ t.HasColumn name :=
  positionByName?_isSome Column.name name t.columns

theorem column?_isSome (t : Table) (name : String) :
    (t.column? name).isSome = true ↔ t.HasColumn name := by
  rw [← position?_isSome]
  unfold column?
  rcases h : t.position? name with _ | i
  · simp
  · obtain ⟨c, hc, _⟩ := positionByName?_eq_some h
    simp [hc]

theorem column?_isNone (t : Table) (name : String) :
    (t.column? name).isNone = true ↔ ¬ t.HasColumn name := by
  rw [← column?_isSome, Bool.not_eq_true, Option.isSome_eq_false_iff]

end Table

end SchemaChart.Schema

namespace SchemaChart

/-! ## Items that are found -/

theorem find?_eq_of_unique {p : α → Bool} {l : List α} {x : α} (hx : x ∈ l) (hp : p x = true)
    (hu : ∀ y ∈ l, p y = true → y = x) : l.find? p = some x := by
  rcases hf : l.find? p with _ | y
  · exact absurd hp (List.find?_eq_none.mp hf x hx)
  · rw [hu y (List.mem_of_find?_eq_some hf) (List.find?_some hf)]

/-! ## Numbered identifiers -/

theorem eq_of_toString_eq {m n : Nat} (h : toString m = toString n) : m = n := by
  have hdigits : Nat.toDigits 10 m = Nat.toDigits 10 n := by
    simpa [Nat.toString_eq_repr, Nat.repr] using congrArg String.toList h
  rw [← Nat.ofDigitChars_ten_toDigits (n := m), hdigits, Nat.ofDigitChars_ten_toDigits]

/-- The number at its end tells an identifier from the others that begin like it. -/
theorem eq_of_numbered_eq {start : String} {m n : Nat}
    (h : start ++ toString m = start ++ toString n) : m = n :=
  eq_of_toString_eq ((String.append_right_inj start).mp h)

end SchemaChart
