import Mathlib
import FieldQuery.Request

/-!
# Lookup in a request

What is found under a name once a value is put under the same or another one, in any case.
-/

namespace FieldQuery.RequestArguments

theorem lookup_cons_ite (name other : String) (value : Literal) (rest : List (String × Literal)) :
    ((name, value) :: rest).lookup other =
      if other = name then some value else rest.lookup other := by
  rw [List.lookup_cons]
  by_cases h : other = name
  · simp [h]
  · simp [h, beq_false_of_ne h]

theorem lookup_insertEntry (name other : String) (value : Literal)
    (entries : List (String × Literal)) :
    (insertEntry name value entries).lookup other =
      if other = name then some value else entries.lookup other := by
  induction entries with
  | nil => exact lookup_cons_ite name other value []
  | cons entry rest ih =>
    obtain ⟨next, old⟩ := entry
    unfold insertEntry
    split
    · exact lookup_cons_ite name other value _
    · split
      · -- The new value hides the one that it replaces.
        rename_i heq
        rw [lookup_cons_ite, lookup_cons_ite, heq]
        split <;> rfl
      · rename_i hne
        rw [lookup_cons_ite, lookup_cons_ite, ih]
        by_cases h : other = next
        · rw [if_pos h, if_pos h, if_neg (h ▸ Ne.symm hne)]
        · rw [if_neg h, if_neg h]

variable {r : RequestArguments} {name other : String} {value : Literal}

theorem get?_insert :
    (r.insert name value).get? other =
      if Text.toLower other = Text.toLower name then some value else r.get? other :=
  lookup_insertEntry _ _ _ _

theorem get?_insert_self : (r.insert name value).get? name = some value := by
  rw [get?_insert, if_pos rfl]

theorem get?_insert_other (h : Text.toLower other ≠ Text.toLower name) :
    (r.insert name value).get? other = r.get? other := by
  rw [get?_insert, if_neg h]

theorem supplied?_of_get? (h : r.get? name = some value) (hvalue : value.isNull = false) :
    r.supplied? name = some value := by
  rw [supplied?, h, Option.filter_some, hvalue]
  rfl

theorem get?_of_supplied? (h : r.supplied? name = some value) : r.get? name = some value := by
  rw [supplied?, Option.filter_eq_some_iff] at h
  exact h.1

theorem supplied?_congr {s : RequestArguments} (h : r.get? name = s.get? name) :
    r.supplied? name = s.supplied? name := by
  rw [supplied?, supplied?, h]

end FieldQuery.RequestArguments
