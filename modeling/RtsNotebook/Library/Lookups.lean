import Mathlib.Data.List.Basic

/-!
# Lookups in a list of entries
-/

namespace RtsNotebook.Library

variable {Key Value : Type*} [BEq Key] [LawfulBEq Key] [DecidableEq Key]

theorem lookup_cons_eq (key : Key) (entry : Key × Value)
    (rest : List (Key × Value)) :
    (entry :: rest).lookup key =
      if key = entry.1 then some entry.2 else rest.lookup key := by
  obtain ⟨name, held⟩ := entry
  rw [List.lookup_cons]
  by_cases same : key = name
  · simp [same]
  · simp [beq_false_of_ne same, same]

/-- A lookup among the properties that are picked from a value. -/
theorem lookup_pick (property : Key → Option Value) (keys : List Key)
    (key : Key) :
    (keys.filterMap fun picked =>
        (property picked).map fun value => (picked, value)).lookup key =
      if key ∈ keys then property key else none := by
  induction keys with
  | nil =>
      rfl
  | cons picked rest inductionHypothesis =>
      by_cases same : key = picked
      · subst same
        rw [if_pos List.mem_cons_self]
        cases held : property key with
        | some value =>
            rw [List.filterMap_cons_some (by rw [held]; rfl), lookup_cons_eq,
              if_pos rfl]
        | none =>
            rw [List.filterMap_cons_none (by rw [held]; rfl),
              inductionHypothesis, held, ite_self]
      · simp only [List.mem_cons, same, false_or, ← inductionHypothesis]
        cases held : property picked with
        | some value =>
            rw [List.filterMap_cons_some (by rw [held]; rfl), lookup_cons_eq,
              if_neg same]
        | none =>
            rw [List.filterMap_cons_none (by rw [held]; rfl)]

end RtsNotebook.Library
