import Mathlib.Data.List.Basic

/-!
# Calls that pass their checks

A call that can fail, and the checks that its steps make.  Calls in sequence
end well if and only if the checks of each pass, where the checks behind a call
are made if it returns.
-/

namespace RtsNotebook.Library

variable {Fault First Result Check : Type} {good : Result → Prop}

/-- The call returns something good. -/
def EndsIn (good : Result → Prop) (call : Except Fault Result) : Prop :=
  ∃ result, call = .ok result ∧ good result

def Returns (call : Except Fault Result) : Prop :=
  EndsIn (fun _ => True) call

/-- The checks behind a call, where it returns. -/
def after (call : Except Fault Result) (checks : Result → List Check) :
    List Check :=
  match call with
  | .error _ => []
  | .ok result => checks result

def AllPass (passes : Check → Bool) (checks : List Check) : Prop :=
  ∀ check ∈ checks, passes check = true

/-! ### Calls -/

theorem endsIn_ok (result : Result) :
    EndsIn good (Except.ok result : Except Fault Result) ↔ good result := by
  constructor
  · rintro ⟨other, same, isGood⟩
    cases same
    exact isGood
  · intro isGood
    exact ⟨result, rfl, isGood⟩

@[simp]
theorem not_endsIn_error (fault : Fault) :
    ¬ EndsIn good (Except.error fault) := by
  rintro ⟨result, same, _⟩
  cases same

@[simp]
theorem returns_ok (result : Result) :
    Returns (Except.ok result : Except Fault Result) :=
  ⟨result, rfl, trivial⟩

@[simp]
theorem not_returns_error (fault : Fault) :
    ¬ Returns (Except.error fault : Except Fault Result) :=
  not_endsIn_error fault

section

variable {first : Except Fault First} {rest : First → Except Fault Result}

theorem endsIn_bind :
    EndsIn good (first >>= rest) ↔
      ∃ value, first = .ok value ∧ EndsIn good (rest value) := by
  cases first with
  | error fault =>
      constructor
      · rintro ⟨result, same, _⟩
        cases same
      · rintro ⟨value, same, _⟩
        cases same
  | ok value =>
      constructor
      · intro ends
        exact ⟨value, rfl, ends⟩
      · rintro ⟨other, same, ends⟩
        cases same
        exact ends

theorem not_endsIn_bind (fails : ¬ Returns first) :
    ¬ EndsIn good (first >>= rest) := by
  rw [endsIn_bind]
  rintro ⟨value, returned, _⟩
  exact fails ⟨value, returned, trivial⟩

/-- How the rest ends does not depend on what the first call returns. -/
theorem endsIn_then {ends : Prop}
    (endsRest : ∀ value, EndsIn good (rest value) ↔ ends) :
    EndsIn good (first >>= rest) ↔ Returns first ∧ ends := by
  rw [endsIn_bind]
  constructor
  · rintro ⟨value, returned, endsValue⟩
    exact ⟨⟨value, returned, trivial⟩, (endsRest value).mp endsValue⟩
  · rintro ⟨⟨value, returned, _⟩, holds⟩
    exact ⟨value, returned, (endsRest value).mpr holds⟩

theorem returns_then (returnsRest : ∀ value, Returns (rest value)) :
    Returns (first >>= rest) ↔ Returns first := by
  have ends := @endsIn_then Fault First Result (fun _ => True) first rest True
    fun value => iff_true_intro (returnsRest value)
  exact ends.trans (and_iff_left trivial)

end

/-! ### Checks -/

section

variable {passes : Check → Bool}

@[simp]
theorem allPass_nil : AllPass passes [] :=
  List.forall_mem_nil _

theorem allPass_single (passes : Check → Bool) (check : Check) :
    AllPass passes [check] ↔ passes check = true :=
  List.forall_mem_singleton

theorem allPass_cons (check : Check) (checks : List Check) :
    AllPass passes (check :: checks) ↔
      passes check = true ∧ AllPass passes checks :=
  List.forall_mem_cons

/-- Calls in sequence end well where each passes its checks. -/
theorem endsIn_after {first : Except Fault First}
    {rest : First → Except Fault Result} {checks : List Check}
    {others : First → List Check}
    (returnsFirst : Returns first ↔ AllPass passes checks)
    (endsRest : ∀ value, first = .ok value →
      (EndsIn good (rest value) ↔ AllPass passes (others value))) :
    EndsIn good (first >>= rest) ↔
      AllPass passes (checks ++ after first others) := by
  rw [AllPass, List.forall_mem_append, endsIn_bind]
  refine Iff.trans ?_ (and_congr_left' returnsFirst)
  cases first with
  | error fault =>
      constructor
      · rintro ⟨value, same, _⟩
        cases same
      · rintro ⟨returned, _⟩
        exact absurd returned (not_returns_error fault)
  | ok value =>
      rw [and_iff_right (returns_ok value)]
      have ends := endsRest value rfl
      constructor
      · rintro ⟨other, same, endsOther⟩
        cases same
        exact ends.mp endsOther
      · intro passesRest
        exact ⟨value, rfl, ends.mpr passesRest⟩

end

end RtsNotebook.Library
