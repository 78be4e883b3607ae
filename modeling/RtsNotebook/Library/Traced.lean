import Mathlib.Data.List.Basic

/-!
# Computations that leave effects

A computation leaves a list of effects, in order, and then returns a value or
raises a fault.  What it has left stays when it raises.
-/

namespace RtsNotebook.Library

structure Traced (Effect Fault Value : Type) where
  effects : List Effect
  outcome : Except Fault Value

namespace Traced

variable {Effect Fault Value Result : Type}

/-- A computation without effects. -/
def lift (call : Except Fault Value) : Traced Effect Fault Value :=
  ⟨[], call⟩

def raise (fault : Fault) : Traced Effect Fault Value :=
  lift (.error fault)

def emit (effect : Effect) : Traced Effect Fault Unit :=
  ⟨[effect], .ok ()⟩

/-- The first computation, and the second one unless the first raises. -/
def andThen (first : Traced Effect Fault Value)
    (second : Value → Traced Effect Fault Result) :
    Traced Effect Fault Result :=
  match first.outcome with
  | .error fault => ⟨first.effects, .error fault⟩
  | .ok value =>
      ⟨first.effects ++ (second value).effects, (second value).outcome⟩

instance : Monad (Traced Effect Fault) where
  pure value := lift (.ok value)
  bind := andThen

/-- The effects of a block that runs however the computation ends. -/
def ensure (traced : Traced Effect Fault Value) (last : List Effect) :
    Traced Effect Fault Value :=
  ⟨traced.effects ++ last, traced.outcome⟩

@[simp]
theorem effects_lift (call : Except Fault Value) :
    (lift call : Traced Effect Fault Value).effects = [] :=
  rfl

@[simp]
theorem outcome_lift (call : Except Fault Value) :
    (lift call : Traced Effect Fault Value).outcome = call :=
  rfl

/-- The first computation raises, or both run. -/
theorem bind_cases (first : Traced Effect Fault Value)
    (second : Value → Traced Effect Fault Result) :
    (∃ fault, first.outcome = .error fault ∧
      (first >>= second) = ⟨first.effects, .error fault⟩) ∨
    ∃ value, first.outcome = .ok value ∧
      (first >>= second) =
        ⟨first.effects ++ (second value).effects,
          (second value).outcome⟩ := by
  show (∃ fault, _ ∧ andThen first second = _) ∨
    ∃ value, _ ∧ andThen first second = _
  rw [andThen]
  cases first.outcome with
  | error fault => exact Or.inl ⟨fault, rfl, rfl⟩
  | ok value => exact Or.inr ⟨value, rfl, rfl⟩

theorem lift_bind (call : Except Fault Value)
    (second : Value → Traced Effect Fault Result) :
    (lift call >>= second) =
      match call with
      | .error fault => lift (.error fault)
      | .ok value => second value := by
  cases call <;> rfl

/-! ### What a computation leaves and returns -/

/-- Each effect that is left satisfies the condition. -/
def Leaves (condition : Effect → Prop)
    (traced : Traced Effect Fault Value) : Prop :=
  ∀ effect ∈ traced.effects, condition effect

/-- A value that is returned satisfies the condition. -/
def Returns (condition : Value → Prop)
    (traced : Traced Effect Fault Value) : Prop :=
  ∀ value, traced.outcome = .ok value → condition value

variable {condition : Effect → Prop}

theorem leaves_lift (call : Except Fault Value) :
    Leaves condition (lift call : Traced Effect Fault Value) :=
  fun _ member => (nomatch member)

theorem leaves_emit {effect : Effect} (holds : condition effect) :
    Leaves condition (emit effect : Traced Effect Fault Unit) := by
  intro found member
  rw [List.mem_singleton.mp member]
  exact holds

theorem Leaves.bind {first : Traced Effect Fault Value}
    {second : Value → Traced Effect Fault Result}
    (firstLeaves : first.Leaves condition)
    (secondLeaves : ∀ value, (second value).Leaves condition) :
    (first >>= second).Leaves condition := by
  rcases bind_cases first second with
    ⟨fault, _, bound⟩ | ⟨value, _, bound⟩
  · rw [bound]
    exact firstLeaves
  · rw [bound]
    intro effect member
    rcases List.mem_append.mp member with earlier | later
    · exact firstLeaves effect earlier
    · exact secondLeaves value effect later

theorem Leaves.ensure {traced : Traced Effect Fault Value}
    {last : List Effect} (leaves : traced.Leaves condition)
    (lastLeaves : ∀ effect ∈ last, condition effect) :
    (traced.ensure last).Leaves condition := by
  intro effect member
  rcases List.mem_append.mp member with earlier | later
  · exact leaves effect earlier
  · exact lastLeaves effect later

theorem Returns.bind {first : Traced Effect Fault Value}
    {second : Value → Traced Effect Fault Result}
    {condition : Value → Prop} {secondCondition : Result → Prop}
    (firstReturns : first.Returns condition)
    (secondReturns : ∀ value, condition value →
      (second value).Returns secondCondition) :
    (first >>= second).Returns secondCondition := by
  intro result returned
  rcases bind_cases first second with
    ⟨fault, _, bound⟩ | ⟨value, isValue, bound⟩
  · rw [bound] at returned
    cases returned
  · rw [bound] at returned
    exact secondReturns value (firstReturns value isValue) result returned

theorem returns_all (traced : Traced Effect Fault Value) :
    traced.Returns fun _ => True :=
  fun _ _ => trivial

/-- Effects of one kind are none where each effect is of another. -/
theorem Leaves.filter_eq_nil {traced : Traced Effect Fault Value}
    {kind : Effect → Bool}
    (leaves : traced.Leaves fun effect => kind effect = false) :
    traced.effects.filter kind = [] :=
  List.filter_eq_nil_iff.mpr fun effect member => by
    rw [leaves effect member]
    exact Bool.false_ne_true

end Traced

end RtsNotebook.Library
