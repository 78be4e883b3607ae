import Mathlib.Data.List.Count

/-!
# Iterating a live array

A loop over an array by index calls each item it meets, and an item may remove
itself from the array and may throw while it is called.  The items behind a
removed one move up, so the loop passes over the next of them.  In a guarded
loop an exception is caught, and in any other it ends the loop.

Every item is called exactly once precisely where no item but the last removes
itself or throws uncaught.
-/

namespace RtsNotebook.Library.LiveArray

variable {Item : Type*} [DecidableEq Item]

/-- What an item does while it is called. -/
structure Reaction where
  disposes : Bool
  throws : Bool
  deriving DecidableEq, Repr

/-- The array after the loop, the calls in order, and whether an exception has
left the loop. -/
structure Pass (Item : Type*) where
  array : List Item
  called : List Item
  threw : Bool

/-- What an item does may depend on the calls made before its own. -/
abbrev Behaviour (Item : Type*) := List Item → Item → Reaction

/-- The array once an item has been called. -/
def after (reaction : Reaction) (item : Item) (array : List Item) :
    List Item :=
  if reaction.disposes then array.erase item else array

theorem length_after_le (reaction : Reaction) (item : Item)
    (array : List Item) : (after reaction item array).length ≤ array.length := by
  unfold after
  split
  · exact List.length_erase_le
  · exact Nat.le_refl _

/-- The loop, from an index on. -/
def forOf (guarded : Bool) (behave : Behaviour Item) (array : List Item)
    (index : Nat) (called : List Item) : Pass Item :=
  match found : array[index]? with
  | none => { array := array, called := called, threw := false }
  | some item =>
      let reaction := behave called item
      if !guarded && reaction.throws then
        { array := after reaction item array
          called := called ++ [item]
          threw := true }
      else
        have : index < array.length :=
          (List.getElem?_eq_some_iff.mp found).1
        have := length_after_le (behave called item) item array
        forOf guarded behave (after reaction item array) (index + 1)
          (called ++ [item])
termination_by array.length - index

/-- The loop over the whole array. -/
def forEach (guarded : Bool) (behave : Behaviour Item) (array : List Item) :
    Pass Item :=
  forOf guarded behave array 0 []

/-! ### One round -/

variable {guarded : Bool} {behave : Behaviour Item}

theorem forOf_end {array called : List Item} {index : Nat}
    (past : array.length ≤ index) :
    forOf guarded behave array index called =
      { array := array, called := called, threw := false } := by
  rw [forOf]
  split
  · rfl
  · rename_i found
    have bound := (List.getElem?_eq_some_iff.mp found).1
    omega

theorem forOf_item {array called : List Item} {index : Nat} {item : Item}
    (found : array[index]? = some item) :
    forOf guarded behave array index called =
      if !guarded && (behave called item).throws then
        { array := after (behave called item) item array
          called := called ++ [item]
          threw := true }
      else
        forOf guarded behave (after (behave called item) item array)
          (index + 1) (called ++ [item]) := by
  rw [forOf]
  split
  · rename_i nothing
    rw [found] at nothing
    cases nothing
  · rename_i other isOther
    rw [found] at isOther
    cases isOther
    rfl

theorem length_called_le (guarded : Bool) (behave : Behaviour Item)
    (array : List Item) (index : Nat) (called : List Item) :
    (forOf guarded behave array index called).called.length ≤
      called.length + (array.length - index) := by
  cases found : array[index]? with
  | none =>
      have past : array.length ≤ index := List.getElem?_eq_none_iff.mp found
      rw [forOf_end past]
      exact Nat.le_add_right _ _
  | some item =>
      have bound : index < array.length :=
        (List.getElem?_eq_some_iff.mp found).1
      rw [forOf_item found]
      split
      · rw [List.length_append, List.length_singleton]
        omega
      · have shrinks := length_after_le (behave called item) item array
        have rest := length_called_le guarded behave
          (after (behave called item) item array) (index + 1)
          (called ++ [item])
        rw [List.length_append, List.length_singleton] at rest
        omega
termination_by array.length - index

/-! ### The exact condition -/

/-- Every item is called as often as it stands in the array. -/
def CalledOnceEach (array called : List Item) : Prop :=
  ∀ item, called.count item = array.count item

/-- What an item does that leaves the loop as it is. -/
def Quiet (guarded : Bool) (reaction : Reaction) : Prop :=
  reaction.disposes = false ∧ (guarded = true ∨ reaction.throws = false)

/-- Of the items that are still to be called, each that another one follows is
quiet. -/
def UndisturbedFrom (guarded : Bool) (behave : Behaviour Item)
    (before rest : List Item) : Prop :=
  ∀ middle item behind, rest = middle ++ item :: behind → behind ≠ [] →
    Quiet guarded (behave (before ++ middle) item)

/-- An item that another one follows neither removes itself nor throws
uncaught. -/
def Undisturbed (guarded : Bool) (behave : Behaviour Item)
    (array : List Item) : Prop :=
  UndisturbedFrom guarded behave [] array

/-- The last item throws uncaught. -/
def LastThrows (guarded : Bool) (behave : Behaviour Item)
    (array : List Item) : Prop :=
  guarded = false ∧ ∃ before item, array = before ++ [item] ∧
    (behave before item).throws = true

omit [DecidableEq Item] in
theorem undisturbedFrom_nil (before : List Item) :
    UndisturbedFrom guarded behave before [] := by
  intro middle item behind parts
  cases middle <;> cases parts

omit [DecidableEq Item] in
theorem undisturbedFrom_singleton (before : List Item) (item : Item) :
    UndisturbedFrom guarded behave before [item] := by
  intro middle other behind parts followed
  cases middle with
  | nil =>
      cases parts
      exact absurd rfl followed
  | cons first middle =>
      injection parts with _ nothing
      cases middle <;> cases nothing

omit [DecidableEq Item] in
theorem undisturbedFrom_cons (before : List Item) (item next : Item)
    (rest : List Item) :
    UndisturbedFrom guarded behave before (item :: next :: rest) ↔
      Quiet guarded (behave before item) ∧
        UndisturbedFrom guarded behave (before ++ [item]) (next :: rest) := by
  constructor
  · intro undisturbed
    have here := undisturbed [] item (next :: rest) rfl (List.cons_ne_nil _ _)
    rw [List.append_nil] at here
    refine ⟨here, fun middle other behind parts followed => ?_⟩
    have there := undisturbed (item :: middle) other behind
      (by rw [parts, List.cons_append]) followed
    rw [List.append_cons] at there
    exact there
  · rintro ⟨here, there⟩ middle other behind parts followed
    cases middle with
    | nil =>
        cases parts
        rw [List.append_nil]
        exact here
    | cons first middle =>
        injection parts with firstEq restEq
        rw [List.append_cons, ← firstEq]
        exact there middle other behind restEq followed

variable {array before : List Item} {item : Item}

omit [DecidableEq Item] in
theorem getElem?_length_append {behind : List Item}
    (parts : array = before ++ item :: behind) :
    array[before.length]? = some item := by
  rw [parts, List.getElem?_append_right (Nat.le_refl _), Nat.sub_self]
  rfl

theorem forOf_quiet {behind : List Item}
    (parts : array = before ++ item :: behind)
    (quiet : Quiet guarded (behave before item)) :
    forOf guarded behave array before.length before =
      forOf guarded behave array (before ++ [item]).length
        (before ++ [item]) := by
  obtain ⟨stays, caught⟩ := quiet
  have noThrow : (!guarded && (behave before item).throws) = false := by
    rcases caught with isGuarded | noThrow
    · rw [isGuarded]
      rfl
    · rw [noThrow, Bool.and_false]
  have unchanged : after (behave before item) item array = array := by
    rw [after, stays]
    rfl
  rw [forOf_item (getElem?_length_append parts), noThrow, unchanged,
    List.length_append, List.length_singleton]
  rfl

/-- An item that is not quiet makes the loop miss one that follows. -/
theorem length_called_lt {behind : List Item}
    (parts : array = before ++ item :: behind) (followed : behind ≠ [])
    (disturbs : ¬ Quiet guarded (behave before item)) :
    (forOf guarded behave array before.length before).called.length <
      array.length := by
  have behindLength : 0 < behind.length := List.length_pos_iff.mpr followed
  have arrayLength : array.length =
      before.length + 1 + behind.length := by
    rw [parts, List.length_append, List.length_cons]
    omega
  rw [forOf_item (getElem?_length_append parts)]
  split
  · rw [List.length_append, List.length_singleton]
    omega
  · rename_i noThrow
    have disposes : (behave before item).disposes = true := by
      by_contra stays
      apply disturbs
      refine ⟨by simpa using stays, ?_⟩
      cases guarded with
      | true => exact Or.inl rfl
      | false => exact Or.inr (by simpa using noThrow)
    have member : item ∈ array := by
      rw [parts]
      exact List.mem_append_right _ List.mem_cons_self
    have shorter : (after (behave before item) item array).length =
        array.length - 1 := by
      rw [after, if_pos disposes, List.length_erase_of_mem member]
    have rest := length_called_le guarded behave
      (after (behave before item) item array) (before.length + 1)
      (before ++ [item])
    rw [List.length_append, List.length_singleton] at rest
    omega

theorem forOf_last (guarded : Bool) (behave : Behaviour Item)
    (parts : array = before ++ [item]) :
    (forOf guarded behave array before.length before).called = array ∧
      (forOf guarded behave array before.length before).threw =
        (!guarded && (behave before item).throws) := by
  rw [forOf_item (getElem?_length_append parts)]
  cases throws : !guarded && (behave before item).throws with
  | true =>
      exact ⟨parts.symm, rfl⟩
  | false =>
      have shrinks := length_after_le (behave before item) item array
      have past : (after (behave before item) item array).length ≤
          before.length + 1 := by
        have arrayLength : array.length = before.length + 1 := by
          rw [parts, List.length_append, List.length_singleton]
        omega
      rw [if_neg Bool.false_ne_true, forOf_end past]
      exact ⟨parts.symm, rfl⟩

/-- A loop that calls as many items as the array holds is not disturbed. -/
theorem undisturbedFrom_of_length (before : List Item) {rest : List Item}
    (parts : array = before ++ rest)
    (complete :
      (forOf guarded behave array before.length before).called.length =
        array.length) :
    UndisturbedFrom guarded behave before rest := by
  induction rest generalizing before with
  | nil =>
      exact undisturbedFrom_nil before
  | cons item behind inductionHypothesis =>
      cases behind with
      | nil =>
          exact undisturbedFrom_singleton before item
      | cons next behind =>
          have quiet : Quiet guarded (behave before item) := by
            by_contra disturbs
            have missed := length_called_lt parts (List.cons_ne_nil _ _)
              disturbs
            omega
          rw [forOf_quiet parts quiet] at complete
          rw [undisturbedFrom_cons]
          exact ⟨quiet, inductionHypothesis (before ++ [item])
            (by rw [parts, ← List.append_cons]) complete⟩

/-- A loop that is not disturbed calls the items in order, and an exception of
the last one is the only one that leaves it. -/
theorem forOf_undisturbed (before : List Item) {rest : List Item}
    (parts : array = before ++ rest)
    (undisturbed : UndisturbedFrom guarded behave before rest) :
    (forOf guarded behave array before.length before).called = array ∧
      ((forOf guarded behave array before.length before).threw = true ↔
        guarded = false ∧ ∃ middle item, rest = middle ++ [item] ∧
          (behave (before ++ middle) item).throws = true) := by
  induction rest generalizing before with
  | nil =>
      rw [List.append_nil] at parts
      rw [parts, forOf_end (Nat.le_refl _)]
      simp
  | cons item behind inductionHypothesis =>
      cases behind with
      | nil =>
          obtain ⟨called, threw⟩ := forOf_last guarded behave parts
          refine ⟨called, ?_⟩
          rw [threw, Bool.and_eq_true, Bool.not_eq_true']
          refine and_congr_right fun _ => ⟨fun throws => ?_, ?_⟩
          · exact ⟨[], item, rfl, by rw [List.append_nil]; exact throws⟩
          · rintro ⟨middle, other, isOnly, throws⟩
            cases middle with
            | nil =>
                cases isOnly
                rw [List.append_nil] at throws
                exact throws
            | cons first middle =>
                injection isOnly with _ nothing
                cases middle <;> cases nothing
      | cons next behind =>
          obtain ⟨quiet, quietRest⟩ :=
            (undisturbedFrom_cons before item next behind).mp undisturbed
          obtain ⟨called, threw⟩ := inductionHypothesis (before ++ [item])
            (by rw [parts, ← List.append_cons]) quietRest
          rw [forOf_quiet parts quiet]
          refine ⟨called, threw.trans (and_congr_right fun _ => ?_)⟩
          constructor
          · rintro ⟨middle, other, restEq, throws⟩
            refine ⟨item :: middle, other, by rw [restEq, List.cons_append],
              ?_⟩
            rw [List.append_cons]
            exact throws
          · rintro ⟨middle, other, restEq, throws⟩
            cases middle with
            | nil =>
                injection restEq with _ nothing
                cases nothing
            | cons first middle =>
                injection restEq with firstEq restEq
                refine ⟨middle, other, restEq, ?_⟩
                rw [List.append_cons, ← firstEq] at throws
                exact throws

/-- Every item is called exactly once precisely where no item but the last
disturbs the loop. -/
theorem calledOnceEach_iff_undisturbed (array : List Item) :
    CalledOnceEach array (forEach guarded behave array).called ↔
      Undisturbed guarded behave array := by
  constructor
  · intro once
    have sameLength : (forEach guarded behave array).called.length =
        array.length :=
      (List.perm_iff_count.mpr once).length_eq
    exact undisturbedFrom_of_length [] rfl sameLength
  · intro undisturbed item
    have called := (forOf_undisturbed [] rfl undisturbed).1
    exact congrArg (List.count item) called

theorem forEach_threw_iff (undisturbed : Undisturbed guarded behave array) :
    (forEach guarded behave array).threw = true ↔
      LastThrows guarded behave array :=
  (forOf_undisturbed [] rfl undisturbed).2

end RtsNotebook.Library.LiveArray
