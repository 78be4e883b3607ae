import RtsNotebook.Library.OrderedMap

/-!
# What a computation writes into a map

The effect of a computation on a map, as a relation: the values that it leaves
at the keys that it writes.  Every other key keeps its value.  The effects of
two computations are composed where their keys are apart, and where the second
one overwrites all that the first one wrote.

A computation that does not read the map overlays it with the values that it
leaves in an empty one.
-/

namespace RtsNotebook.Library

variable {Key Value : Type*} [DecidableEq Key]

/-- The map has the written values, and its old ones elsewhere. -/
structure Updates (written : Key → Value → Prop)
    (before after : OrderedMap Key Value) : Prop where
  present : ∀ key value, written key value → after.get key = some value
  frame : ∀ key, (∀ value, ¬ written key value) →
    after.get key = before.get key

namespace Updates

variable {first second : Key → Value → Prop}
variable {before between after : OrderedMap Key Value}

theorem nothing (map : OrderedMap Key Value) :
    Updates (fun _ _ => False) map map where
  present := fun _ _ written => written.elim
  frame := fun _ _ => rfl

theorem set (map : OrderedMap Key Value) (key : Key) (value : Value) :
    Updates (fun other written => other = key ∧ written = value) map
      (map.set key value) where
  present := by
    rintro other written ⟨rfl, rfl⟩
    exact OrderedMap.get_set_self map other written
  frame := by
    intro other untouched
    exact OrderedMap.get_set_of_ne map value fun same =>
      untouched value ⟨same, rfl⟩

theorem congr (updates : Updates first before after)
    (same : ∀ key value, first key value ↔ second key value) :
    Updates second before after := by
  have equal : first = second := by
    funext key value
    exact propext (same key value)
  rwa [← equal]

/-- Two computations that write keys apart. -/
theorem append
    (earlier : Updates first before between)
    (later : Updates second between after)
    (apart : ∀ key value other, first key value → ¬ second key other) :
    Updates (fun key value => first key value ∨ second key value)
      before after where
  present := by
    intro key value written
    rcases written with byFirst | bySecond
    · rw [later.frame key fun other => apart key value other byFirst]
      exact earlier.present key value byFirst
    · exact later.present key value bySecond
  frame := by
    intro key untouched
    rw [later.frame key fun value written => untouched value (Or.inr written)]
    exact earlier.frame key fun value written =>
      untouched value (Or.inl written)

/-- A computation that writes every key that the one before it wrote. -/
theorem overwrite
    (earlier : Updates first before between)
    (later : Updates second between after)
    (covered : ∀ key value, first key value → ∃ other, second key other) :
    Updates second before after where
  present := later.present
  frame := by
    intro key untouched
    rw [later.frame key untouched]
    apply earlier.frame
    intro value written
    obtain ⟨other, byLater⟩ := covered key value written
    exact untouched other byLater

/-- A map that was empty holds what has been written. -/
theorem get_eq_some_iff
    (updates : Updates first .empty after) (key : Key) (value : Value) :
    after.get key = some value ↔ first key value := by
  constructor
  · intro found
    by_contra absent
    have untouched : ∀ other, ¬ first key other := by
      intro other written
      have present := updates.present key other written
      rw [found] at present
      cases present
      exact absent written
    rw [updates.frame key untouched, OrderedMap.get_empty] at found
    cases found
  · exact updates.present key value

end Updates

/-! ### Overlays -/

/-- The computation writes the same values into every map: what it leaves in
an empty one, over what is there. -/
def Overlays (write : OrderedMap Key Value → OrderedMap Key Value) : Prop :=
  ∀ map key, (write map).get key = ((write .empty).get key).or (map.get key)

namespace Overlays

variable {first second : OrderedMap Key Value → OrderedMap Key Value}

theorem nothing : Overlays (fun map : OrderedMap Key Value => map) := by
  intro map key
  rw [OrderedMap.get_empty, Option.none_or]

theorem set (key : Key) (value : Value) :
    Overlays fun map : OrderedMap Key Value => map.set key value := by
  intro map other
  rw [OrderedMap.get_set, OrderedMap.get_set, OrderedMap.get_empty]
  split
  · rfl
  · rw [Option.none_or]

/-- What the later of two computations leaves in an empty map comes before
what the earlier one leaves there. -/
theorem get_comp (later : Overlays second) (key : Key) :
    (second (first .empty)).get key =
      ((second .empty).get key).or ((first .empty).get key) :=
  later (first .empty) key

theorem comp (earlier : Overlays first) (later : Overlays second) :
    Overlays fun map => second (first map) := by
  intro map key
  rw [later.get_comp, later (first map), earlier map, Option.or_assoc]

end Overlays

end RtsNotebook.Library
