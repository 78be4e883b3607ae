import RtsNotebook.Library.OrderedMap

/-!
# Maps with a change flag

A loop that writes entries into a map and notes whether it has written any.
Two rules reduce the loop to its step.  `read_foldl` reads one key after a loop
over entries with distinct keys, where the step for an entry writes under the
entry's key alone, whatever the state of the loop is.  `Reports.foldl` says that a loop which leaves the flag down
has left the map as it was.
-/

namespace RtsNotebook.Library

/-- A loop over the entries of a map, where the step for an entry changes what
is read under its own key alone: a key that has an entry is updated once, and
the others keep their value. -/
theorem OrderedMap.read_foldl {Key Value Item State : Type*}
    [DecidableEq Key] (items : OrderedMap Key Item)
    (read : State → Key → Option Value)
    {step : State → Key × Item → State}
    (update : Key → Item → Option Value → Option Value)
    (own : ∀ state key item,
      read (step state (key, item)) key = update key item (read state key))
    (frame : ∀ state key item other, other ≠ key →
      read (step state (key, item)) other = read state other)
    (state : State) (key : Key) :
    read (items.entries.foldl step state) key =
      (items.get key).elim (read state key) fun item =>
        update key item (read state key) := by
  obtain ⟨entries, distinct⟩ := items
  rw [OrderedMap.get]
  induction entries generalizing state with
  | nil =>
      rfl
  | cons entry rest inductionHypothesis =>
      obtain ⟨entryKey, item⟩ := entry
      rw [List.map_cons, List.nodup_cons] at distinct
      rw [List.foldl_cons, inductionHypothesis _ distinct.2]
      by_cases same : key = entryKey
      · subst same
        have absent : rest.lookup key = none := by
          rw [List.lookup_eq_none_iff]
          intro other member
          have different : other.1 ≠ key := fun equal =>
            distinct.1 (List.mem_map.mpr ⟨other, member, equal⟩)
          simpa using Ne.symm different
        rw [absent, List.lookup_cons_self]
        exact own state key item
      · have unequal : (key == entryKey) = false := by
          simpa using same
        rw [List.lookup_cons, unequal, frame state entryKey item key same]

/-- A map, and whether it has been written to. -/
structure TrackedMap (Key Value : Type*) where
  map : OrderedMap Key Value
  changed : Bool

namespace TrackedMap

variable {Key Value Item : Type*}

/-- A map before the loop. -/
def start (map : OrderedMap Key Value) : TrackedMap Key Value where
  map := map
  changed := false

/-- A step either leaves everything as it is or raises the flag. -/
def Reports (step : TrackedMap Key Value → Item → TrackedMap Key Value) :
    Prop :=
  ∀ tracked item,
    step tracked item = tracked ∨ (step tracked item).changed = true

theorem Reports.foldl
    {step : TrackedMap Key Value → Item → TrackedMap Key Value}
    (reports : Reports step) (items : List Item)
    (tracked : TrackedMap Key Value) :
    items.foldl step tracked = tracked ∨
      (items.foldl step tracked).changed = true := by
  induction items generalizing tracked with
  | nil =>
      exact Or.inl rfl
  | cons item items inductionHypothesis =>
      rw [List.foldl_cons]
      rcases reports tracked item with same | raised
      · rw [same]
        exact inductionHypothesis tracked
      · rcases inductionHypothesis (step tracked item) with rest | rest
        · rw [rest]
          exact Or.inr raised
        · exact Or.inr rest

variable [DecidableEq Key]

def get (tracked : TrackedMap Key Value) (key : Key) : Option Value :=
  tracked.map.get key

def set (tracked : TrackedMap Key Value) (key : Key) (value : Value) :
    TrackedMap Key Value where
  map := tracked.map.set key value
  changed := true

def delete (tracked : TrackedMap Key Value) (key : Key) :
    TrackedMap Key Value where
  map := tracked.map.delete key
  changed := true

@[simp]
theorem get_start (map : OrderedMap Key Value) (key : Key) :
    (start map).get key = map.get key := rfl

@[simp]
theorem get_set (tracked : TrackedMap Key Value) (key other : Key)
    (value : Value) :
    (tracked.set key value).get other =
      if other = key then some value else tracked.get other :=
  OrderedMap.get_set tracked.map key other value

@[simp]
theorem get_delete (tracked : TrackedMap Key Value) (key other : Key) :
    (tracked.delete key).get other =
      if other = key then none else tracked.get other :=
  OrderedMap.get_delete tracked.map key other

/-- A loop over entries with distinct keys, where the step for an entry writes
under its own key alone: a key that has an entry is updated once, and the
others keep their value. -/
theorem get_foldl
    {step : TrackedMap Key Value → Key × Item → TrackedMap Key Value}
    {update : Key → Item → Option Value → Option Value}
    (own : ∀ tracked key item,
      (step tracked (key, item)).get key = update key item (tracked.get key))
    (frame : ∀ tracked key item other, other ≠ key →
      (step tracked (key, item)).get other = tracked.get other)
    (items : OrderedMap Key Item) (tracked : TrackedMap Key Value)
    (key : Key) :
    (items.entries.foldl step tracked).get key =
      (items.get key).elim (tracked.get key) fun item =>
        update key item (tracked.get key) :=
  items.read_foldl get update own frame tracked key

/-! ### Deleting keys -/

/-- One round of `retain`. -/
def drop (keep : Key → Bool) (tracked : TrackedMap Key Value) (key : Key) :
    TrackedMap Key Value :=
  if keep key then tracked else tracked.delete key

/-- Delete the keys that are not kept, one after the other. -/
def retain (tracked : TrackedMap Key Value) (keep : Key → Bool) :
    TrackedMap Key Value :=
  (tracked.map.entries.map Prod.fst).foldl (drop keep) tracked

theorem drop_reports (keep : Key → Bool) :
    Reports (drop keep : TrackedMap Key Value → Key → TrackedMap Key Value) := by
  intro tracked key
  rw [drop]
  split
  · exact Or.inl rfl
  · exact Or.inr rfl

theorem retain_reports (tracked : TrackedMap Key Value) (keep : Key → Bool) :
    tracked.retain keep = tracked ∨ (tracked.retain keep).changed = true :=
  (drop_reports keep).foldl (tracked.map.entries.map Prod.fst) tracked

theorem get_drop (keep : Key → Bool) (tracked : TrackedMap Key Value)
    (dropped key : Key) :
    (drop keep tracked dropped).get key =
      if key = dropped ∧ keep key = false then none else tracked.get key := by
  unfold drop
  by_cases same : key = dropped
  · subst same
    cases keep key <;> simp
  · cases keep dropped <;> simp [same]

theorem get_foldl_drop (keep : Key → Bool) (keys : List Key)
    (tracked : TrackedMap Key Value) (key : Key) :
    (keys.foldl (drop keep) tracked).get key =
      if key ∈ keys ∧ keep key = false then none else tracked.get key := by
  induction keys generalizing tracked with
  | nil =>
      simp
  | cons first keys inductionHypothesis =>
      rw [List.foldl_cons, inductionHypothesis, get_drop]
      cases keep key <;> by_cases member : key ∈ keys <;>
        by_cases same : key = first <;> simp_all

theorem get_retain (tracked : TrackedMap Key Value) (keep : Key → Bool)
    (key : Key) :
    (tracked.retain keep).get key =
      if keep key then tracked.get key else none := by
  rw [retain, get_foldl_drop]
  cases kept : keep key with
  | true =>
      simp
  | false =>
      cases found : tracked.get key with
      | none =>
          simp
      | some value =>
          have present : key ∈ tracked.map.entries.map Prod.fst :=
            List.mem_map.mpr ⟨(key, value),
              (OrderedMap.mem_entries_iff _ key value).mpr found, rfl⟩
          simp [present]

end TrackedMap

end RtsNotebook.Library
