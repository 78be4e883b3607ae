import RtsNotebook.Library.Lookups
import Mathlib.Data.List.Nodup

/-!
# Insertion-ordered maps

A finite map that remembers the order in which its keys were first set, as a
list of entries with distinct keys.  Setting a key that is present replaces
its value in place.  The distinctness of the keys is a field, so every map
that can be built has it.
-/

namespace RtsNotebook.Library

/-- A finite map with its entries in insertion order. -/
structure OrderedMap (Key Value : Type*) where
  entries : List (Key × Value)
  distinct : (entries.map Prod.fst).Nodup

namespace OrderedMap

variable {Key Value : Type*} [DecidableEq Key]

def empty : OrderedMap Key Value where
  entries := []
  distinct := List.nodup_nil

/-- The value of a key, `none` where the key is absent. -/
def get (map : OrderedMap Key Value) (key : Key) : Option Value :=
  map.entries.lookup key

def has (map : OrderedMap Key Value) (key : Key) : Bool :=
  (map.get key).isSome

def size (map : OrderedMap Key Value) : Nat :=
  map.entries.length

def values (map : OrderedMap Key Value) : List Value :=
  map.entries.map Prod.snd

/-- The key of a map of size one. -/
def onlyKey (map : OrderedMap Key Value) : Option Key :=
  match map.entries with
  | [entry] => some entry.1
  | _ => none

/-- Replace the value of a present key in place, else add the key at the
end. -/
def setEntries (key : Key) (value : Value) :
    List (Key × Value) → List (Key × Value)
  | [] => [(key, value)]
  | entry :: rest =>
      if entry.1 = key then
        (key, value) :: rest
      else
        entry :: setEntries key value rest

private theorem mem_keys_setEntries
    (key : Key) (value : Value) (entries : List (Key × Value)) (tested : Key) :
    tested ∈ (setEntries key value entries).map Prod.fst ↔
      tested = key ∨ tested ∈ entries.map Prod.fst := by
  induction entries with
  | nil =>
      simp [setEntries]
  | cons entry rest inductionHypothesis =>
      by_cases same : entry.1 = key
      · simp [setEntries, same]
      · simp only [setEntries, same, if_false, List.map_cons, List.mem_cons,
          inductionHypothesis]
        tauto

private theorem nodup_setEntries
    (key : Key) (value : Value) (entries : List (Key × Value))
    (distinct : (entries.map Prod.fst).Nodup) :
    ((setEntries key value entries).map Prod.fst).Nodup := by
  induction entries with
  | nil =>
      simp [setEntries]
  | cons entry rest inductionHypothesis =>
      rw [List.map_cons, List.nodup_cons] at distinct
      by_cases same : entry.1 = key
      · simpa [setEntries, same] using
          List.nodup_cons.mpr ⟨same ▸ distinct.1, distinct.2⟩
      · rw [setEntries, if_neg same, List.map_cons, List.nodup_cons,
          mem_keys_setEntries, not_or]
        exact ⟨⟨same, distinct.1⟩, inductionHypothesis distinct.2⟩

def set (map : OrderedMap Key Value) (key : Key) (value : Value) :
    OrderedMap Key Value where
  entries := setEntries key value map.entries
  distinct := nodup_setEntries key value map.entries map.distinct

def delete (map : OrderedMap Key Value) (key : Key) :
    OrderedMap Key Value where
  entries := map.entries.filter fun entry => !decide (entry.1 = key)
  distinct := map.distinct.sublist (List.filter_sublist.map Prod.fst)

/-- Delete the first entry that holds the value. -/
def deleteValue [DecidableEq Value]
    (map : OrderedMap Key Value) (value : Value) : OrderedMap Key Value :=
  match map.entries.find? fun entry => entry.2 = value with
  | some entry => map.delete entry.1
  | none => map

@[simp]
theorem get_empty (key : Key) :
    (empty : OrderedMap Key Value).get key = none := rfl

@[simp]
theorem get_set_self
    (map : OrderedMap Key Value) (key : Key) (value : Value) :
    (map.set key value).get key = some value := by
  obtain ⟨entries, distinct⟩ := map
  simp only [get, set]
  clear distinct
  induction entries with
  | nil =>
      simp [setEntries]
  | cons entry rest inductionHypothesis =>
      by_cases same : entry.1 = key
      · simp [setEntries, same]
      · simp [setEntries, lookup_cons_eq, same, Ne.symm same,
          inductionHypothesis]

@[simp]
theorem get_set_of_ne
    (map : OrderedMap Key Value) {key other : Key} (value : Value)
    (different : other ≠ key) :
    (map.set key value).get other = map.get other := by
  obtain ⟨entries, distinct⟩ := map
  simp only [get, set]
  clear distinct
  induction entries with
  | nil =>
      simp [setEntries, lookup_cons_eq, different]
  | cons entry rest inductionHypothesis =>
      by_cases same : entry.1 = key
      · simp [setEntries, lookup_cons_eq, same, different]
      · simp [setEntries, lookup_cons_eq, same, inductionHypothesis]

theorem get_set
    (map : OrderedMap Key Value) (key other : Key) (value : Value) :
    (map.set key value).get other =
      if other = key then some value else map.get other := by
  by_cases same : other = key
  · simp [same]
  · simp [same]

@[simp]
theorem get_delete_self (map : OrderedMap Key Value) (key : Key) :
    (map.delete key).get key = none := by
  rw [get, List.lookup_eq_none_iff]
  intro entry member
  have kept : ¬ entry.1 = key := by
    simpa using (List.mem_filter.mp member).2
  simpa using Ne.symm kept

@[simp]
theorem get_delete_of_ne
    (map : OrderedMap Key Value) {key other : Key}
    (different : other ≠ key) :
    (map.delete key).get other = map.get other := by
  obtain ⟨entries, distinct⟩ := map
  simp only [get, delete]
  clear distinct
  induction entries with
  | nil =>
      rfl
  | cons entry rest inductionHypothesis =>
      by_cases deleted : entry.1 = key
      · simp [lookup_cons_eq, deleted, inductionHypothesis, different]
      · simp [lookup_cons_eq, deleted, inductionHypothesis]

theorem get_delete (map : OrderedMap Key Value) (key other : Key) :
    (map.delete key).get other =
      if other = key then none else map.get other := by
  by_cases same : other = key
  · simp [same]
  · simp [same]

theorem get_foldl_delete_eq_some_iff
    {map : OrderedMap Key Value} {keys : List Key} {key : Key} {value : Value} :
    (keys.foldl delete map).get key = some value ↔
      key ∉ keys ∧ map.get key = some value := by
  induction keys generalizing map with
  | nil =>
      simp
  | cons first rest inductionHypothesis =>
      rw [List.foldl_cons, inductionHypothesis, get_delete,
        Option.ite_none_left_eq_some, List.mem_cons, not_or]
      tauto

/-- Put an entry before the others, in place of one with the same key. -/
def cons (map : OrderedMap Key Value) (key : Key) (value : Value) :
    OrderedMap Key Value where
  entries := (key, value) :: (map.delete key).entries
  distinct := by
    rw [List.map_cons, List.nodup_cons]
    refine ⟨fun member => ?_, (map.delete key).distinct⟩
    obtain ⟨entry, isEntry, keyEq⟩ := List.mem_map.mp member
    have kept : ¬ entry.1 = key := by
      simpa using (List.mem_filter.mp isEntry).2
    exact kept keyEq

theorem get_cons
    (map : OrderedMap Key Value) (key other : Key) (value : Value) :
    (map.cons key value).get other =
      if other = key then some value else map.get other := by
  rw [get, cons, lookup_cons_eq]
  by_cases same : other = key
  · rw [if_pos same, if_pos same]
  · rw [if_neg same, if_neg same]
    exact get_delete_of_ne map same

/-- The map of a list of members, where the first one of a key counts. -/
def ofMembers : List (Key × Value) → OrderedMap Key Value
  | [] => empty
  | member :: rest => (ofMembers rest).cons member.1 member.2

@[simp]
theorem get_ofMembers (members : List (Key × Value)) (key : Key) :
    (ofMembers members).get key = members.lookup key := by
  induction members with
  | nil =>
      rfl
  | cons member rest inductionHypothesis =>
      rw [ofMembers, get_cons, lookup_cons_eq, inductionHypothesis]

theorem has_iff (map : OrderedMap Key Value) (key : Key) :
    map.has key = true ↔ ∃ value, map.get key = some value := by
  simp [has, Option.isSome_iff_exists]

theorem has_eq_false (map : OrderedMap Key Value) (key : Key) :
    map.has key = false ↔ map.get key = none := by
  simp [has]

theorem mem_entries_iff
    (map : OrderedMap Key Value) (key : Key) (value : Value) :
    (key, value) ∈ map.entries ↔ map.get key = some value := by
  obtain ⟨entries, distinct⟩ := map
  simp only [get]
  induction entries with
  | nil =>
      simp
  | cons entry rest inductionHypothesis =>
      rw [List.map_cons, List.nodup_cons] at distinct
      have tail := inductionHypothesis distinct.2
      by_cases same : entry.1 = key
      · obtain ⟨entryKey, entryValue⟩ := entry
        cases same
        have absent : (entryKey, value) ∉ rest := fun member =>
          distinct.1 (List.mem_map.mpr ⟨_, member, rfl⟩)
        simp [absent, eq_comm]
      · have notHead : (key, value) ≠ entry := fun equal =>
          same (by rw [← equal])
        rw [List.mem_cons, lookup_cons_eq, if_neg (Ne.symm same), tail]
        simp [notHead]

/-- Where one key alone holds the value, deleting the value deletes the key. -/
theorem deleteValue_eq_delete [DecidableEq Value]
    {map : OrderedMap Key Value} {key : Key} {value : Value}
    (found : map.get key = some value)
    (unique : ∀ other, map.get other = some value → other = key) :
    map.deleteValue value = map.delete key := by
  unfold deleteValue
  split
  · rename_i entry first
    have member : entry ∈ map.entries := List.mem_of_find?_eq_some first
    have holds : entry.2 = value := by
      simpa using List.find?_some first
    have atEntry : map.get entry.1 = some value := by
      rw [← mem_entries_iff, ← holds]
      exact member
    rw [unique entry.1 atEntry]
  · rename_i nowhere
    have member := (mem_entries_iff map key value).mpr found
    have absent := List.find?_eq_none.mp nowhere _ member
    simp at absent

theorem get_of_get_deleteValue [DecidableEq Value]
    {map : OrderedMap Key Value} {key : Key} {value deleted : Value}
    (found : (map.deleteValue deleted).get key = some value) :
    map.get key = some value := by
  unfold deleteValue at found
  split at found
  · rw [get_delete] at found
    split at found
    · cases found
    · exact found
  · exact found

/-- A map of size one is determined by its only entry. -/
theorem get_of_size_one
    {map : OrderedMap Key Value} {value : Value} {rest : List Value}
    (sizeOne : map.size = 1)
    (only : map.values = value :: rest) :
    ∃ key, map.get key = some value ∧
      ∀ other otherValue, map.get other = some otherValue → other = key := by
  obtain ⟨⟨key, found⟩, single⟩ := List.length_eq_one_iff.mp sizeOne
  have foundEq : found = value := by
    simp only [values, single, List.map_cons] at only
    exact (List.cons.inj only).1
  refine ⟨key, ?_, ?_⟩
  · rw [← mem_entries_iff, single, foundEq]
    exact List.mem_singleton_self _
  · intro other otherValue member
    rw [← mem_entries_iff, single] at member
    exact congrArg Prod.fst (List.mem_singleton.mp member)

theorem get_of_onlyKey
    {map : OrderedMap Key Value} {key : Key}
    (only : map.onlyKey = some key) :
    ∃ value, map.get key = some value := by
  obtain ⟨entries, distinct⟩ := map
  unfold onlyKey at only
  split at only
  · rename_i entry single
    cases only
    refine ⟨entry.2, ?_⟩
    rw [get, single, lookup_cons_eq, if_pos rfl]
  · cases only

/-- The value that a map of size one begins with stands under its only key. -/
theorem head_values_of_size_one
    (map : OrderedMap Key Value) (value : Value) :
    (if map.size = 1 then map.values.head? else none) = some value ↔
      ∃ key, map.onlyKey = some key ∧ map.get key = some value := by
  obtain ⟨entries, distinct⟩ := map
  match entries, distinct with
  | [], _ =>
      simp [size, onlyKey]
  | [entry], _ =>
      simp [size, values, onlyKey, get, lookup_cons_eq]
  | _ :: _ :: _, _ =>
      simp [size, onlyKey]

/-- Replace every value in place. -/
def mapValues (replace : Value → Value) (map : OrderedMap Key Value) :
    OrderedMap Key Value where
  entries := map.entries.map fun entry => (entry.1, replace entry.2)
  distinct := by
    rw [List.map_map]
    exact map.distinct

@[simp]
theorem get_mapValues (replace : Value → Value) (map : OrderedMap Key Value)
    (key : Key) :
    (map.mapValues replace).get key = (map.get key).map replace := by
  obtain ⟨entries, distinct⟩ := map
  simp only [get, mapValues]
  clear distinct
  induction entries with
  | nil => rfl
  | cons entry rest inductionHypothesis =>
      rw [List.map_cons, lookup_cons_eq, lookup_cons_eq, inductionHypothesis]
      by_cases same : key = entry.1
      · rw [if_pos same, if_pos same, Option.map_some]
      · rw [if_neg same, if_neg same]

end OrderedMap

end RtsNotebook.Library
