import Mathlib.Data.List.Nodup

/-!
# Ledgers with keys

A ledger takes the entries of a stream in order and ignores one whose key it
has already taken.  It takes the value of every entry if and only if no two
values share a key.
-/

namespace RtsNotebook.Library.Ledger

variable {Entry Key Value : Type*} [DecidableEq Key]

/-- One entry, behind those taken. -/
def take (key : Entry → Key) (taken : List Entry) (entry : Entry) :
    List Entry :=
  if key entry ∈ taken.map key then taken else taken ++ [entry]

/-- The entries taken from a stream. -/
def run (key : Entry → Key) (entries : List Entry) : List Entry :=
  entries.foldl (take key) []

variable {key : Entry → Key} {taken entries : List Entry} {entry : Entry}

/-- What one entry adds is the entry. -/
theorem mem_of_mem_take {other : Entry}
    (isMember : other ∈ take key taken entry) :
    other ∈ taken ∨ other = entry := by
  rw [take] at isMember
  split at isMember
  · exact Or.inl isMember
  · rcases List.mem_append.mp isMember with before | isEntry
    · exact Or.inl before
    · exact Or.inr (List.mem_singleton.mp isEntry)

theorem mem_map_take {tested : Key} :
    tested ∈ (take key taken entry).map key ↔
      tested ∈ taken.map key ∨ tested = key entry := by
  rw [take]
  by_cases known : key entry ∈ taken.map key
  · rw [if_pos known]
    constructor
    · exact Or.inl
    · rintro (before | rfl)
      · exact before
      · exact known
  · rw [if_neg known, List.map_append, List.mem_append]
    exact or_congr_right List.mem_singleton

theorem nodup_take (nodup : (taken.map key).Nodup) :
    ((take key taken entry).map key).Nodup := by
  rw [take]
  split
  · exact nodup
  · rename_i fresh
    rw [List.map_append, List.nodup_append]
    refine ⟨nodup, List.nodup_singleton _, ?_⟩
    intro before isBefore other isOther same
    rw [same, List.mem_singleton.mp isOther] at isBefore
    exact fresh isBefore

/-! ### Streams -/

theorem mem_of_mem_foldl (isMember : entry ∈ entries.foldl (take key) taken) :
    entry ∈ taken ∨ entry ∈ entries := by
  induction entries generalizing taken with
  | nil => exact Or.inl isMember
  | cons first rest inductionHypothesis =>
      rcases inductionHypothesis isMember with before | behind
      · rcases mem_of_mem_take before with before | isFirst
        · exact Or.inl before
        · rw [isFirst]
          exact Or.inr List.mem_cons_self
      · exact Or.inr (List.mem_cons_of_mem _ behind)

theorem mem_map_foldl {tested : Key} :
    tested ∈ (entries.foldl (take key) taken).map key ↔
      tested ∈ taken.map key ∨ tested ∈ entries.map key := by
  induction entries generalizing taken with
  | nil => simp
  | cons first rest inductionHypothesis =>
      rw [List.foldl_cons, inductionHypothesis, mem_map_take, List.map_cons,
        List.mem_cons, or_assoc]

theorem nodup_foldl (nodup : (taken.map key).Nodup) :
    ((entries.foldl (take key) taken).map key).Nodup := by
  induction entries generalizing taken with
  | nil => exact nodup
  | cons first rest inductionHypothesis =>
      exact inductionHypothesis (nodup_take nodup)

/-- For every entry, one with its key is taken. -/
theorem exists_taken (isMember : entry ∈ entries) :
    ∃ kept ∈ run key entries, key kept = key entry := by
  have isKey : key entry ∈ (run key entries).map key :=
    mem_map_foldl.mpr (Or.inr (List.mem_map_of_mem isMember))
  obtain ⟨kept, isKept, same⟩ := List.mem_map.mp isKey
  exact ⟨kept, isKept, same⟩

/-- No two entries that are taken share a key. -/
theorem eq_of_taken {first second : Entry} (isFirst : first ∈ run key entries)
    (isSecond : second ∈ run key entries)
    (sameKey : key first = key second) : first = second := by
  have nodup : ((run key entries).map key).Nodup :=
    @nodup_foldl _ _ _ key [] entries List.nodup_nil
  exact List.inj_on_of_nodup_map nodup isFirst isSecond sameKey

/-- Where equal values have equal keys, every value is taken if and only if
equal keys have equal values. -/
theorem all_taken_iff {value : Entry → Value}
    (keyed : ∀ first ∈ entries, ∀ second ∈ entries,
      value first = value second → key first = key second) :
    (∀ entry ∈ entries, ∃ kept ∈ run key entries,
        value kept = value entry) ↔
      ∀ first ∈ entries, ∀ second ∈ entries,
        key first = key second → value first = value second := by
  have inStream {entry : Entry} (isKept : entry ∈ run key entries) :
      entry ∈ entries :=
    (mem_of_mem_foldl isKept).resolve_left List.not_mem_nil
  constructor
  · intro taken first isFirst second isSecond sameKey
    obtain ⟨keptFirst, isKeptFirst, sameFirst⟩ := taken first isFirst
    obtain ⟨keptSecond, isKeptSecond, sameSecond⟩ := taken second isSecond
    have keyFirst := keyed _ (inStream isKeptFirst) _ isFirst sameFirst
    have keySecond := keyed _ (inStream isKeptSecond) _ isSecond sameSecond
    have same : keptFirst = keptSecond :=
      eq_of_taken isKeptFirst isKeptSecond
        (keyFirst.trans (sameKey.trans keySecond.symm))
    rw [← sameFirst, ← sameSecond, same]
  · intro determined entry isEntry
    obtain ⟨kept, isKept, sameKey⟩ := @exists_taken _ _ _ key _ _ isEntry
    exact ⟨kept, isKept,
      determined kept (inStream isKept) entry isEntry sameKey⟩

end RtsNotebook.Library.Ledger
