import RtsNotebook.Library.TrackedMap
import RtsNotebook.Notebook.MetadataApplier

/-!
# What the snapshot observers read

The registries behind badges, buttons and chips observe the same
`notebook.metadata` payloads as the applier.  They share the guard on the
payload and the way in which they walk the maps of a snapshot: an entry that is
an object gives a row, and the row is filed unless it compares equal to the one
that is there.
-/

namespace RtsNotebook.Notebook

open RtsNotebook.Library RtsNotebook.Js RtsNotebook.Messaging
open RtsNotebook.Notebook.MetadataApplier

/-- `payload.snapshot`, past the guard
`payload.mode !== 'snapshot' || !payload.snapshot`. -/
def snapshotOf? {Version : Type*} (payload : NotebookMetadataPayload Version) :
    Option Json :=
  if payload.mode.bind Json.asString? = some (js "snapshot") then
    payload.snapshot.filter Json.truthy
  else
    none

/-- `value[key]` where it is an object, arrays included. -/
def objectMember? (value : Json) (key : JsString) : Option Json :=
  (value.member? key).filter isObject

theorem isObject_of_member {value member : Json} {key : JsString}
    (found : value.member? key = some member) : isObject value = true := by
  cases value with
  | object members => rfl
  | _ => cases found

theorem objectMember?_eq_some_iff {value member : Json} {key : JsString} :
    objectMember? value key = some member ↔
      value.member? key = some member ∧ isObject member = true := by
  rw [objectMember?, Option.filter_eq_some_iff]

/-- `Object.entries(value)`: the indices of an array are its keys. -/
def objectEntries : Json → OrderedMap JsString Json
  | .array items => .ofMembers
      (items.zipIdx.map fun (item, index) => (natDigits index, item))
  | .object members => .ofMembers members
  | _ => .empty

/-- The entry of an id, where it is an object. -/
def objectAt? (value : Json) (id : JsString) : Option Json :=
  ((objectEntries value).get id).filter isObject

/-! ### Filing the rows of a map -/

section Rows

variable {Row : Type*} (rowOf : JsString → Json → Row)
  (same : Row → Row → Bool)

/-- One round of a loop over the entries of a map. -/
def absorb (rows : TrackedMap JsString Row) (entry : JsString × Json) :
    TrackedMap JsString Row :=
  let (id, raw) := entry
  if !isObject raw then
    rows
  else if (rows.get id).any fun prev => same prev (rowOf id raw) then
    rows
  else
    rows.set id (rowOf id raw)

/-- What a round leaves under the id of its entry. -/
def absorbed (id : JsString) (raw : Json) (before : Option Row) :
    Option Row :=
  if !isObject raw then
    before
  else if before.any fun prev => same prev (rowOf id raw) then
    before
  else
    some (rowOf id raw)

theorem absorb_own (rows : TrackedMap JsString Row) (id : JsString)
    (raw : Json) :
    (absorb rowOf same rows (id, raw)).get id =
      absorbed rowOf same id raw (rows.get id) := by
  unfold absorb absorbed
  simp only
  split
  · rfl
  · split
    · rfl
    · rw [TrackedMap.get_set, if_pos rfl]

theorem absorb_frame (rows : TrackedMap JsString Row) (id : JsString)
    (raw : Json) (other : JsString) (different : other ≠ id) :
    (absorb rowOf same rows (id, raw)).get other = rows.get other := by
  unfold absorb
  simp only
  split
  · rfl
  · split
    · rfl
    · rw [TrackedMap.get_set, if_neg different]

theorem absorb_reports : TrackedMap.Reports (absorb rowOf same) := by
  rintro rows ⟨id, raw⟩
  unfold absorb
  simp only
  split
  · exact Or.inl rfl
  · split
    · exact Or.inl rfl
    · exact Or.inr rfl

/-- After the loop an id with an entry has been compared with it once. -/
theorem get_foldl_absorb (byId : OrderedMap JsString Row)
    (entries : OrderedMap JsString Json) (id : JsString) :
    (entries.entries.foldl (absorb rowOf same) (.start byId)).get id =
      (entries.get id).elim (byId.get id) fun raw =>
        absorbed rowOf same id raw (byId.get id) :=
  TrackedMap.get_foldl (absorb_own rowOf same) (absorb_frame rowOf same)
    entries (.start byId) id

end Rows

end RtsNotebook.Notebook
