import RtsNotebook.Llmnb.CellMetadata

/-!
# The readers of the cell metadata

The identity badge, the streaming and artifact badges and the privilege
toolbar each read the kind of a cell out of its metadata, and the first and the
last of them its bound agent, with functions of their own.  All of them know
the namespaced shape, `rts.cell`.  Beside it the first two know the flat shape,
`rts`, and the toolbar knows the root of the metadata.
-/

namespace RtsNotebook.Notebook.CellMetadataReaders

open RtsNotebook.Js RtsNotebook.Messaging RtsNotebook.Llmnb

/-- `value?.[key]` -/
def memberOf? (value : Option Json) (key : JsString) : Option Json :=
  value.bind fun value => value.member? key

/-- A string property. -/
def textAt? (value : Option Json) (key : JsString) : Option JsString :=
  (memberOf? value key).bind Json.asString?

/-- `readCellKind` of the streaming and artifact badges. -/
def readCellKind (metadata : Option Json) : Option JsString :=
  let rts := memberOf? metadata (js "rts")
  (textAt? (memberOf? rts (js "cell")) (js "kind")).or
    (textAt? rts (js "kind"))

/-- `CellToolbarMetadata` -/
structure CellToolbarMetadata where
  kind : Option JsString
  boundAgentId : Option JsString
  deriving DecidableEq

/-- `readCellMetadata` of the privilege toolbar. -/
def readCellMetadata (metadata : Option Json) : Option CellToolbarMetadata :=
  (metadata.filter Json.truthy).map fun m =>
    let inner := memberOf? (m.member? (js "rts")) (js "cell")
    { kind := (textAt? (some m) (js "kind")).or (textAt? inner (js "kind"))
      boundAgentId :=
        (textAt? (some m) (js "bound_agent_id")).or
          (textAt? inner (js "bound_agent_id")) }

/-- A property of the slot as it stands, where it is not `null`. -/
def reported? (slot : Json) (key : JsString) : Option Json :=
  match slot.member? key with
  | some .null => none
  | value => value

/-- The three readers report one kind, or none, and the two that read it one
bound agent, or none. -/
structure ReadersAgree (metadata : Option Json) : Prop where
  badgeKind :
    reported? (readCellMetadataSlot metadata) (js "kind") =
      (readCellKind metadata).map Json.string
  toolbarKind :
    (readCellMetadata metadata).bind CellToolbarMetadata.kind =
      readCellKind metadata
  boundAgent :
    reported? (readCellMetadataSlot metadata) (js "bound_agent_id") =
      ((readCellMetadata metadata).bind
        CellToolbarMetadata.boundAgentId).map Json.string

/-! ### The shapes of the metadata -/

/-- `rts.cell`, where it is an object. -/
def namespacedSlot? (metadata : Option Json) : Option Json :=
  (memberOf? (memberOf? metadata (js "rts")) (js "cell")).filter isObject

/-- The object that `readCellMetadataSlot` reads. -/
def slotOf? (metadata : Option Json) : Option Json :=
  (namespacedSlot? metadata).or (memberOf? metadata (js "rts"))

/-- No property, `null` or a string. -/
def isTextOrNone : Option Json → Bool
  | none => true
  | some .null => true
  | some (.string _) => true
  | some _ => false

/-- The root of the metadata has no such string, or the one of the slot. -/
def RootYields (metadata : Option Json) (key : JsString) : Prop :=
  textAt? metadata key = none ∨
    textAt? metadata key = textAt? (slotOf? metadata) key

/-- The root of the metadata has the string of the slot, if any. -/
def RootRepeats (metadata : Option Json) (key : JsString) : Prop :=
  textAt? metadata key = textAt? (slotOf? metadata) key

/-- The shapes on which the readers agree.  The fields that are read have the
right type.  In the namespaced shape no flat kind stands in for a missing one
and the root contradicts nothing; in the flat shape the root repeats it. -/
structure OneStory (metadata : Option Json) : Prop where
  kindTyped :
    isTextOrNone (memberOf? (slotOf? metadata) (js "kind")) = true
  boundTyped :
    isTextOrNone (memberOf? (slotOf? metadata) (js "bound_agent_id")) = true
  namespaced : (namespacedSlot? metadata).isSome = true →
    ((textAt? (slotOf? metadata) (js "kind")).isSome = true ∨
        textAt? (memberOf? metadata (js "rts")) (js "kind") = none) ∧
      RootYields metadata (js "kind") ∧
      RootYields metadata (js "bound_agent_id")
  flat : namespacedSlot? metadata = none →
    RootRepeats metadata (js "kind") ∧
      RootRepeats metadata (js "bound_agent_id")

/-! ### What each reader reads -/

theorem memberOf?_filter_isObject (value : Option Json) (key : JsString) :
    memberOf? (value.filter isObject) key = memberOf? value key := by
  cases value with
  | none =>
      rfl
  | some value =>
      cases value <;> rfl

/-- A property of `rts.cell` is one of the namespaced slot. -/
theorem textAt?_cell (metadata : Option Json) (key : JsString) :
    textAt? (memberOf? (memberOf? metadata (js "rts")) (js "cell")) key =
      textAt? (namespacedSlot? metadata) key := by
  rw [textAt?, textAt?, namespacedSlot?, memberOf?_filter_isObject]

theorem readCellKind_eq (metadata : Option Json) :
    readCellKind metadata =
      (textAt? (namespacedSlot? metadata) (js "kind")).or
        (textAt? (memberOf? metadata (js "rts")) (js "kind")) := by
  rw [readCellKind, textAt?_cell]

theorem memberOf?_filter_truthy (value : Option Json) (key : JsString) :
    memberOf? (value.filter Json.truthy) key = memberOf? value key := by
  cases value with
  | none =>
      rfl
  | some value =>
      rw [Option.filter_some]
      split
      case isTrue truthy =>
        rfl
      case isFalse falsy =>
        cases value with
        | object members =>
            exact absurd rfl falsy
        | _ =>
            rfl

theorem toolbar_eq (metadata : Option Json) :
    (readCellMetadata metadata).bind CellToolbarMetadata.kind =
        (textAt? metadata (js "kind")).or
          (textAt? (namespacedSlot? metadata) (js "kind")) ∧
      (readCellMetadata metadata).bind CellToolbarMetadata.boundAgentId =
        (textAt? metadata (js "bound_agent_id")).or
          (textAt? (namespacedSlot? metadata) (js "bound_agent_id")) := by
  have present := memberOf?_filter_truthy metadata
  rw [← textAt?_cell, ← textAt?_cell]
  simp only [textAt?, ← present (js "rts"), ← present (js "kind"),
    ← present (js "bound_agent_id"), readCellMetadata]
  cases metadata.filter Json.truthy with
  | none =>
      exact ⟨rfl, rfl⟩
  | some m =>
      exact ⟨rfl, rfl⟩

theorem member?_of_falsy {value : Json} (falsy : value.truthy = false)
    (key : JsString) : value.member? key = none := by
  cases value with
  | object members =>
      cases falsy
  | _ =>
      rfl

/-- The slot has the properties of `rts.cell`, or else the flat ones. -/
theorem member?_readCellMetadataSlot (metadata : Option Json)
    {key : JsString}
    (picked : key ∈ [js "kind", js "promoted", js "bound_agent_id"]) :
    (readCellMetadataSlot metadata).member? key =
      memberOf? (slotOf? metadata) key := by
  have root := memberOf?_filter_isObject metadata (js "rts")
  rw [slotOf?, namespacedSlot?, ← root, readCellMetadataSlot]
  cases metadata.filter isObject with
  | none =>
      rfl
  | some held =>
      simp only [memberOf?, Option.bind_some]
      cases held.member? (js "rts") with
      | none =>
          rfl
      | some rts =>
          rw [Option.filter_some, Option.bind_some]
          cases truthy : rts.truthy with
          | false =>
              simp only [member?_of_falsy truthy]
              exact (member?_of_falsy truthy key).symm
          | true =>
              rw [if_pos rfl]
              dsimp only
              cases (rts.member? (js "cell")).filter isObject with
              | some cell =>
                  rfl
              | none =>
                  exact member?_flatSlot rts picked

/-! ### Agreement -/

/-- A property as it stands is a given text, or none, exactly where it has the
right type and that text. -/
theorem reported?_eq_iff (slot : Json) (key : JsString)
    (text : Option JsString) :
    reported? slot key = text.map Json.string ↔
      isTextOrNone (slot.member? key) = true ∧
        (slot.member? key).bind Json.asString? = text := by
  rw [reported?]
  cases slot.member? key with
  | none =>
      cases text <;> simp [isTextOrNone]
  | some value =>
      cases value <;> cases text <;>
        simp [isTextOrNone, Json.asString?]

theorem eq_or_iff {Value : Type*} (value other : Option Value) :
    value = value.or other ↔ value.isSome = true ∨ other = none := by
  cases value with
  | none =>
      simp [eq_comm]
  | some value =>
      simp

theorem or_eq_right_iff {Value : Type*} (value other : Option Value) :
    value.or other = other ↔ value = none ∨ value = other := by
  cases value with
  | none =>
      simp
  | some value =>
      simp

/-- The agreement, in terms of the strings at the three places. -/
theorem readersAgree_iff_sameFields (metadata : Option Json) :
    ReadersAgree metadata ↔
      (isTextOrNone (memberOf? (slotOf? metadata) (js "kind")) = true ∧
          textAt? (slotOf? metadata) (js "kind") =
            (textAt? (namespacedSlot? metadata) (js "kind")).or
              (textAt? (memberOf? metadata (js "rts")) (js "kind"))) ∧
        (textAt? metadata (js "kind")).or
            (textAt? (namespacedSlot? metadata) (js "kind")) =
          (textAt? (namespacedSlot? metadata) (js "kind")).or
            (textAt? (memberOf? metadata (js "rts")) (js "kind")) ∧
        isTextOrNone
            (memberOf? (slotOf? metadata) (js "bound_agent_id")) = true ∧
          textAt? (slotOf? metadata) (js "bound_agent_id") =
            (textAt? metadata (js "bound_agent_id")).or
              (textAt? (namespacedSlot? metadata)
                (js "bound_agent_id")) := by
  have kindPicked :
      js "kind" ∈ [js "kind", js "promoted", js "bound_agent_id"] := by
    decide
  have boundPicked :
      js "bound_agent_id" ∈
        [js "kind", js "promoted", js "bound_agent_id"] := by
    decide
  obtain ⟨toolbarKind, toolbarBound⟩ := toolbar_eq metadata
  have badgeKind :=
    reported?_eq_iff (readCellMetadataSlot metadata) (js "kind")
      (readCellKind metadata)
  have badgeBound :=
    reported?_eq_iff (readCellMetadataSlot metadata) (js "bound_agent_id")
      ((readCellMetadata metadata).bind CellToolbarMetadata.boundAgentId)
  rw [member?_readCellMetadataSlot metadata kindPicked, readCellKind_eq]
    at badgeKind
  rw [member?_readCellMetadataSlot metadata boundPicked, toolbarBound]
    at badgeBound
  constructor
  · rintro ⟨sameBadge, sameToolbar, sameBound⟩
    rw [toolbarKind, readCellKind_eq] at sameToolbar
    rw [readCellKind_eq] at sameBadge
    rw [toolbarBound] at sameBound
    exact ⟨badgeKind.mp sameBadge, sameToolbar, badgeBound.mp sameBound⟩
  · rintro ⟨sameBadge, sameToolbar, sameBound⟩
    refine ⟨?_, ?_, ?_⟩
    · rw [readCellKind_eq]
      exact badgeKind.mpr sameBadge
    · rw [toolbarKind, readCellKind_eq]
      exact sameToolbar
    · rw [toolbarBound]
      exact badgeBound.mpr sameBound

/-- The readers agree exactly on the metadata that tells one story. -/
theorem readersAgree_iff_oneStory (metadata : Option Json) :
    ReadersAgree metadata ↔ OneStory metadata := by
  rw [readersAgree_iff_sameFields]
  cases shape : namespacedSlot? metadata with
  | some cell =>
      have slot : slotOf? metadata = some cell := by
        rw [slotOf?, shape, Option.some_or]
      rw [← slot, eq_or_iff]
      constructor
      · rintro ⟨⟨kindTyped, keeps⟩, sameKind, boundTyped, sameBound⟩
        rw [← (eq_or_iff _ _).mpr keeps] at sameKind
        refine ⟨kindTyped, boundTyped, fun _ => ⟨keeps, ?_, ?_⟩, ?_⟩
        · exact (or_eq_right_iff _ _).mp sameKind
        · exact (or_eq_right_iff _ _).mp sameBound.symm
        · intro absent
          cases shape.symm.trans absent
      · intro story
        obtain ⟨keeps, sameKind, sameBound⟩ :=
          story.namespaced (by rw [shape]; rfl)
        refine ⟨⟨story.kindTyped, keeps⟩, ?_, story.boundTyped, ?_⟩
        · rw [← (eq_or_iff _ _).mpr keeps]
          exact (or_eq_right_iff _ _).mpr sameKind
        · exact ((or_eq_right_iff _ _).mpr sameBound).symm
  | none =>
      have slot : slotOf? metadata = memberOf? metadata (js "rts") := by
        rw [slotOf?, shape, Option.none_or]
      have absent : ∀ key, textAt? none key = none := fun _ => rfl
      rw [← slot]
      simp only [absent, Option.or_none, Option.none_or, and_true]
      constructor
      · rintro ⟨kindTyped, sameKind, boundTyped, sameBound⟩
        refine ⟨kindTyped, boundTyped, ?_, fun _ => ⟨sameKind, sameBound.symm⟩⟩
        intro present
        rw [shape] at present
        cases present
      · intro story
        obtain ⟨sameKind, sameBound⟩ := story.flat shape
        exact ⟨story.kindTyped, sameKind, story.boundTyped, sameBound.symm⟩

/-- The metadata of a cell in the flat shape. -/
def flatAgentCell : Json :=
  .object
    [(js "rts", .object
      [(js "kind", .string (js "agent")),
        (js "bound_agent_id", .string (js "alpha"))])]

/-- The toolbar finds neither the kind nor the agent of a flat cell. -/
theorem flatAgentCell_disagrees :
    readCellKind (some flatAgentCell) = some (js "agent") ∧
      reported? (readCellMetadataSlot (some flatAgentCell))
          (js "bound_agent_id") = some (.string (js "alpha")) ∧
      readCellMetadata (some flatAgentCell) = some ⟨none, none⟩ ∧
      ¬ ReadersAgree (some flatAgentCell) := by
  have badge : readCellKind (some flatAgentCell) = some (js "agent") := by
    decide
  have toolbar :
      readCellMetadata (some flatAgentCell) = some ⟨none, none⟩ := by
    decide
  refine ⟨badge, rfl, toolbar, fun agree => ?_⟩
  have same := agree.toolbarKind
  rw [badge, toolbar] at same
  cases same

end RtsNotebook.Notebook.CellMetadataReaders
