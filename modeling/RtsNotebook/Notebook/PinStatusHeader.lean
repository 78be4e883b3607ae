import RtsNotebook.Notebook.Snapshots

/-!
# The pin status

`PinStatusRegistry`: the hash mode of the notebook as the last config that
arrived has it.  A snapshot without a config leaves it as it is.
-/

namespace RtsNotebook.Notebook.PinStatusHeader

open RtsNotebook.Js RtsNotebook.Messaging
open RtsNotebook.Notebook.MetadataApplier

/-- `RtsConfigSlot` -/
structure RtsConfigSlot where
  magicHashEnabled : Bool
  magicPinFingerprint : Option JsString
  injectionAcceptance : Option JsString
  deriving DecidableEq, Repr

/-- The slot that a config gives. -/
def slotOf (cfg : Json) : RtsConfigSlot where
  magicHashEnabled :=
    match cfg.member? (js "magic_hash_enabled") with
    | some (.bool value) => value
    | _ => false
  magicPinFingerprint :=
    (cfg.member? (js "magic_pin_fingerprint")).bind Json.asString?
  injectionAcceptance :=
    (cfg.member? (js "injection_acceptance")).bind Json.asString?

/-- The registry, and how often it has announced a change. -/
structure PinStatusRegistry where
  state : RtsConfigSlot
  changes : Nat
  deriving DecidableEq, Repr

namespace PinStatusRegistry

def initial : PinStatusRegistry where
  state :=
    { magicHashEnabled := false
      magicPinFingerprint := none
      injectionAcceptance := none }
  changes := 0

/-- `set` -/
def set (registry : PinStatusRegistry) (next : RtsConfigSlot) :
    PinStatusRegistry :=
  if registry.state.magicHashEnabled = next.magicHashEnabled ∧
      registry.state.magicPinFingerprint = next.magicPinFingerprint ∧
      registry.state.injectionAcceptance = next.injectionAcceptance then
    registry
  else
    { state := next, changes := registry.changes + 1 }

/-- `onNotebookMetadata` -/
def onNotebookMetadata {Version : Type*} (registry : PinStatusRegistry)
    (payload : NotebookMetadataPayload Version) : PinStatusRegistry :=
  match (snapshotOf? payload).bind fun snapshot =>
      objectMember? snapshot (js "config") with
  | none => registry
  | some cfg => registry.set (slotOf cfg)

theorem set_state (registry : PinStatusRegistry) (next : RtsConfigSlot) :
    (registry.set next).state = next := by
  unfold set
  split
  · rename_i same
    obtain ⟨sameHash, samePin, sameAcceptance⟩ := same
    cases next
    cases state : registry.state
    simp_all
  · rfl

theorem onNotebookMetadata_state {Version : Type*}
    (registry : PinStatusRegistry)
    (payload : NotebookMetadataPayload Version) :
    (registry.onNotebookMetadata payload).state =
      (((snapshotOf? payload).bind fun snapshot =>
          objectMember? snapshot (js "config")).map slotOf).getD
        registry.state := by
  unfold onNotebookMetadata
  cases (snapshotOf? payload).bind fun snapshot =>
      objectMember? snapshot (js "config") with
  | none => rfl
  | some cfg => exact registry.set_state (slotOf cfg)

end PinStatusRegistry

end RtsNotebook.Notebook.PinStatusHeader
