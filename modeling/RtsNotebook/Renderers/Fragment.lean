import RtsNotebook.Renderers.Escape

/-!
# Fragments of rendered HTML

A template literal of the source is a list of fragments here: what it says
itself, and what it interpolates, with the escaping function that is applied
to it, if any.
-/

namespace RtsNotebook.Renderers

open RtsNotebook.Js RtsNotebook.Library

/-- A part of a template literal. -/
inductive Fragment where
  /-- Text of the template. -/
  | literal (text : JsString)
  /-- `${escapeHtml(text)}` -/
  | html (text : JsString)
  /-- `${escapeAttr(text)}` -/
  | attr (text : JsString)
  /-- `${text}` -/
  | raw (text : JsString)
  deriving DecidableEq

namespace Fragment

/-- The fragment as a piece of a template with data. -/
def piece : Fragment → Markup.Piece
  | literal text => .template text
  | html text => .data (escapeHtml text)
  | attr text => .data (escapeAttr text)
  | raw text => .data text

def isRaw : Fragment → Bool
  | raw _ => true
  | _ => false

end Fragment

/-- The string that a template literal evaluates to. -/
def htmlOf (fragments : List Fragment) : JsString :=
  Markup.filled (fragments.map Fragment.piece)

/-- What the templates themselves say. -/
def templateOf (fragments : List Fragment) : JsString :=
  Markup.unfilled (fragments.map Fragment.piece)

/-- Every interpolated string occurs only escaped, and the tags and attributes
are those of the templates. -/
def Uninjected (fragments : List Fragment) : Prop :=
  (∀ text, .raw text ∈ fragments → escapeHtml text = text) ∧
    Markup.events .data (htmlOf fragments) =
      Markup.events .data (templateOf fragments)

/-- What is left of fragments without their data. -/
def skeleton (fragments : List Fragment) : List (Option JsString) :=
  fragments.map fun fragment => fragment.piece.template?

/-- A block of template literals with every interpolation between tags or
inside a double-quoted value, which begins and ends between tags. -/
def Sealed (fragments : List Fragment) : Prop :=
  Markup.placed .data (skeleton fragments) = some .data

/-- What is interpolated without escaping needs none. -/
def RawPlain (fragments : List Fragment) : Prop :=
  ∀ text, .raw text ∈ fragments → escapeHtml text = text

/-- A block that injects nothing. -/
structure Safe (fragments : List Fragment) : Prop where
  isSealed : Sealed fragments
  rawPlain : RawPlain fragments

namespace Safe

variable {first second fragments : List Fragment}

theorem nil : Safe [] where
  isSealed := rfl
  rawPlain := by simp [RawPlain]

theorem append (safeFirst : Safe first) (safeSecond : Safe second) :
    Safe (first ++ second) where
  isSealed := by
    unfold Sealed skeleton
    rw [List.map_append, Markup.placed_append]
    rw [show Markup.placed .data (first.map _) = some .data from
      safeFirst.isSealed]
    exact safeSecond.isSealed
  rawPlain := by
    intro text member
    rcases List.mem_append.mp member with inFirst | inSecond
    · exact safeFirst.rawPlain text inFirst
    · exact safeSecond.rawPlain text inSecond

theorem ite {condition : Prop} [Decidable condition]
    (safeFirst : Safe first) (safeSecond : Safe second) :
    Safe (if condition then first else second) := by
  split
  · exact safeFirst
  · exact safeSecond

theorem of_sealed (isSealed : Sealed fragments)
    (noRaw : fragments.any Fragment.isRaw = false) : Safe fragments where
  isSealed := isSealed
  rawPlain := by
    intro text member
    have isRaw := List.any_eq_false.mp noRaw (.raw text) member
    exact absurd rfl isRaw

theorem uninjected (safe : Safe fragments) : Uninjected fragments := by
  constructor
  · intro text member
    exact safe.rawPlain text member
  · have isPlaced : Markup.placed .data
        ((fragments.map Fragment.piece).map Markup.Piece.template?) =
          some .data := by
      rw [List.map_map]
      exact safe.isSealed
    have inert : ∀ text,
        Markup.Piece.data text ∈ fragments.map Fragment.piece →
          Markup.Inert text := by
      intro text member
      obtain ⟨fragment, inFragments, isData⟩ := List.mem_map.mp member
      cases fragment with
      | literal _ => cases isData
      | html source =>
          cases isData
          exact escapeHtml_inert source
      | attr source =>
          cases isData
          exact escapeAttr_inert source
      | raw source =>
          cases isData
          have unchanged := safe.rawPlain text inFragments
          rw [← unchanged]
          exact escapeHtml_inert text
    exact (Markup.events_filled isPlaced inert).1

end Safe

end RtsNotebook.Renderers
