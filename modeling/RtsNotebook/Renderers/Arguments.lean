import RtsNotebook.Otel.Attrs
import RtsNotebook.Llmnb.BlobResolver
import RtsNotebook.Renderers.Fragment

/-!
# What a renderer reads and gives

A tool renderer gets the arguments of a call, which may have any shape, and
gives the fragments of a block, or nothing where it throws.
-/

namespace RtsNotebook.Renderers

open RtsNotebook.Js

/-- What the renderers use of their surroundings. -/
structure Runtime where
  /-- `JSON.parse` -/
  jsonParse? : JsString → Option Json
  blobs : Llmnb.BlobTable
  /-- What `nextId` appends to its prefix: the clock and a counter. -/
  stamp : JsString
  /-- `String(value)` of an object that inherits from another one. -/
  inheritedText? : List (JsString × JsValue) → JsValue → Option JsString
  /-- The entries of an object with a `length`, from the last index on. -/
  arrayLike? : List (JsString × Json) → Option (List Json)

namespace Runtime

/-- `nextId`, and `nextCardId` -/
def nextId (runtime : Runtime) (kind : JsString) : JsString :=
  kind ++ js "-" ++ runtime.stamp

/-- `String(value)` -/
def text? (runtime : Runtime) (value : JsValue) : Option JsString :=
  value.toText? runtime.inheritedText?

/-- `String(value ?? fallback)` -/
def textOr? (runtime : Runtime) (value : JsValue) (fallback : JsString) :
    Option JsString :=
  if value.isNullish then some fallback else runtime.text? value

/-- `String(args[key] ?? fallback)` -/
def field? (runtime : Runtime) (args : JsValue) (key fallback : JsString) :
    Option JsString :=
  (args.property? key).bind fun value => runtime.textOr? value fallback

/-- `getStringAttr` -/
def stringAttr? (runtime : Runtime) (attributes : Option Json)
    (key fallback : JsString) : Option JsString :=
  Otel.getStringAttr? runtime.arrayLike? attributes key fallback

end Runtime

/-- `items.map(block).join('')` -/
def renderEach? (block : JsValue → Option (List Fragment)) :
    List JsValue → Option (List Fragment)
  | [] => some []
  | item :: rest => do
      let first ← block item
      let following ← renderEach? block rest
      pure (first ++ following)

/-- What is rendered, if anything is, injects nothing. -/
def SafeResult (rendered : Option (List Fragment)) : Prop :=
  ∀ fragments, rendered = some fragments → Safe fragments

namespace SafeResult

variable {fragments : List Fragment} {rendered : Option (List Fragment)}

theorem pure (safe : Safe fragments) : SafeResult (some fragments) := by
  intro found isFound
  cases isFound
  exact safe

theorem bind {Value : Type} {value : Option Value}
    {block : Value → Option (List Fragment)}
    (safe : ∀ found, SafeResult (block found)) :
    SafeResult (value.bind block) := by
  intro fragments isRendered
  obtain ⟨found, _, ofFound⟩ := Option.bind_eq_some_iff.mp isRendered
  exact safe found fragments ofFound

theorem around {block : List Fragment → Option (List Fragment)}
    (safeInner : SafeResult rendered)
    (safe : ∀ inner, Safe inner → SafeResult (block inner)) :
    SafeResult (rendered.bind block) := by
  intro fragments isRendered
  obtain ⟨inner, ofInner, ofBlock⟩ := Option.bind_eq_some_iff.mp isRendered
  exact safe inner (safeInner inner ofInner) fragments ofBlock

theorem each {block : JsValue → Option (List Fragment)}
    (safe : ∀ item, SafeResult (block item)) (items : List JsValue) :
    SafeResult (renderEach? block items) := by
  induction items with
  | nil => exact pure Safe.nil
  | cons item rest inductionHypothesis =>
      apply around (safe item)
      intro first safeFirst
      apply around inductionHypothesis
      intro following safeFollowing
      exact pure (safeFirst.append safeFollowing)

end SafeResult

end RtsNotebook.Renderers
