import Mathlib.Data.Bool.AllAny
import RtsNotebook.Js.NumberText
import RtsNotebook.Library.Markup

/-!
# HTML escaping

`escapeHtml` and `escapeAttr`, and the fragments that the templates of the
renderers consist of.
-/

namespace RtsNotebook.Renderers

open RtsNotebook.Js RtsNotebook.Library

/-- `text.replace(/target/g, replacement)` for one code unit. -/
def replaceUnit (target : UInt16) (replacement text : JsString) : JsString :=
  text.flatMap fun codeUnit =>
    if codeUnit = target then replacement else [codeUnit]

/-- `escapeHtml` -/
def escapeHtml (text : JsString) : JsString :=
  replaceUnit (unit '\'') (js "&#39;")
    (replaceUnit (unit '"') (js "&quot;")
      (replaceUnit (unit '>') (js "&gt;")
        (replaceUnit (unit '<') (js "&lt;")
          (replaceUnit (unit '&') (js "&amp;") text))))

/-- The control characters that `escapeAttr` strips. -/
def isControl (codeUnit : UInt16) : Bool :=
  codeUnit ≤ 0x1F || codeUnit = 0x7F

/-- `escapeAttr` -/
def escapeAttr (text : JsString) : JsString :=
  (escapeHtml text).filter fun codeUnit => !isControl codeUnit

/-! ### What escaping leaves -/

section

variable {target other : UInt16} {replacement text : JsString}

theorem notMem_replaceUnit (notIn : target ∉ replacement) :
    target ∉ replaceUnit target replacement text := by
  intro member
  obtain ⟨codeUnit, _, found⟩ := List.mem_flatMap.mp member
  split at found
  · exact notIn found
  · rename_i different
    exact different (List.mem_singleton.mp found).symm

theorem notMem_replaceUnit_of (notInText : other ∉ text)
    (notIn : other ∉ replacement) :
    other ∉ replaceUnit target replacement text := by
  intro member
  obtain ⟨codeUnit, inText, found⟩ := List.mem_flatMap.mp member
  split at found
  · exact notIn found
  · rw [List.mem_singleton.mp found] at notInText
    exact notInText inText

theorem replaceUnit_eq_self (notIn : target ∉ text) :
    replaceUnit target replacement text = text := by
  induction text with
  | nil => rfl
  | cons codeUnit text inductionHypothesis =>
      have different : codeUnit ≠ target := fun equal =>
        notIn (equal ▸ List.mem_cons_self)
      have rest := inductionHypothesis fun member =>
        notIn (List.mem_cons_of_mem _ member)
      unfold replaceUnit at rest ⊢
      rw [List.flatMap_cons, if_neg different, rest]
      rfl

end

/-- No code unit that is replaced with an entity is left, but for the `&` of
the entities. -/
theorem notMem_escapeHtml {codeUnit : UInt16} (text : JsString)
    (special : codeUnit ∈
      [unit '<', unit '>', unit '"', unit '\'']) :
    codeUnit ∉ escapeHtml text := by
  have kept : ∀ {target : UInt16} {replacement before : JsString},
      codeUnit ∉ before → codeUnit ∉ replacement →
        codeUnit ∉ replaceUnit target replacement before :=
    notMem_replaceUnit_of
  simp only [List.mem_cons, List.not_mem_nil, or_false] at special
  rcases special with rfl | rfl | rfl | rfl
  · exact kept (kept (kept (notMem_replaceUnit (by decide +kernel))
      (by decide +kernel)) (by decide +kernel)) (by decide +kernel)
  · exact kept (kept (notMem_replaceUnit (by decide +kernel))
      (by decide +kernel)) (by decide +kernel)
  · exact kept (notMem_replaceUnit (by decide +kernel)) (by decide +kernel)
  · exact notMem_replaceUnit (by decide +kernel)

theorem escapeHtml_inert (text : JsString) :
    Markup.Inert (escapeHtml text) where
  noTag := notMem_escapeHtml text (by decide +kernel)
  noQuote := notMem_escapeHtml text (by decide +kernel)

theorem escapeAttr_inert (text : JsString) :
    Markup.Inert (escapeAttr text) where
  noTag := fun member =>
    (escapeHtml_inert text).noTag (List.mem_of_mem_filter member)
  noQuote := fun member =>
    (escapeHtml_inert text).noQuote (List.mem_of_mem_filter member)

/-! ### Text that escaping leaves alone -/

/-- The code units that `escapeHtml` replaces. -/
def specials : List UInt16 :=
  [unit '&', unit '<', unit '>', unit '"', unit '\'']

/-- The text has nothing to escape. -/
def Plain (text : JsString) : Prop :=
  ∀ codeUnit ∈ text, codeUnit ∉ specials

instance (text : JsString) : Decidable (Plain text) :=
  List.decidableBAll _ text

theorem Plain.escapeHtml_eq {text : JsString} (plain : Plain text) :
    escapeHtml text = text := by
  have absent : ∀ target ∈ specials, target ∉ text :=
    fun target special member => plain target member special
  unfold escapeHtml
  rw [replaceUnit_eq_self (absent (unit '&') (by simp [specials])),
    replaceUnit_eq_self (absent (unit '<') (by simp [specials])),
    replaceUnit_eq_self (absent (unit '>') (by simp [specials])),
    replaceUnit_eq_self (absent (unit '"') (by simp [specials])),
    replaceUnit_eq_self (absent (unit '\'') (by simp [specials]))]

theorem length_le_replaceUnit (target : UInt16) (replacement text : JsString)
    (nonempty : replacement ≠ []) :
    text.length ≤ (replaceUnit target replacement text).length := by
  have positive : 0 < replacement.length :=
    List.length_pos_iff.mpr nonempty
  induction text with
  | nil => simp
  | cons codeUnit text inductionHypothesis =>
      unfold replaceUnit at inductionHypothesis ⊢
      rw [List.flatMap_cons, List.length_append, List.length_cons]
      split
      · omega
      · rw [List.length_singleton]
        omega

/-- Replacing a `&` makes the text longer, and nothing makes it shorter. -/
theorem length_lt_escapeHtml {text : JsString}
    (member : unit '&' ∈ text) :
    text.length < (escapeHtml text).length := by
  have longer : text.length <
      (replaceUnit (unit '&') (js "&amp;") text).length := by
    obtain ⟨before, after, rfl⟩ := List.append_of_mem member
    have beforeLe := length_le_replaceUnit (unit '&') (js "&amp;") before
      (by decide +kernel)
    have afterLe := length_le_replaceUnit (unit '&') (js "&amp;") after
      (by decide +kernel)
    have entity : (js "&amp;").length = 5 := by decide +kernel
    unfold replaceUnit at beforeLe afterLe ⊢
    rw [List.flatMap_append, List.flatMap_cons, if_pos rfl]
    simp only [List.length_append, List.length_cons, entity]
    omega
  have tags := length_le_replaceUnit (unit '<') (js "&lt;")
    (replaceUnit (unit '&') (js "&amp;") text) (by decide +kernel)
  have ends := length_le_replaceUnit (unit '>') (js "&gt;")
    (replaceUnit (unit '<') (js "&lt;")
      (replaceUnit (unit '&') (js "&amp;") text)) (by decide +kernel)
  have quotes := length_le_replaceUnit (unit '"') (js "&quot;")
    (replaceUnit (unit '>') (js "&gt;")
      (replaceUnit (unit '<') (js "&lt;")
        (replaceUnit (unit '&') (js "&amp;") text))) (by decide +kernel)
  have apostrophes := length_le_replaceUnit (unit '\'') (js "&#39;")
    (replaceUnit (unit '"') (js "&quot;")
      (replaceUnit (unit '>') (js "&gt;")
        (replaceUnit (unit '<') (js "&lt;")
          (replaceUnit (unit '&') (js "&amp;") text)))) (by decide +kernel)
  unfold escapeHtml
  omega

/-- Escaping leaves only plain text alone. -/
theorem plain_of_escapeHtml_eq {text : JsString}
    (unchanged : escapeHtml text = text) : Plain text := by
  intro codeUnit member special
  rcases List.mem_cons.mp special with rfl | other
  · have longer := length_lt_escapeHtml member
    rw [unchanged] at longer
    omega
  · have absent := notMem_escapeHtml text other
    rw [unchanged] at absent
    exact absent member

namespace Plain

/-- What a number is written with is nothing special. -/
theorem of_numberText {text : JsString} (isText : IsNumberText text) :
    Plain text := by
  have apart : ∀ codeUnit ∈ numberUnits, codeUnit ∉ specials :=
    List.all_iff_forall_prop.mp (by decide +kernel)
  intro codeUnit member
  exact apart codeUnit (isText codeUnit member)

theorem natDigits (value : Nat) : Plain (Js.natDigits value) :=
  of_numberText (IsNumberText.natDigits value)

theorem toText (value : JsNumber) : Plain (JsNumber.toText value) :=
  of_numberText (IsNumberText.toText value)

end Plain

end RtsNotebook.Renderers
