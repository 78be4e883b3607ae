import Mathlib.Data.List.Basic

/-!
# The markup of a text

What an HTML parser takes for tags and attributes in a text, by the states of
its tokenizer.  A declaration or comment ends at the first `>` here, and no
element has a content of its own kind.

Text without `<` and `"` is inert between tags and inside a double-quoted
attribute value: wherever it stands there, the markup around it is the same.
-/

namespace RtsNotebook.Library.Markup

/-- The code units of a text. -/
abbrev Text := List UInt16

/-- The states of the tokenizer.  A name that is being read is kept in
reverse. -/
inductive Mode where
  | data
  | tagOpen
  | endTagOpen
  | tagName (closing : Bool) (name : Text)
  | beforeAttributeName
  | attributeName (name : Text)
  | afterAttributeName
  | beforeAttributeValue
  | doubleQuoted
  | singleQuoted
  | unquoted
  | afterAttributeValue
  | selfClosing
  | declaration
  deriving DecidableEq, Repr

/-- What a parser sees beside text. -/
inductive Event where
  | startTag (name : Text)
  | endTag (name : Text)
  | attribute (name : Text)
  deriving DecidableEq, Repr

def lessThan : UInt16 := 0x3C
def greaterThan : UInt16 := 0x3E
def slash : UInt16 := 0x2F
def equalsSign : UInt16 := 0x3D
def quote : UInt16 := 0x22
def apostrophe : UInt16 := 0x27

/-- Tab, line feed, form feed, carriage return and space. -/
def isSpace (codeUnit : UInt16) : Bool :=
  codeUnit ∈ ([0x09, 0x0A, 0x0C, 0x0D, 0x20] : List UInt16)

def isUpper (codeUnit : UInt16) : Bool :=
  0x41 ≤ codeUnit ∧ codeUnit ≤ 0x5A

def isAlpha (codeUnit : UInt16) : Bool :=
  isUpper codeUnit || (0x61 ≤ codeUnit ∧ codeUnit ≤ 0x7A : Bool)

/-- Names are compared in lower case. -/
def lower (codeUnit : UInt16) : UInt16 :=
  if isUpper codeUnit then codeUnit + 0x20 else codeUnit

def tagEvent (closing : Bool) (name : Text) : Event :=
  if closing then .endTag name.reverse else .startTag name.reverse

/-- A code unit inside a tag, between its attributes. -/
def stepInTag (codeUnit : UInt16) : Mode :=
  if isSpace codeUnit then .beforeAttributeName
  else if codeUnit = slash then .selfClosing
  else if codeUnit = greaterThan then .data
  else .attributeName [lower codeUnit]

/-- One code unit: the next state, and what has been completed. -/
def step (mode : Mode) (codeUnit : UInt16) : Mode × List Event :=
  match mode with
  | .data => (if codeUnit = lessThan then .tagOpen else .data, [])
  | .tagOpen =>
      if isAlpha codeUnit then (.tagName false [lower codeUnit], [])
      else if codeUnit = slash then (.endTagOpen, [])
      else if codeUnit = lessThan then (.tagOpen, [])
      else if codeUnit = 0x21 ∨ codeUnit = 0x3F then (.declaration, [])
      else (.data, [])
  | .endTagOpen =>
      if isAlpha codeUnit then (.tagName true [lower codeUnit], [])
      else if codeUnit = greaterThan then (.data, [])
      else (.declaration, [])
  | .tagName closing name =>
      if isSpace codeUnit then
        (.beforeAttributeName, [tagEvent closing name])
      else if codeUnit = slash then (.selfClosing, [tagEvent closing name])
      else if codeUnit = greaterThan then (.data, [tagEvent closing name])
      else (.tagName closing (lower codeUnit :: name), [])
  | .beforeAttributeName => (stepInTag codeUnit, [])
  | .attributeName name =>
      if isSpace codeUnit then
        (.afterAttributeName, [.attribute name.reverse])
      else if codeUnit = slash then
        (.selfClosing, [.attribute name.reverse])
      else if codeUnit = greaterThan then (.data, [.attribute name.reverse])
      else if codeUnit = equalsSign then
        (.beforeAttributeValue, [.attribute name.reverse])
      else (.attributeName (lower codeUnit :: name), [])
  | .afterAttributeName =>
      if isSpace codeUnit then (.afterAttributeName, [])
      else if codeUnit = equalsSign then (.beforeAttributeValue, [])
      else (stepInTag codeUnit, [])
  | .beforeAttributeValue =>
      if isSpace codeUnit then (.beforeAttributeValue, [])
      else if codeUnit = quote then (.doubleQuoted, [])
      else if codeUnit = apostrophe then (.singleQuoted, [])
      else if codeUnit = greaterThan then (.data, [])
      else (.unquoted, [])
  | .doubleQuoted =>
      (if codeUnit = quote then .afterAttributeValue else .doubleQuoted, [])
  | .singleQuoted =>
      (if codeUnit = apostrophe then .afterAttributeValue
        else .singleQuoted, [])
  | .unquoted =>
      if isSpace codeUnit then (.beforeAttributeName, [])
      else if codeUnit = greaterThan then (.data, [])
      else (.unquoted, [])
  | .afterAttributeValue => (stepInTag codeUnit, [])
  | .selfClosing =>
      (if codeUnit = greaterThan then .data else stepInTag codeUnit, [])
  | .declaration =>
      (if codeUnit = greaterThan then .data else .declaration, [])

/-- The state after a text. -/
def modeAfter (mode : Mode) : Text → Mode
  | [] => mode
  | codeUnit :: rest => modeAfter (step mode codeUnit).1 rest

/-- The tags and attributes of a text, in their order. -/
def events (mode : Mode) : Text → List Event
  | [] => []
  | codeUnit :: rest =>
      (step mode codeUnit).2 ++ events (step mode codeUnit).1 rest

theorem modeAfter_append (mode : Mode) (first second : Text) :
    modeAfter mode (first ++ second) =
      modeAfter (modeAfter mode first) second := by
  induction first generalizing mode with
  | nil => rfl
  | cons codeUnit rest inductionHypothesis => exact inductionHypothesis _

theorem events_append (mode : Mode) (first second : Text) :
    events mode (first ++ second) =
      events mode first ++ events (modeAfter mode first) second := by
  induction first generalizing mode with
  | nil => rfl
  | cons codeUnit rest inductionHypothesis =>
      simp only [List.cons_append, events, modeAfter, inductionHypothesis,
        List.append_assoc]

/-! ### Inert text -/

/-- Text that neither opens a tag nor ends a double-quoted value. -/
structure Inert (text : Text) : Prop where
  noTag : lessThan ∉ text
  noQuote : quote ∉ text

/-- The states in which inert text changes nothing. -/
def Mode.holdsText (mode : Mode) : Bool :=
  mode = .data || mode = .doubleQuoted

theorem Inert.tail {codeUnit : UInt16} {text : Text}
    (inert : Inert (codeUnit :: text)) : Inert text where
  noTag := fun member => inert.noTag (List.mem_cons_of_mem _ member)
  noQuote := fun member => inert.noQuote (List.mem_cons_of_mem _ member)

theorem Inert.step_eq {codeUnit : UInt16} {text : Text} {mode : Mode}
    (inert : Inert (codeUnit :: text)) (holds : mode.holdsText = true) :
    step mode codeUnit = (mode, []) := by
  have notTag : codeUnit ≠ lessThan := fun equal =>
    inert.noTag (equal ▸ List.mem_cons_self)
  have notQuote : codeUnit ≠ quote := fun equal =>
    inert.noQuote (equal ▸ List.mem_cons_self)
  cases mode with
  | data => simp [step, notTag]
  | doubleQuoted => simp [step, notQuote]
  | _ => simp [Mode.holdsText] at holds

theorem Inert.modeAfter_eq {text : Text} {mode : Mode}
    (inert : Inert text) (holds : mode.holdsText = true) :
    modeAfter mode text = mode := by
  induction text with
  | nil => rfl
  | cons codeUnit text inductionHypothesis =>
      rw [modeAfter, inert.step_eq holds]
      exact inductionHypothesis inert.tail

theorem Inert.events_eq {text : Text} {mode : Mode}
    (inert : Inert text) (holds : mode.holdsText = true) :
    events mode text = [] := by
  induction text with
  | nil => rfl
  | cons codeUnit text inductionHypothesis =>
      rw [events, inert.step_eq holds]
      exact inductionHypothesis inert.tail

/-! ### Templates -/

/-- A template with data in its places; what the template itself says is kept
apart from the data. -/
inductive Piece where
  | template (text : Text)
  | data (text : Text)

namespace Piece

def text : Piece → Text
  | template text => text
  | data text => text

/-- The text of the template, without the data. -/
def template? : Piece → Option Text
  | template text => some text
  | data _ => none

end Piece

/-- The text with its data. -/
def filled (pieces : List Piece) : Text :=
  pieces.flatMap Piece.text

/-- The text without its data. -/
def unfilled (pieces : List Piece) : Text :=
  pieces.flatMap fun piece => piece.template?.getD []

/-- The state after a template whose places all stand where text is inert;
`none` where one of them does not. -/
def placed (mode : Mode) : List (Option Text) → Option Mode
  | [] => some mode
  | some text :: rest => placed (modeAfter mode text) rest
  | none :: rest => if mode.holdsText then placed mode rest else none

theorem placed_append (mode : Mode) (first second : List (Option Text)) :
    placed mode (first ++ second) =
      (placed mode first).bind fun middle => placed middle second := by
  induction first generalizing mode with
  | nil => rfl
  | cons piece rest inductionHypothesis =>
      cases piece with
      | some text => exact inductionHypothesis _
      | none =>
          cases holds : mode.holdsText with
          | true => simp [placed, holds, inductionHypothesis]
          | false => simp [placed, holds]

/-- Inert data leaves the markup of a template as it is. -/
theorem events_filled
    {pieces : List Piece} {mode after : Mode}
    (isPlaced : placed mode (pieces.map Piece.template?) = some after)
    (inert : ∀ text, .data text ∈ pieces → Inert text) :
    events mode (filled pieces) = events mode (unfilled pieces) ∧
      modeAfter mode (filled pieces) = after := by
  induction pieces generalizing mode with
  | nil =>
      exact ⟨rfl, Option.some.inj isPlaced⟩
  | cons piece rest inductionHypothesis =>
      have restInert : ∀ text, .data text ∈ rest → Inert text :=
        fun text member => inert text (List.mem_cons_of_mem _ member)
      cases piece with
      | template text =>
          have restPlaced : placed (modeAfter mode text)
              (rest.map Piece.template?) = some after := isPlaced
          obtain ⟨sameEvents, modeEq⟩ :=
            inductionHypothesis restPlaced restInert
          constructor
          · change events mode (text ++ filled rest) =
              events mode (text ++ unfilled rest)
            rw [events_append, events_append, sameEvents]
          · change modeAfter mode (text ++ filled rest) = after
            rw [modeAfter_append, modeEq]
      | data text =>
          have own := inert text List.mem_cons_self
          have holds : mode.holdsText = true := by
            by_contra notHolds
            simp [Piece.template?, placed, notHolds] at isPlaced
          have restPlaced :
              placed mode (rest.map Piece.template?) = some after := by
            simpa [Piece.template?, placed, holds] using isPlaced
          obtain ⟨sameEvents, modeEq⟩ :=
            inductionHypothesis restPlaced restInert
          constructor
          · change events mode (text ++ filled rest) =
              events mode (unfilled rest)
            rw [events_append, own.events_eq holds, own.modeAfter_eq holds,
              List.nil_append, sameEvents]
          · change modeAfter mode (text ++ filled rest) = after
            rw [modeAfter_append, own.modeAfter_eq holds, modeEq]

end RtsNotebook.Library.Markup
