import RtsNotebook.Js.RegExp.Parser

/-!
# Matching regular expressions

A matcher gives the states in which it may go on, in the order in which
backtracking tries them.
-/

namespace RtsNotebook.Js.RegExp

/-! ### Characters -/

def isWordCharacter (codeUnit : UInt16) : Bool :=
  isLetter codeUnit || isDigit codeUnit || codeUnit = unit '_'

def ClassEscape.holds : ClassEscape → UInt16 → Bool
  | digit => isDigit
  | space => isWhiteSpace
  | word => isWordCharacter

def ClassItem.holds : ClassItem → UInt16 → Bool
  | range first last, codeUnit => first ≤ codeUnit ∧ codeUnit ≤ last
  | escape kind negated, codeUnit => kind.holds codeUnit ≠ negated

/-- What a text is matched against. -/
structure Input where
  text : JsString
  /-- `Canonicalize`, where the case is ignored. -/
  canonicalize : Option (UInt16 → UInt16)

def Input.sameCharacter (input : Input) (first second : UInt16) : Bool :=
  match input.canonicalize with
  | none => first = second
  | some canonicalize => canonicalize first = canonicalize second

/-- All code units. -/
def allUnits : List UInt16 :=
  (List.range 65536).map UInt16.ofNat

/-- `CharacterSetMatcher` -/
def CharSet.holds (set : CharSet) (input : Input) (codeUnit : UInt16) : Bool :=
  let found :=
    match input.canonicalize with
    | none => set.items.any fun item => item.holds codeUnit
    | some canonicalize =>
        allUnits.any fun member =>
          set.items.any (fun item => item.holds member) &&
            canonicalize member = canonicalize codeUnit
  found ≠ set.inverted

/-! ### Assertions -/

/-- `IsWordChar` of the code unit behind an index. -/
def wordAt (text : JsString) (index : Nat) : Bool :=
  text[index]?.any isWordCharacter

/-- Whether the code unit before an index is a word character. -/
def wordBefore (text : JsString) (index : Nat) : Bool :=
  index ≠ 0 && wordAt text (index - 1)

/-- `\b` -/
def isBoundary (text : JsString) (index : Nat) : Bool :=
  wordBefore text index ≠ wordAt text index

def Assertion.holds (text : JsString) : Assertion → Nat → Bool
  | inputStart, index => index = 0
  | inputEnd, index => index = text.length
  | wordBoundary, index => isBoundary text index
  | notWordBoundary, index => !isBoundary text index

/-! ### Matchers -/

/-- `MatchState`, with the range that each group captured. -/
structure MatchState where
  index : Nat
  captures : List (Option (Nat × Nat))
  deriving DecidableEq

inductive Direction where
  | forward
  | backward
  deriving DecidableEq

/-- The code unit that comes next in a direction, and the index behind it. -/
def Input.next? (input : Input) (index : Nat) :
    Direction → Option (UInt16 × Nat)
  | .forward => input.text[index]?.map fun codeUnit => (codeUnit, index + 1)
  | .backward =>
      match index with
      | 0 => none
      | before + 1 => input.text[before]?.map fun codeUnit => (codeUnit, before)

/-- The groups of a part of a pattern. -/
def Node.groups : Node → List Nat
  | empty => []
  | set _ => []
  | assertion _ => []
  | seq first second => first.groups ++ second.groups
  | alt first second => first.groups ++ second.groups
  | group index body => index :: body.groups
  | look _ _ body => body.groups
  | repeated _ _ _ body => body.groups
  | backReference _ => []

def MatchState.forget (state : MatchState) (groups : List Nat) : MatchState where
  index := state.index
  captures := groups.foldl (fun captures group => captures.set group none)
    state.captures

/-- The state behind a group that was entered at an index. -/
def MatchState.capture (state : MatchState) (group entered : Nat) :
    MatchState where
  index := state.index
  captures := state.captures.set group
    (some (min entered state.index, max entered state.index))

/-- The rounds of `RepeatMatcher` behind the required ones.  A round that does
not move is not taken, so that each round uses up a code unit of the text. -/
def repeatFreely (round : MatchState → List MatchState) (greedy : Bool) :
    Nat → Option Nat → MatchState → List MatchState
  | 0, _, state => [state]
  | fuel + 1, max, state =>
      if max = some 0 then
        [state]
      else
        let more := (round state).flatMap fun next =>
          if next.index = state.index then
            []
          else
            repeatFreely round greedy fuel (max.map (· - 1)) next
        if greedy then more ++ [state] else state :: more

/-- `RepeatMatcher` -/
def repeatMatcher (round : MatchState → List MatchState) (greedy : Bool)
    (fuel : Nat) : Nat → Option Nat → MatchState → List MatchState
  | 0, max, state => repeatFreely round greedy fuel max state
  | min + 1, max, state =>
      (round state).flatMap
        (repeatMatcher round greedy fuel min (max.map (· - 1)))

/-- Whether the text has a captured string at an index. -/
def Input.hasAt (input : Input) (captured : JsString) (index : Nat) : Bool :=
  let found := (input.text.drop index).take captured.length
  found.length = captured.length &&
    (found.zip captured).all fun (one, other) => input.sameCharacter one other

/-- `BackreferenceMatcher` -/
def backReferenceMatcher (input : Input) (group : Nat) (direction : Direction)
    (state : MatchState) : List MatchState :=
  match state.captures[group]?.join with
  | none => [state]
  | some (first, last) =>
      let captured := (input.text.drop first).take (last - first)
      match direction with
      | .forward =>
          if input.hasAt captured state.index then
            [{ state with index := state.index + captured.length }]
          else
            []
      | .backward =>
          if captured.length ≤ state.index ∧
              input.hasAt captured (state.index - captured.length) = true then
            [{ state with index := state.index - captured.length }]
          else
            []

/-- `CompileSubpattern`: the states in which matching may go on, the preferred
one first. -/
def Node.matches (input : Input) :
    Node → Direction → MatchState → List MatchState
  | empty, _, state => [state]
  | set characters, direction, state =>
      match input.next? state.index direction with
      | some (codeUnit, index) =>
          if characters.holds input codeUnit then
            [{ state with index := index }]
          else
            []
      | none => []
  | assertion kind, _, state =>
      if kind.holds input.text state.index then [state] else []
  | seq first second, .forward, state =>
      (first.matches input .forward state).flatMap
        (second.matches input .forward)
  | seq first second, .backward, state =>
      (second.matches input .backward state).flatMap
        (first.matches input .backward)
  | alt first second, direction, state =>
      first.matches input direction state ++
        second.matches input direction state
  | group index body, direction, state =>
      (body.matches input direction state).map fun next =>
        next.capture index state.index
  | look behind negative body, _, state =>
      match body.matches input
          (if behind then .backward else .forward) state with
      | [] => if negative then [state] else []
      | found :: _ =>
          if negative then
            []
          else
            [{ index := state.index, captures := found.captures }]
  | repeated min max greedy body, direction, state =>
      repeatMatcher
        (fun state => body.matches input direction (state.forget body.groups))
        greedy input.text.length min max state
  | backReference index, direction, state =>
      backReferenceMatcher input index direction state

/-! ### Searching -/

/-- A compiled expression with the flag `g`. -/
structure Expression where
  pattern : Pattern
  canonicalize : Option (UInt16 → UInt16)

namespace Expression

def input (regex : Expression) (text : JsString) : Input where
  text := text
  canonicalize := regex.canonicalize

/-- The end of the match that begins at an index. -/
def matchAt (regex : Expression) (text : JsString) (start : Nat) : Option Nat :=
  ((regex.pattern.node.matches (regex.input text) .forward
    { index := start
      captures := List.replicate regex.pattern.groups none }).head?).map
        MatchState.index

/-- `exec` from `lastIndex`, with the range of the match. -/
def exec (regex : Expression) (text : JsString) (lastIndex : Nat) :
    Option (Nat × Nat) :=
  (List.range' lastIndex (text.length + 1 - lastIndex)).findSome? fun start =>
    (regex.matchAt text start).map fun finish => (start, finish)

end Expression

/-! ### Compiling -/

/-- What an engine brings along: the tables of Unicode and the texts of its
errors. -/
structure Engine where
  /-- The identifier that the name of a group spells. -/
  identifierName : JsString → Option JsString
  toUppercase : JsString → JsString
  /-- The message of the `SyntaxError` for a pattern and its flags. -/
  errorMessage : JsString → JsString → JsString

/-- `Canonicalize` with the flag `i` -/
def Engine.canonicalize (engine : Engine) (codeUnit : UInt16) : UInt16 :=
  match engine.toUppercase [codeUnit] with
  | [upper] => if 128 ≤ codeUnit ∧ upper < 128 then codeUnit else upper
  | _ => codeUnit

/-- `new RegExp(text, flags)` with the flag `g` and maybe `i`; `none` stands for
the `SyntaxError`. -/
def Engine.compile (engine : Engine) (text : JsString) (ignoreCase : Bool) :
    Option Expression :=
  (parsePattern engine.identifierName text).map fun pattern =>
    { pattern := pattern
      canonicalize := if ignoreCase then some engine.canonicalize else none }

end RtsNotebook.Js.RegExp
