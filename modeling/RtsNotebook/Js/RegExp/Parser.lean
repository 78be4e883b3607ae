import Mathlib.Data.Option.Basic
import RtsNotebook.Js.RegExp.Lexer

/-!
# Parsing regular expressions

The tokens of a pattern are read from the left.  An opening parenthesis sets the
group around it aside, and its closing one goes back to it.
-/

namespace RtsNotebook.Js.RegExp

open RtsNotebook.Library

/-- A part of a pattern. -/
inductive Node where
  | empty
  | set (set : CharSet)
  | assertion (assertion : Assertion)
  | seq (first second : Node)
  | alt (first second : Node)
  | group (index : Nat) (body : Node)
  | look (behind negative : Bool) (body : Node)
  | repeated (min : Nat) (max : Option Nat) (greedy : Bool) (body : Node)
  | backReference (index : Nat)
  deriving DecidableEq

/-- A group in the making: the terms of its current alternative and its earlier
alternatives, each from the last one back.  A pending term may still be
quantified. -/
structure Level where
  settled : List Node
  pending : Option Node
  earlier : List (List Node)

/-- What becomes of a group when it is closed. -/
inductive GroupKind where
  | capturing (index : Nat)
  | plain
  | look (behind negative : Bool)
  deriving DecidableEq

/-- The group that is read, those around it and the number of capturing groups
so far. -/
structure ParseState where
  level : Level
  outer : List (GroupKind × Level)
  captures : Nat

namespace Level

def start : Level where
  settled := []
  pending := none
  earlier := []

def terms (level : Level) : List Node :=
  level.pending.toList ++ level.settled

/-- A term that no quantifier may follow. -/
def settle (level : Level) (node : Node) : Level where
  settled := node :: level.terms
  pending := none
  earlier := level.earlier

def push (level : Level) (node : Node) : Level where
  settled := level.terms
  pending := some node
  earlier := level.earlier

def bar (level : Level) : Level where
  settled := []
  pending := none
  earlier := level.terms :: level.earlier

def quantify? (level : Level) (min : Nat) (max : Option Nat) (greedy : Bool) :
    Option Level :=
  match level.pending with
  | some node =>
      if max.all fun most => min ≤ most then
        some
          { settled := .repeated min max greedy node :: level.settled
            pending := none
            earlier := level.earlier }
      else
        none
  | none => none

/-- The terms of an alternative, from the last one back. -/
def branch (terms : List Node) : Node :=
  terms.foldl (fun rest term => .seq term rest) .empty

/-- The alternatives in their order. -/
def alternatives (level : Level) : List Node :=
  ((level.terms :: level.earlier).map branch).reverse

end Level

/-- A choice between alternatives. -/
def Node.choice : List Node → Node
  | [] => .empty
  | [only] => only
  | first :: rest => .alt first (choice rest)

def Level.node (level : Level) : Node :=
  Node.choice level.alternatives

/-- The names of the groups with their indices. -/
def groupNames (tokens : List Token) : List (JsString × Nat) :=
  (captureNames tokens).zipIdx.filterMap fun (name, index) =>
    name.map fun name => (name, index)

/-- Add a closed group to the one around it.  A lookbehind may not be
quantified. -/
def GroupKind.close (kind : GroupKind) (body : Node) (level : Level) : Level :=
  match kind with
  | capturing index => level.push (.group index body)
  | plain => level.push body
  | look false negative => level.push (.look false negative body)
  | look true negative => level.settle (.look true negative body)

/-- The kind of the next group, and the number of groups with it. -/
def Opening.kind : Opening → Nat → GroupKind × Nat
  | capturing _, captures => (.capturing captures, captures + 1)
  | plain, captures => (.plain, captures)
  | look behind negative, captures => (.look behind negative, captures)

/-- A token that neither opens nor closes a group. -/
def Level.read? (names : List (JsString × Nat)) (level : Level) :
    Token → Option Level
  | .bar => some level.bar
  | .quantifier min max greedy => level.quantify? min max greedy
  | .assertion assertion => some (level.settle (.assertion assertion))
  | .set set => some (level.push (.set set))
  | .backReference index => some (level.push (.backReference (index - 1)))
  | .namedReference name =>
      (names.lookup name).map fun index => level.push (.backReference index)
  | .opening _ => none
  | .close => none

/-- One token of a pattern. -/
def ParseState.read? (names : List (JsString × Nat)) (state : ParseState)
    (token : Token) : Option ParseState :=
  match token with
  | .opening opening =>
      let (kind, captures) := opening.kind state.captures
      some
        { level := .start
          outer := (kind, state.level) :: state.outer
          captures := captures }
  | .close =>
      match state.outer with
      | [] => none
      | (kind, level) :: outer =>
          some
            { level := kind.close state.level.node level
              outer := outer
              captures := state.captures }
  | token =>
      (state.level.read? names token).map fun level =>
        { state with level := level }

def ParseState.start : ParseState where
  level := .start
  outer := []
  captures := 0

/-- The outermost group of a list of tokens. -/
def parseTokens? (tokens : List Token) : Option (Level × Nat) := do
  let names := groupNames tokens
  guard (names.map Prod.fst).Nodup
  let state ← tokens.foldlM (ParseState.read? names) .start
  guard (state.outer = [])
  pure (state.level, state.captures)

/-- A parsed pattern: its alternatives and the number of its groups. -/
structure Pattern where
  alternatives : List Node
  groups : Nat
  deriving DecidableEq

def Pattern.node (pattern : Pattern) : Node :=
  Node.choice pattern.alternatives

/-- `ParsePattern`; `none` stands for a syntax error. -/
def parsePattern (identifierName : JsString → Option JsString)
    (text : JsString) : Option Pattern := do
  let tokens ← tokensOf identifierName text
  let (level, groups) ← parseTokens? tokens
  pure { alternatives := level.alternatives, groups := groups }

end RtsNotebook.Js.RegExp
