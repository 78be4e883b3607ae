import RtsNotebook.Js.Number
import RtsNotebook.Library.Scanner

/-!
# The tokens of a regular expression

The pattern grammar of ECMAScript without the flags `u` and `v`, with the
additions for web browsers, cut into tokens.  What a token is depends on whether
the pattern names a group and on how many groups capture.
-/

namespace RtsNotebook.Js.RegExp

open RtsNotebook.Library

/-! ### Tokens -/

/-- `\d`, `\s` and `\w` -/
inductive ClassEscape where
  | digit
  | space
  | word
  deriving DecidableEq

/-- A part of a character class. -/
inductive ClassItem where
  | range (first last : UInt16)
  | escape (kind : ClassEscape) (negated : Bool)
  deriving DecidableEq

structure CharSet where
  items : List ClassItem
  inverted : Bool
  deriving DecidableEq

inductive Assertion where
  | inputStart
  | inputEnd
  | wordBoundary
  | notWordBoundary
  deriving DecidableEq

/-- What stands behind an opening parenthesis. -/
inductive Opening where
  | capturing (name : Option JsString)
  | plain
  | look (behind negative : Bool)
  deriving DecidableEq

inductive Token where
  | bar
  | opening (opening : Opening)
  | close
  | quantifier (min : Nat) (max : Option Nat) (greedy : Bool)
  | assertion (assertion : Assertion)
  | set (set : CharSet)
  | backReference (index : Nat)
  | namedReference (name : JsString)
  deriving DecidableEq

namespace CharSet

def single (codeUnit : UInt16) : CharSet where
  items := [.range codeUnit codeUnit]
  inverted := false

/-- All code units but the line terminators. -/
def dot : CharSet where
  items := [.range 0 0x09, .range 0x0B 0x0C, .range 0x0E 0x2027,
    .range 0x202A 0xFFFF]
  inverted := false

end CharSet

/-! ### Scanners -/

/-- Reads code units. -/
abbrev Reader := Scanner UInt16

def isOctalDigit (codeUnit : UInt16) : Bool :=
  unit '0' ≤ codeUnit ∧ codeUnit ≤ unit '7'

def isLetter (codeUnit : UInt16) : Bool :=
  unit 'a' ≤ codeUnit ∧ codeUnit ≤ unit 'z' ∨
    unit 'A' ≤ codeUnit ∧ codeUnit ≤ unit 'Z'

def isHexDigit (codeUnit : UInt16) : Bool :=
  (digitValue 16 codeUnit).isSome

/-- The number that some digits denote. -/
def numberOf (radix : Nat) (digits : JsString) : Nat :=
  (digitsValue radix digits).getD 0

def decimal : Reader Nat := do
  let digits ← Scanner.someRun isDigit
  pure (numberOf 10 digits)

/-- The end of a braced quantifier behind its first number. -/
def bracesEnd (min : Nat) : Reader (Nat × Option Nat) := do
  let _ ← Scanner.expect (unit ',')
  (do
    let max ← decimal
    let _ ← Scanner.expect (unit '}')
    pure (min, some max)) <|> (do
    let _ ← Scanner.expect (unit '}')
    pure (min, none))

/-- A braced quantifier behind its opening brace. -/
def braces : Reader (Nat × Option Nat) := do
  let min ← decimal
  (do
    let _ ← Scanner.expect (unit '}')
    pure (min, some min)) <|> bracesEnd min

/-- A question mark makes a quantifier lazy. -/
def quantifierEnd (min : Nat) (max : Option Nat) : Reader Token := (do
    let _ ← Scanner.expect (unit '?')
    pure (.quantifier min max false)) <|>
  pure (.quantifier min max true)

/-! ### Escapes -/

/-- What the grammar of a pattern depends on, and the reading of the names. -/
structure Rules where
  /-- Some group has a name. -/
  named : Bool
  /-- The number of capturing groups. -/
  groups : Nat
  /-- The identifier that a text is, unescaped. -/
  identifierName : JsString → Option JsString

def classEscape (codeUnit : UInt16) : Option ClassItem :=
  if codeUnit = unit 'd' then some (.escape .digit false)
  else if codeUnit = unit 'D' then some (.escape .digit true)
  else if codeUnit = unit 's' then some (.escape .space false)
  else if codeUnit = unit 'S' then some (.escape .space true)
  else if codeUnit = unit 'w' then some (.escape .word false)
  else if codeUnit = unit 'W' then some (.escape .word true)
  else none

def controlEscape (codeUnit : UInt16) : Option UInt16 :=
  if codeUnit = unit 'f' then some 0x0C
  else if codeUnit = unit 'n' then some 0x0A
  else if codeUnit = unit 'r' then some 0x0D
  else if codeUnit = unit 't' then some 0x09
  else if codeUnit = unit 'v' then some 0x0B
  else none

def hexDigits : Nat → Reader JsString
  | 0 => pure []
  | count + 1 => do
      let first ← Scanner.satisfying isHexDigit
      let others ← hexDigits count
      pure (first :: others)

/-- The digits behind `\x` or `\u`; without them the letter stands for itself. -/
def hexEscape (letter : UInt16) (count : Nat) : Reader UInt16 := (do
    let digits ← hexDigits count
    pure (UInt16.ofNat (numberOf 16 digits))) <|>
  pure letter

/-- At most so many further octal digits. -/
def octalDigits : Nat → Reader JsString
  | 0 => pure []
  | count + 1 => (do
      let first ← Scanner.satisfying isOctalDigit
      let others ← octalDigits count
      pure (first :: others)) <|>
    pure []

/-- A legacy octal escape behind its first digit. -/
def octalEscape (first : UInt16) : Reader UInt16 := do
  let others ← octalDigits (if first ≤ unit '3' then 2 else 1)
  pure (UInt16.ofNat (numberOf 8 (first :: others)))

/-- `CharacterEscape` behind its first code unit, without `\c`. -/
def characterEscape (rules : Rules) (codeUnit : UInt16) : Reader UInt16 :=
  match controlEscape codeUnit with
  | some control => pure control
  | none =>
      if isOctalDigit codeUnit then octalEscape codeUnit
      else if codeUnit = unit 'x' then hexEscape codeUnit 2
      else if codeUnit = unit 'u' then hexEscape codeUnit 4
      else if codeUnit = unit 'k' ∧ rules.named = true then failure
      else pure codeUnit

/-- The name of a group behind its opening bracket. -/
def groupName (rules : Rules) : Reader JsString := do
  let text ← Scanner.upTo (unit '>')
  match rules.identifierName text with
  | some name => pure name
  | none => failure

/-- `\c` with one of the letters that may follow; without one the code unit `\`
stands for itself. -/
def controlOr (letters : UInt16 → Bool) : Reader UInt16 := (do
    let _ ← Scanner.expect (unit 'c')
    let letter ← Scanner.satisfying letters
    pure (letter % 32)) <|>
  pure (unit '\\')

/-! ### Character classes -/

/-- A class atom: a code unit or a class escape. -/
abbrev ClassAtom := UInt16 ⊕ ClassItem

def atomItem : ClassAtom → ClassItem
  | .inl codeUnit => .range codeUnit codeUnit
  | .inr item => item

/-- A class atom behind a backslash. -/
def classAtomEscape (rules : Rules) : Reader ClassAtom := do
  if ← Scanner.aheadIs (unit 'c') then
    let control ← controlOr fun codeUnit =>
      isLetter codeUnit || isDigit codeUnit || codeUnit = unit '_'
    pure (.inl control)
  else
    let codeUnit ← Scanner.next
    if codeUnit = unit 'b' then
      pure (.inl 0x08)
    else
      match classEscape codeUnit with
      | some item => pure (.inr item)
      | none =>
          let character ← characterEscape rules codeUnit
          pure (.inl character)

def classAtom (rules : Rules) : Reader ClassAtom := do
  let codeUnit ← Scanner.next
  if codeUnit = unit '\\' then
    classAtomEscape rules
  else
    pure (.inl codeUnit)

/-- `CharacterRangeOrUnion`: with a class escape the hyphen stands for itself. -/
def rangeOrUnion : ClassAtom → ClassAtom → Reader (List ClassItem)
  | .inl first, .inl last =>
      if first ≤ last then pure [.range first last] else failure
  | first, last =>
      pure [atomItem first, .range (unit '-') (unit '-'), atomItem last]

/-- A class atom, or a range of two. -/
def classRange (rules : Rules) : Reader (List ClassItem) := do
  let first ← classAtom rules
  if ← Scanner.accepts (unit '-') then
    if ← Scanner.aheadIs (unit ']') then
      pure [atomItem first, .range (unit '-') (unit '-')]
    else
      let last ← classAtom rules
      rangeOrUnion first last
  else
    pure [atomItem first]

/-- A character class behind its opening bracket. -/
def characterClass (rules : Rules) : Reader CharSet := do
  let inverted ← Scanner.accepts (unit '^')
  let items ← Scanner.manyUpTo (unit ']') (classRange rules)
  pure { items := items.flatten, inverted := inverted }

/-! ### Tokens of a pattern -/

/-- A back reference to one of the groups. -/
def decimalEscape (rules : Rules) : Reader Token := do
  let first ← Scanner.satisfying fun codeUnit =>
    isDigit codeUnit && codeUnit ≠ unit '0'
  let others ← Scanner.run isDigit
  if numberOf 10 (first :: others) ≤ rules.groups then
    pure (.backReference (numberOf 10 (first :: others)))
  else
    failure

/-- An escape that is no back reference to a number. -/
def otherEscape (rules : Rules) : Reader Token := do
  if ← Scanner.aheadIs (unit 'c') then
    let control ← controlOr isLetter
    pure (.set (.single control))
  else
    let codeUnit ← Scanner.next
    if codeUnit = unit 'b' then
      pure (.assertion .wordBoundary)
    else if codeUnit = unit 'B' then
      pure (.assertion .notWordBoundary)
    else if codeUnit = unit 'k' ∧ rules.named = true then
      let _ ← Scanner.expect (unit '<')
      let name ← groupName rules
      pure (.namedReference name)
    else
      match classEscape codeUnit with
      | some item => pure (.set { items := [item], inverted := false })
      | none =>
          let character ← characterEscape rules codeUnit
          pure (.set (.single character))

/-- An escape behind its backslash. -/
def escape (rules : Rules) : Reader Token :=
  decimalEscape rules <|> otherEscape rules

/-- What opens a group, behind its parenthesis. -/
def groupOpening (rules : Rules) : Reader Opening := do
  if ← Scanner.accepts (unit '?') then
    let kind ← Scanner.next
    if kind = unit ':' then
      pure .plain
    else if kind = unit '=' then
      pure (.look false false)
    else if kind = unit '!' then
      pure (.look false true)
    else if kind = unit '<' then
      if ← Scanner.accepts (unit '=') then
        pure (.look true false)
      else if ← Scanner.accepts (unit '!') then
        pure (.look true true)
      else
        let name ← groupName rules
        pure (.capturing (some name))
    else
      failure
  else
    pure (.capturing none)

/-- A quantifier in braces, or the opening brace itself. -/
def brace : Reader Token := (do
    let bounds ← braces
    quantifierEnd bounds.1 bounds.2) <|>
  pure (.set (.single (unit '{')))

/-- The token that begins with a code unit. -/
def tokenFrom (rules : Rules) (codeUnit : UInt16) : Reader Token :=
  if codeUnit = unit '|' then
    pure .bar
  else if codeUnit = unit '(' then do
    let opening ← groupOpening rules
    pure (.opening opening)
  else if codeUnit = unit ')' then
    pure .close
  else if codeUnit = unit '*' then
    quantifierEnd 0 none
  else if codeUnit = unit '+' then
    quantifierEnd 1 none
  else if codeUnit = unit '?' then
    quantifierEnd 0 (some 1)
  else if codeUnit = unit '{' then
    brace
  else if codeUnit = unit '^' then
    pure (.assertion .inputStart)
  else if codeUnit = unit '$' then
    pure (.assertion .inputEnd)
  else if codeUnit = unit '.' then
    pure (.set .dot)
  else if codeUnit = unit '[' then do
    let set ← characterClass rules
    pure (.set set)
  else if codeUnit = unit '\\' then
    escape rules
  else
    pure (.set (.single codeUnit))

def nextToken (rules : Rules) : Reader Token := do
  let codeUnit ← Scanner.next
  tokenFrom rules codeUnit

def tokensWith (rules : Rules) (pattern : JsString) : Option (List Token) :=
  Scanner.all (nextToken rules) pattern.length pattern

/-- The names of the capturing groups, `none` for a group without one. -/
def captureNames (tokens : List Token) : List (Option JsString) :=
  tokens.filterMap fun token =>
    match token with
    | .opening (.capturing name) => some name
    | _ => none

/-- The tokens of a pattern.  The groups are counted first. -/
def tokensOf (identifierName : JsString → Option JsString)
    (pattern : JsString) : Option (List Token) := do
  let counted ← tokensWith
    { named := false, groups := 0, identifierName := identifierName } pattern
  let names := captureNames counted
  tokensWith
    { named := names.any Option.isSome
      groups := names.length
      identifierName := identifierName } pattern

end RtsNotebook.Js.RegExp
