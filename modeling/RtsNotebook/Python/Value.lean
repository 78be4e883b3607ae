import Mathlib.Data.List.Basic
import RtsNotebook.Library.Double

/-!
# Python values

The values that `json.loads` returns, with what the sources do to them.  A
string is a sequence of code points, surrogates included.  Dictionaries keep
their items in insertion order.
-/

namespace RtsNotebook.Python

open RtsNotebook.Library

/-- A sequence of code points. -/
abbrev PyString := List Nat

/-- A string literal of the source. -/
def py (literal : String) : PyString :=
  literal.toList.map Char.toNat

/-- A value that `json.loads` returns. -/
inductive PyJson where
  | none
  | bool (value : Bool)
  | int (value : Int)
  | float (value : Double)
  | str (value : PyString)
  | list (items : List PyJson)
  | dict (items : List (PyString × PyJson))
  deriving Repr

/-- What ends a call without a result: an exception that nobody catches, or a
model that was given too little fuel. -/
inductive Stop where
  | raised
  | outOfFuel
  deriving DecidableEq, Repr

namespace PyJson

/-- `bool(value)` -/
def truthy : PyJson → Bool
  | none => false
  | bool value => value
  | int value => value ≠ 0
  | float value => value.nonzero
  | str value => value ≠ []
  | list items => !items.isEmpty
  | dict items => !items.isEmpty

/-- `first or second`, both without effects. -/
def orElse (first second : PyJson) : PyJson :=
  if first.truthy then first else second

/-- `isinstance(value, dict)` -/
def isDict : PyJson → Bool
  | dict _ => true
  | _ => false

/-- `value == text` -/
def isStr (value : PyJson) (text : PyString) : Bool :=
  match value with
  | str found => found = text
  | _ => false

/-- The string that a value is. -/
def str? : PyJson → Option PyString
  | str value => some value
  | _ => .none

/-- The items of a dictionary; anything else has no method `get`. -/
def items? : PyJson → Except Stop (List (PyString × PyJson))
  | dict items => .ok items
  | _ => .error .raised

end PyJson

/-- `items.get(key, default)` -/
def getD (items : List (PyString × PyJson)) (key : PyString)
    (default : PyJson) : PyJson :=
  (items.lookup key).getD default

/-- `items.get(key)` -/
def get (items : List (PyString × PyJson)) (key : PyString) : PyJson :=
  getD items key .none

@[simp]
theorem get_nil (key : PyString) : get [] key = .none :=
  rfl

theorem ok_of_bind
    {Fault Value Result : Type} {first : Except Fault Value}
    {rest : Value → Except Fault Result} {result : Result}
    (returned : (first >>= rest) = .ok result) :
    ∃ value, first = .ok value ∧ rest value = .ok result := by
  cases first with
  | error stop => cases returned
  | ok value => exact ⟨value, rfl, returned⟩

theorem bind_of_ok
    {Fault Value Result : Type} {first : Except Fault Value} {value : Value}
    (returned : first = .ok value) (rest : Value → Except Fault Result) :
    (first >>= rest) = rest value := by
  rw [returned]
  rfl

theorem exists_returned
    {Fault Result Part : Type} (call : Except Fault Result)
    (part : Result → Part) (value : Part)
    (known : call.toOption.map part = some value) :
    ∃ result, call = .ok result ∧ part result = value := by
  cases call with
  | error stop => cases known
  | ok result => exact ⟨result, rfl, Option.some.inj known⟩

/-! ### Strings -/

/-- The decimal digits of a natural number. -/
def natText (value : Nat) : PyString :=
  (Nat.toDigits 10 value).map Char.toNat

/-- `str.isspace` of one code point. -/
def isSpace (codePoint : Nat) : Bool :=
  codePoint ∈
    ([0x09, 0x0A, 0x0B, 0x0C, 0x0D, 0x1C, 0x1D, 0x1E, 0x1F, 0x20, 0x85,
      0xA0, 0x1680, 0x2000, 0x2001, 0x2002, 0x2003, 0x2004, 0x2005, 0x2006,
      0x2007, 0x2008, 0x2009, 0x200A, 0x2028, 0x2029, 0x202F, 0x205F,
      0x3000] : List Nat)

/-- `text.strip()` -/
def strip (text : PyString) : PyString :=
  ((text.dropWhile isSpace).reverse.dropWhile isSpace).reverse

/-- `text.strip(mark)` for one character. -/
def stripChar (mark : Nat) (text : PyString) : PyString :=
  ((text.dropWhile (· = mark)).reverse.dropWhile (· = mark)).reverse

/-- The code points that end a line for `splitlines`. -/
def isLineBreak (codePoint : Nat) : Bool :=
  codePoint ∈
    ([0x0A, 0x0B, 0x0C, 0x0D, 0x1C, 0x1D, 0x1E, 0x85, 0x2028, 0x2029] :
      List Nat)

/-- `text.splitlines()`, with the current line reversed. -/
def splitLinesFrom (line : PyString) : PyString → List PyString
  | [] => if line = [] then [] else [line.reverse]
  | 0x0D :: 0x0A :: rest => line.reverse :: splitLinesFrom [] rest
  | codePoint :: rest =>
      if isLineBreak codePoint then
        line.reverse :: splitLinesFrom [] rest
      else
        splitLinesFrom (codePoint :: line) rest

def splitLines (text : PyString) : List PyString :=
  splitLinesFrom [] text

/-- `text.lower()`, exact as far as the result holds ASCII letters: beside the
capitals, only the Kelvin sign and the dotted capital I have such letters in
their lower case. -/
def lower (text : PyString) : PyString :=
  text.flatMap fun codePoint =>
    if 0x41 ≤ codePoint ∧ codePoint ≤ 0x5A then
      [codePoint + 0x20]
    else if codePoint = 0x212A then
      [0x6B]
    else if codePoint = 0x130 then
      [0x69, 0x307]
    else
      [codePoint]

/-- `"\n".join(lines)` -/
def joinLines : List PyString → PyString
  | [] => []
  | [only] => only
  | first :: rest => first ++ [0x0A] ++ joinLines rest

end RtsNotebook.Python
