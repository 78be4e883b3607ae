import Mathlib.Data.List.Basic

/-!
# JavaScript strings

A JavaScript string is a sequence of UTF-16 code units; unpaired surrogates
are allowed.  A string literal of the source is written as a Lean string and
encoded by `js`.
-/

namespace RtsNotebook.Js

/-- A sequence of UTF-16 code units. -/
abbrev JsString := List UInt16

instance : LawfulBEq JsString :=
  inferInstance

/-- The UTF-16 encoding of one character. -/
def unitsOfChar (character : Char) : JsString :=
  if character.toNat < 0x10000 then
    [UInt16.ofNat character.toNat]
  else
    [UInt16.ofNat (0xD800 + (character.toNat - 0x10000) / 0x400),
      UInt16.ofNat (0xDC00 + (character.toNat - 0x10000) % 0x400)]

/-- A string literal of the source. -/
def js (literal : String) : JsString :=
  literal.toList.flatMap unitsOfChar

theorem js_ofList (characters : List Char) :
    js (String.ofList characters) = characters.flatMap unitsOfChar := by
  unfold js
  rw [String.toList_ofList]

/-- The code unit of a character of the basic plane. -/
def unit (character : Char) : UInt16 :=
  UInt16.ofNat character.toNat

/-- The `WhiteSpace` and `LineTerminator` code units of ECMAScript, which
`trim` and numeric conversion strip. -/
def isWhiteSpace (codeUnit : UInt16) : Bool :=
  codeUnit ∈
    ([0x09, 0x0A, 0x0B, 0x0C, 0x0D, 0x20, 0xA0, 0x1680, 0x2000, 0x2001,
      0x2002, 0x2003, 0x2004, 0x2005, 0x2006, 0x2007, 0x2008, 0x2009,
      0x200A, 0x2028, 0x2029, 0x202F, 0x205F, 0x3000, 0xFEFF] : List UInt16)

/-- `String.prototype.trim`. -/
def trim (text : JsString) : JsString :=
  ((text.dropWhile isWhiteSpace).reverse.dropWhile isWhiteSpace).reverse

/-- `String.prototype.trimEnd`. -/
def trimEnd (text : JsString) : JsString :=
  (text.reverse.dropWhile isWhiteSpace).reverse

def newline : UInt16 := unit '\n'

def carriageReturn : UInt16 := unit '\r'

/-- `line.replace(/\r$/, '')` -/
def dropReturn (line : JsString) : JsString :=
  if line.getLast? = some (unit '\r') then line.dropLast else line

/-- `Array.prototype.join` on strings. -/
def join (separator : JsString) : List JsString → JsString
  | [] => []
  | [only] => only
  | first :: rest => first ++ separator ++ join separator rest

end RtsNotebook.Js
