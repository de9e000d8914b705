import ComponentNaming.Decimal.Layout
import ComponentNaming.Text.Location
import ComponentNaming.Text.Quoted

/-!
# What can be wrong with a JSON text

A function that reads a piece of a text yields what the piece says and the text after it.
Reading stops at the first fault. A `Fault` is a cause, and the place where
reading stopped: the text that was still to be read there, and how many bytes beyond its
beginning the fault is reported.

The wording of every cause is in `Cause.message`, and the place is reported as a line and
a column (`Fault.location`).
-/

set_option autoImplicit false

namespace ComponentNaming.Json

/-- A number that was read: an integer if it is written as one and fits in 64 bits, and a
float otherwise. -/
inductive Number where
  | integer (value : Int)
  | float (value : Float)

/-- Floats are written by place value from `0.00001` up to sixteen places before the point. -/
def floatLayout : Decimal.Layout := ⟨-5, 15⟩

example : floatLayout.write ⟨1, 15⟩ = "1000000000000000.0".toList := by decide +kernel
example : floatLayout.write ⟨1, 16⟩ = "1e16".toList := by decide +kernel
example : floatLayout.write ⟨1234, -2⟩ = "12.34".toList := by decide +kernel
example : floatLayout.write ⟨1, -5⟩ = "0.00001".toList := by decide +kernel
example : floatLayout.write ⟨1234, -10⟩ = "1.234e-7".toList := by decide +kernel

/-- What stands in a text in place of what was wanted. -/
inductive Found where
  | null
  | boolean (value : Bool)
  | number (value : Number)
  | text (value : String)
  | list
  | object

/-- The description of what was found. -/
def Found.describe : Found → String
  | null => "null"
  | boolean value => "boolean `" ++ (if value then "true" else "false") ++ "`"
  | number (.integer value) => "integer `" ++ toString value ++ "`"
  | number (.float value) => "floating point `" ++ floatLayout.writeFloat value ++ "`"
  | text value => "string " ++ Text.quote value
  | list => "sequence"
  | object => "map"

/-- What can be wanted at a place in a text. -/
inductive Wanted where
  | options
  | list
  | text
  deriving DecidableEq, Repr

/-- The description of what was wanted. -/
def Wanted.describe : Wanted → String
  | options => "struct Config"
  | list => "a sequence"
  | text => "a string"

/-- The causes for which a text is refused. -/
inductive Cause where
  | endInList
  | endInObject
  | endInText
  | endInValue
  | expectedColon
  | expectedCommaOrListEnd
  | expectedCommaOrObjectEnd
  | expectedWord
  | expectedValue
  | invalidEscape
  | invalidNumber
  | numberOutOfRange
  | controlCharacter
  | keyIsNoText
  | unpairedSurrogate
  | brokenSurrogatePair
  | trailingComma
  | trailingCharacters
  | wrongType (found : Found) (wanted : Wanted)
  | repeatedField (key : String)

/-- The wording of a cause. -/
def Cause.message : Cause → String
  | endInList => "EOF while parsing a list"
  | endInObject => "EOF while parsing an object"
  | endInText => "EOF while parsing a string"
  | endInValue => "EOF while parsing a value"
  | expectedColon => "expected `:`"
  | expectedCommaOrListEnd => "expected `,` or `]`"
  | expectedCommaOrObjectEnd => "expected `,` or `\x7d`"
  | expectedWord => "expected ident"
  | expectedValue => "expected value"
  | invalidEscape => "invalid escape"
  | invalidNumber => "invalid number"
  | numberOutOfRange => "number out of range"
  | controlCharacter => "control character (\\u0000-\\u001F) found while parsing a string"
  | keyIsNoText => "key must be a string"
  | unpairedSurrogate => "lone leading surrogate in hex escape"
  | brokenSurrogatePair => "unexpected end of hex escape"
  | trailingComma => "trailing comma"
  | trailingCharacters => "trailing characters"
  | wrongType found wanted =>
    "invalid type: " ++ found.describe ++ ", expected " ++ wanted.describe
  | repeatedField key => "duplicate field `" ++ key ++ "`"

/-- A cause and the place where reading stopped. -/
structure Fault where
  cause : Cause
  /-- The text that was still to be read. -/
  rest : List Char
  /-- The number of bytes from the beginning of `rest` to the place that is reported. -/
  ahead : Nat

namespace Fault

/-- A fault right before the text that is still to be read. -/
def here (cause : Cause) (rest : List Char) : Fault := ⟨cause, rest, 0⟩

/-- A fault at the next byte, which is counted as read. At the end of the text there is
none to count. -/
def next (cause : Cause) : List Char → Fault
  | [] => ⟨cause, [], 0⟩
  | rest => ⟨cause, rest, 1⟩

/-- The place of a fault in the whole text. -/
def location (fault : Fault) (whole : List Char) : Text.Location :=
  .ofOffset whole (Text.byteLength whole - Text.byteLength fault.rest + fault.ahead)

end Fault

end ComponentNaming.Json
