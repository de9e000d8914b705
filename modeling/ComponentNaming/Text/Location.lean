/-!
# Lines and columns

A place in a text is given to a reader by a line, counted from one, and by a column, the
number of bytes of the UTF-8 encoding between the start of the line and the place.
-/

set_option autoImplicit false

namespace ComponentNaming.Text

/-- The number of bytes of a text in UTF-8. -/
def byteLength : List Char → Nat
  | [] => 0
  | char :: text => char.utf8Size + byteLength text

/-- A line and a column. -/
structure Location where
  line : Nat
  column : Nat
  deriving DecidableEq, Repr

namespace Location

/-- The start of a text. -/
def start : Location := ⟨1, 0⟩

/-- The place after a character. -/
def step (location : Location) (char : Char) : Location :=
  if char = '\n' then ⟨location.line + 1, 0⟩
  else ⟨location.line, location.column + char.utf8Size⟩

/-- The place a number of bytes further on in a text. It may lie inside a character, and
it does not lie beyond the end. -/
def advance (location : Location) : List Char → Nat → Location
  | [], _ => location
  | char :: text, bytes =>
    if char.utf8Size ≤ bytes then advance (location.step char) text (bytes - char.utf8Size)
    else ⟨location.line, location.column + bytes⟩

/-- The place a number of bytes into a text. -/
def ofOffset (text : List Char) (bytes : Nat) : Location := start.advance text bytes

end Location

end ComponentNaming.Text
