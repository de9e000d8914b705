import ComponentNaming.Json.Number
import ComponentNaming.Json.Space
import ComponentNaming.Json.Text

/-!
# Values of a wrong type

Where a text, a list or an object is wanted, another value may stand. It is read far
enough to say what it is: a word, a number or a text is read whole, and a fault in it comes
first. Of a list or an object nothing is read.
-/

set_option autoImplicit false

namespace ComponentNaming.Json

/-- Reads a value to say what it is. -/
def found : List Char → Except Fault (Found × List Char)
  | 'n' :: text => (word ['u', 'l', 'l'] text).map fun rest => (.null, rest)
  | 't' :: text => (word ['r', 'u', 'e'] text).map fun rest => (.boolean true, rest)
  | 'f' :: text => (word ['a', 'l', 's', 'e'] text).map fun rest => (.boolean false, rest)
  | '"' :: text => (quoted text).map fun (chars, rest) => (.text (String.ofList chars), rest)
  | '[' :: text => .ok (.list, '[' :: text)
  | '\x7b' :: text => .ok (.object, '\x7b' :: text)
  | text =>
    if text.head? = some '-' ∨ startsWithDigit text then
      (number text).map fun (value, rest) => (.number value, rest)
    else .error (.next .expectedValue text)

/-- The fault of a value that is not what is wanted. -/
def mismatch (wanted : Wanted) (text : List Char) : Fault :=
  match found text with
  | .ok (found, rest) => .here (.wrongType found wanted) rest
  | .error fault => fault

end ComponentNaming.Json
