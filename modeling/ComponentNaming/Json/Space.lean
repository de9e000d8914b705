import ComponentNaming.Json.Fault

/-!
# White space and words

Between the tokens of a JSON text, spaces, tabs, returns and newlines have no meaning.
The words `null`, `true` and `false` are the only ones.
-/

set_option autoImplicit false

namespace ComponentNaming.Json

/-- Whether a character is white space between tokens. -/
def isSpace (char : Char) : Bool :=
  char = ' ' || char = '\n' || char = '\t' || char = '\r'

/-- The text from the next token on. -/
def skipSpace (text : List Char) : List Char := text.dropWhile isSpace

theorem length_skipSpace_le (text : List Char) : (skipSpace text).length ≤ text.length :=
  (List.dropWhile_sublist isSpace).length_le

/-- The text after a word, of which the given letters are still to come. -/
def word : List Char → List Char → Except Fault (List Char)
  | [], text => .ok text
  | _ :: _, [] => .error (.here .endInValue [])
  | letter :: letters, char :: text =>
    if char = letter then word letters text else .error (.next .expectedWord (char :: text))

theorem word_eq_ok_iff {letters text rest : List Char} :
    word letters text = .ok rest ↔ text = letters ++ rest := by
  induction letters generalizing text with
  | nil => simp [word]
  | cons letter letters ih =>
      cases text with
      | nil => simp [word]
      | cons char text =>
          by_cases same : char = letter
          · simp [word, same, ih]
          · simp [word, same]

end ComponentNaming.Json
