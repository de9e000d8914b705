import ComponentNaming.Text.Unshown

/-!
# Quoted text

For a log or an error message a text is put in quotation marks. The quotation mark and
the backslash are written with a backslash in front. Tab, newline, return and the null
character have letters of their own. Other characters that a reader could not see or
could not tell apart are written by their code point.
-/

set_option autoImplicit false

namespace ComponentNaming.Text

/-- A character by its code point, in hexadecimal. -/
def codePoint (char : Char) : List Char :=
  ['\\', 'u', '\x7b'] ++ Nat.toDigits 16 char.toNat ++ ['\x7d']

/-- A character as it stands between quotation marks. -/
def shown (char : Char) : List Char :=
  if char = '"' then ['\\', '"']
  else if char = '\\' then ['\\', '\\']
  else if char = '\t' then ['\\', 't']
  else if char = '\n' then ['\\', 'n']
  else if char = '\r' then ['\\', 'r']
  else if char = '\x00' then ['\\', '0']
  else if isUnshown char then codePoint char
  else [char]

/-- A text in quotation marks. -/
def quote (text : String) : String :=
  String.ofList ('"' :: text.toList.flatMap shown ++ ['"'])

/-- A list of texts, each in quotation marks. -/
def quoteList (texts : List String) : String :=
  "[" ++ String.intercalate ", " (texts.map quote) ++ "]"

end ComponentNaming.Text
