import ComponentNaming.Json.Fault

/-!
# Texts in quotation marks

A text stands between quotation marks, and a backslash begins an escape. A text is read
for what it says (`quoted`), or passed over (`skipQuoted`). What is passed over is held to
the same form, except that the code units after `\u` need not be those of a character.

Every character that is read makes the text that is left shorter, so reading ends.
-/

set_option autoImplicit false

namespace ComponentNaming.Json

/-! ## Escapes -/

/-- The character that a letter after a backslash stands for. -/
def escapeLetter? : Char → Option Char
  | '"' => some '"'
  | '\\' => some '\\'
  | '/' => some '/'
  | 'b' => some '\x08'
  | 'f' => some '\x0c'
  | 'n' => some '\n'
  | 'r' => some '\r'
  | 't' => some '\t'
  | _ => none

/-- The value of a hexadecimal digit. -/
def hexValue? (char : Char) : Option Nat :=
  if '0' ≤ char ∧ char ≤ '9' then some (char.toNat - '0'.toNat)
  else if 'a' ≤ char ∧ char ≤ 'f' then some (char.toNat - 'a'.toNat + 10)
  else if 'A' ≤ char ∧ char ≤ 'F' then some (char.toNat - 'A'.toNat + 10)
  else none

/-- Reads four hexadecimal digits. They are four bytes: if fewer are left, the text ends
too early, and otherwise the fault is reported after the fourth. -/
def codeUnit (text : List Char) : Except Fault (Nat × List Char) :=
  match text with
  | first :: second :: third :: fourth :: rest =>
    match hexValue? first, hexValue? second, hexValue? third, hexValue? fourth with
    | some a, some b, some c, some d => .ok (((a * 16 + b) * 16 + c) * 16 + d, rest)
    | _, _, _, _ => .error ⟨.invalidEscape, text, 4⟩
  | _ =>
    if Text.byteLength text < 4 then .error (.here .endInText [])
    else .error ⟨.invalidEscape, text, 4⟩

/-- Whether a code unit is the first of a surrogate pair. -/
def isLeading (unit : Nat) : Bool := 0xD800 ≤ unit && unit ≤ 0xDBFF

/-- Whether a code unit is the second of a surrogate pair. -/
def isTrailing (unit : Nat) : Bool := 0xDC00 ≤ unit && unit ≤ 0xDFFF

/-- The character of a surrogate pair. -/
def surrogatePair (leading trailing : Nat) : Char :=
  Char.ofNat (0x10000 + (leading - 0xD800) * 0x400 + (trailing - 0xDC00))

/-- Reads the beginning of the escape that has to follow the first half of a pair. -/
def pairMark : List Char → Except Fault (List Char)
  | [] => .error (.here .endInText [])
  | ['\\'] => .error (.here .endInText [])
  | '\\' :: 'u' :: rest => .ok rest
  | '\\' :: rest => .error (.next .brokenSurrogatePair rest)
  | rest => .error (.next .brokenSurrogatePair rest)

/-- Reads what follows the first half of a pair. -/
def pairEnd (leading : Nat) (text : List Char) : Except Fault (Char × List Char) := do
  let text ← pairMark text
  let (trailing, rest) ← codeUnit text
  if isTrailing trailing then .ok (surrogatePair leading trailing, rest)
  else .error (.here .unpairedSurrogate rest)

/-- Reads a character that is written by its code units. -/
def unitEscape (text : List Char) : Except Fault (Char × List Char) := do
  let (unit, rest) ← codeUnit text
  if isTrailing unit then .error (.here .unpairedSurrogate rest)
  else if isLeading unit then pairEnd unit rest
  else .ok (Char.ofNat unit, rest)

/-- Reads an escape, after its backslash. -/
def escape : List Char → Except Fault (Char × List Char)
  | [] => .error (.here .endInText [])
  | 'u' :: text => unitEscape text
  | letter :: text =>
    match escapeLetter? letter with
    | some char => .ok (char, text)
    | none => .error (.next .invalidEscape (letter :: text))

/-- Passes over an escape, after its backslash. -/
def skipEscape : List Char → Except Fault (List Char)
  | [] => .error (.here .endInText [])
  | 'u' :: text => (codeUnit text).map Prod.snd
  | letter :: text =>
    if (escapeLetter? letter).isSome then .ok text
    else .error (.next .invalidEscape (letter :: text))

/-! ## Characters -/

/-- Whether a character must not stand in a text as it is. -/
def isControl (char : Char) : Bool := char.toNat < 0x20

/-- Reads one character of a text. -/
def character : List Char → Except Fault (Char × List Char)
  | [] => .error (.here .endInText [])
  | '\\' :: text => escape text
  | char :: text =>
    if isControl char then .error (.next .controlCharacter (char :: text)) else .ok (char, text)

/-- Passes over one character of a text. A control character is not counted as read. -/
def skipCharacter : List Char → Except Fault (List Char)
  | [] => .error (.here .endInText [])
  | '\\' :: text => skipEscape text
  | char :: text =>
    if isControl char then .error (.here .controlCharacter (char :: text)) else .ok text

theorem length_of_codeUnit {text rest : List Char} {unit : Nat}
    (read : codeUnit text = .ok (unit, rest)) : rest.length < text.length := by
  unfold codeUnit at read
  split at read
  · split at read
    · cases read
      simp only [List.length_cons]
      omega
    · cases read
  · split at read <;> cases read

theorem length_of_pairMark {text rest : List Char} (read : pairMark text = .ok rest) :
    rest.length < text.length := by
  unfold pairMark at read
  split at read <;> cases read
  simp only [List.length_cons]
  omega

theorem length_of_pairEnd {leading : Nat} {text rest : List Char} {char : Char}
    (read : pairEnd leading text = .ok (char, rest)) : rest.length < text.length := by
  simp only [pairEnd, bind, Except.bind] at read
  split at read
  · cases read
  · rename_i marked mark
    split at read
    · cases read
    · rename_i unit trail
      split at read
      · obtain ⟨_, rfl⟩ := Prod.mk.inj (Except.ok.inj read)
        exact Nat.lt_trans (length_of_codeUnit trail) (length_of_pairMark mark)
      · cases read

theorem length_of_unitEscape {text rest : List Char} {char : Char}
    (read : unitEscape text = .ok (char, rest)) : rest.length < text.length := by
  simp only [unitEscape, bind, Except.bind] at read
  split at read
  · cases read
  · rename_i unit first
    split at read
    · cases read
    · split at read
      · exact Nat.lt_trans (length_of_pairEnd read) (length_of_codeUnit first)
      · cases read
        exact length_of_codeUnit first

theorem length_of_escape {text rest : List Char} {char : Char}
    (read : escape text = .ok (char, rest)) : rest.length < text.length := by
  unfold escape at read
  split at read
  · cases read
  · exact Nat.lt_trans (length_of_unitEscape read) (Nat.lt_succ_self _)
  · split at read <;> cases read
    exact Nat.lt_succ_self _

theorem length_of_skipEscape {text rest : List Char} (read : skipEscape text = .ok rest) :
    rest.length < text.length := by
  unfold skipEscape at read
  split at read
  · cases read
  · rename_i text
    cases unit : codeUnit text with
    | error fault => simp [unit, Except.map] at read
    | ok result =>
        simp only [unit, Except.map, Except.ok.injEq] at read
        subst read
        exact Nat.lt_trans (length_of_codeUnit unit) (Nat.lt_succ_self _)
  · split at read <;> cases read
    exact Nat.lt_succ_self _

theorem length_of_character {text rest : List Char} {char : Char}
    (read : character text = .ok (char, rest)) : rest.length < text.length := by
  unfold character at read
  split at read
  · cases read
  · exact Nat.lt_trans (length_of_escape read) (Nat.lt_succ_self _)
  · split at read <;> cases read
    exact Nat.lt_succ_self _

theorem length_of_skipCharacter {text rest : List Char} (read : skipCharacter text = .ok rest) :
    rest.length < text.length := by
  unfold skipCharacter at read
  split at read
  · cases read
  · exact Nat.lt_trans (length_of_skipEscape read) (Nat.lt_succ_self _)
  · split at read <;> cases read
    exact Nat.lt_succ_self _

/-! ## Texts -/

/-- Reads a text, after its opening quotation mark, up to and with the closing one. -/
def quoted (text : List Char) : Except Fault (List Char × List Char) :=
  match text with
  | '"' :: rest => .ok ([], rest)
  | text =>
    match _read : character text with
    | .error fault => .error fault
    | .ok (char, rest) =>
      match quoted rest with
      | .error fault => .error fault
      | .ok (chars, rest) => .ok (char :: chars, rest)
termination_by text.length
decreasing_by exact length_of_character _read

/-- Passes over a text, after its opening quotation mark, up to and with the closing one. -/
def skipQuoted (text : List Char) : Except Fault (List Char) :=
  match text with
  | '"' :: rest => .ok rest
  | text =>
    match _read : skipCharacter text with
    | .error fault => .error fault
    | .ok rest => skipQuoted rest
termination_by text.length
decreasing_by exact length_of_skipCharacter _read

theorem length_of_quoted {text rest chars : List Char} (read : quoted text = .ok (chars, rest)) :
    rest.length < text.length := by
  fun_induction quoted text generalizing chars rest with
  | case1 =>
      cases read
      exact Nat.lt_succ_self _
  | case2 => cases read
  | case3 => cases read
  | case4 text _ char next first chars last rest ih =>
      cases read
      exact Nat.lt_trans (ih rest) (length_of_character first)

theorem length_of_skipQuoted {text rest : List Char} (read : skipQuoted text = .ok rest) :
    rest.length < text.length := by
  fun_induction skipQuoted text with
  | case1 =>
      cases read
      exact Nat.lt_succ_self _
  | case2 => cases read
  | case3 text _ next first ih => exact Nat.lt_trans (ih read) (length_of_skipCharacter first)

end ComponentNaming.Json
