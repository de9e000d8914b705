import ComponentNaming.Json.Number
import ComponentNaming.Json.Space
import ComponentNaming.Json.Text

/-!
# Values that are passed over

The value of a key that has no meaning may be any JSON value, nested to any depth. It is
held to its form and passed over. What is still expected of the values around it is kept
in a list of `Pending` pieces, so that depth costs nothing but the length of that list.
-/

set_option autoImplicit false

namespace ComponentNaming.Json

/-- Passes over a word, a number or a text. -/
def skipScalar : List Char → Except Fault (List Char)
  | '"' :: text => skipQuoted text
  | 'n' :: text => word ['u', 'l', 'l'] text
  | 't' :: text => word ['r', 'u', 'e'] text
  | 'f' :: text => word ['a', 'l', 's', 'e'] text
  | text =>
    if text.head? = some '-' ∨ startsWithDigit text then
      (numeral .invalidNumber text).map Prod.snd
    else .error (.next .expectedValue text)

/-- Reads the colon after a key. -/
def colon (text : List Char) : Except Fault (List Char) :=
  match skipSpace text with
  | ':' :: rest => .ok rest
  | [] => .error (.next .endInObject [])
  | rest => .error (.next .expectedColon rest)

/-- Passes over the key of a member, and the colon after it. -/
def skipKey (text : List Char) : Except Fault (List Char) :=
  match skipSpace text with
  | '"' :: rest =>
    match skipQuoted rest with
    | .error fault => .error fault
    | .ok rest => colon rest
  | [] => .error (.next .endInObject [])
  | rest => .error (.next .keyIsNoText rest)

/-- A piece of a text that is still expected. -/
inductive Pending where
  | value
  /-- The rest of a list, after one of its values. -/
  | listEnd
  /-- The rest of an object, after one of its members. -/
  | objectEnd
  deriving DecidableEq, Repr

open Pending in
/-- Passes over a value without parts, or over the beginning of a list or an object. -/
def beginValue (text : List Char) : Except Fault (List Pending × List Char) :=
  match skipSpace text with
  | [] => .error (.next .endInValue [])
  | '[' :: rest =>
    match skipSpace rest with
    | [] => .error (.next .endInList [])
    | ']' :: rest => .ok ([], rest)
    | rest => .ok ([value, listEnd], rest)
  | '\x7b' :: rest =>
    match skipSpace rest with
    | [] => .error (.next .endInObject [])
    | '\x7d' :: rest => .ok ([], rest)
    | rest => (skipKey rest).map fun rest => ([value, objectEnd], rest)
  | rest => (skipScalar rest).map fun rest => ([], rest)

open Pending in
/-- Passes over the end of a list, or over the comma before its next value. -/
def continueList (text : List Char) : Except Fault (List Pending × List Char) :=
  match skipSpace text with
  | [] => .error (.next .endInList [])
  | ',' :: rest => .ok ([value, listEnd], rest)
  | ']' :: rest => .ok ([], rest)
  | rest => .error (.next .expectedCommaOrListEnd rest)

open Pending in
/-- Passes over the end of an object, or over the comma and the key before its next value. -/
def continueObject (text : List Char) : Except Fault (List Pending × List Char) :=
  match skipSpace text with
  | [] => .error (.next .endInObject [])
  | ',' :: rest => (skipKey rest).map fun rest => ([value, objectEnd], rest)
  | '\x7d' :: rest => .ok ([], rest)
  | rest => .error (.next .expectedCommaOrObjectEnd rest)

/-- Passes over the beginning of a piece. Yields what is then expected in its place. -/
def Pending.advance : Pending → List Char → Except Fault (List Pending × List Char)
  | value => beginValue
  | listEnd => continueList
  | objectEnd => continueObject

/-! ## Every step makes the text shorter -/

theorem length_lt_of_skipSpace {text rest : List Char} {char : Char}
    (skipped : skipSpace text = char :: rest) : rest.length < text.length := by
  have shorter := length_skipSpace_le text
  rw [skipped] at shorter
  exact shorter

theorem length_of_word {letters text rest : List Char} (read : word letters text = .ok rest) :
    rest.length ≤ text.length := by
  rw [word_eq_ok_iff] at read
  subst read
  simp only [List.length_append]
  omega

theorem length_of_skipScalar {text rest : List Char} (read : skipScalar text = .ok rest) :
    rest.length < text.length := by
  unfold skipScalar at read
  split at read
  · exact Nat.lt_trans (length_of_skipQuoted read) (Nat.lt_succ_self _)
  · exact Nat.lt_succ_of_le (length_of_word read)
  · exact Nat.lt_succ_of_le (length_of_word read)
  · exact Nat.lt_succ_of_le (length_of_word read)
  · split at read
    · cases number : numeral .invalidNumber text with
      | error fault => simp [number, Except.map] at read
      | ok result =>
          simp only [number, Except.map, Except.ok.injEq] at read
          subst read
          exact length_of_numeral number
    · cases read

theorem length_of_colon {text rest : List Char} (read : colon text = .ok rest) :
    rest.length < text.length := by
  unfold colon at read
  split at read
  · rename_i skipped
    cases read
    exact length_lt_of_skipSpace skipped
  · cases read
  · cases read

theorem length_of_skipKey {text rest : List Char} (read : skipKey text = .ok rest) :
    rest.length < text.length := by
  unfold skipKey at read
  split at read
  · rename_i skipped
    split at read
    · cases read
    · rename_i key
      exact Nat.lt_trans (length_of_colon read)
        (Nat.lt_trans (length_of_skipQuoted key) (length_lt_of_skipSpace skipped))
  · cases read
  · cases read

/-- A result that is only labelled was there before. -/
theorem eq_ok_of_map_label {α β : Type} {result : Except Fault α} {label first : β} {rest : α}
    (read : (result.map fun rest => (label, rest)) = .ok (first, rest)) : result = .ok rest := by
  cases result with
  | error fault => cases read
  | ok found =>
      obtain ⟨_, rfl⟩ := Prod.mk.inj (Except.ok.inj read)
      rfl

theorem length_of_beginValue {more : List Pending} {text rest : List Char}
    (read : beginValue text = .ok (more, rest)) : rest.length < text.length := by
  unfold beginValue at read
  split at read
  · cases read
  · rename_i opened skipped
    have shorter := length_lt_of_skipSpace skipped
    have spaces := length_skipSpace_le opened
    split at read
    · cases read
    · rename_i closed
      cases read
      exact Nat.lt_trans (length_lt_of_skipSpace closed) shorter
    · cases read
      omega
  · rename_i opened skipped
    have shorter := length_lt_of_skipSpace skipped
    have spaces := length_skipSpace_le opened
    split at read
    · cases read
    · rename_i closed
      cases read
      exact Nat.lt_trans (length_lt_of_skipSpace closed) shorter
    · have key := length_of_skipKey (eq_ok_of_map_label read)
      omega
  · have scalar := length_of_skipScalar (eq_ok_of_map_label read)
    have spaces := length_skipSpace_le text
    omega

theorem length_of_continueList {more : List Pending} {text rest : List Char}
    (read : continueList text = .ok (more, rest)) : rest.length < text.length := by
  unfold continueList at read
  split at read
  · cases read
  · rename_i skipped
    cases read
    exact length_lt_of_skipSpace skipped
  · rename_i skipped
    cases read
    exact length_lt_of_skipSpace skipped
  · cases read

theorem length_of_continueObject {more : List Pending} {text rest : List Char}
    (read : continueObject text = .ok (more, rest)) : rest.length < text.length := by
  unfold continueObject at read
  split at read
  · cases read
  · rename_i skipped
    have key := length_of_skipKey (eq_ok_of_map_label read)
    exact Nat.lt_trans key (length_lt_of_skipSpace skipped)
  · rename_i skipped
    cases read
    exact length_lt_of_skipSpace skipped
  · cases read

theorem Pending.length_of_advance {piece : Pending} {more : List Pending} {text rest : List Char}
    (read : piece.advance text = .ok (more, rest)) : rest.length < text.length := by
  cases piece with
  | value => exact length_of_beginValue read
  | listEnd => exact length_of_continueList read
  | objectEnd => exact length_of_continueObject read

/-- Passes over all pieces that are expected. Yields the text after them. -/
def skip (pending : List Pending) (text : List Char) : Except Fault (List Char) :=
  match pending with
  | [] => .ok text
  | piece :: pending =>
    match _read : piece.advance text with
    | .error fault => .error fault
    | .ok (more, rest) => skip (more ++ pending) rest
termination_by text.length
decreasing_by exact Pending.length_of_advance _read

theorem length_of_skip {pending : List Pending} {text rest : List Char}
    (done : skip pending text = .ok rest) : rest.length ≤ text.length := by
  fun_induction skip pending text with
  | case1 =>
      cases done
      exact Nat.le_refl _
  | case2 => cases done
  | case3 _ _ _ _ _ step ih =>
      exact Nat.le_of_lt (Nat.lt_of_le_of_lt (ih done) (Pending.length_of_advance step))

/-- Passes over one value. -/
def skipValue (text : List Char) : Except Fault (List Char) := skip [.value] text

end ComponentNaming.Json
