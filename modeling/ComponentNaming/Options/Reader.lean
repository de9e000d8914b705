import ComponentNaming.Json.Ignored
import ComponentNaming.Json.Mismatch
import ComponentNaming.Options.Basic
import ComponentNaming.Text.Blank

/-!
# Reading options

Options are written as a JSON object with one known key, whose value is the list of the
wrapper names. Other keys are passed over with their values. The object may also be
written as an array, with the list as its only element. If the list is left out, or if
nothing but blanks is written, the default options hold.

The form of the whole text is settled before any name is looked at, so a fault in the text
comes before an empty name, wherever the two stand.
-/

set_option autoImplicit false

namespace ComponentNaming.Options

open Json

/-- The key of the list of wrapper names. -/
def wrappersKey : String := "hocs"

namespace Reader

/-! ## The list of names -/

/-- Reads one name. -/
def name : List Char → Except Fault (String × List Char)
  | '"' :: text => (quoted text).map fun (chars, rest) => (String.ofList chars, rest)
  | text => .error (mismatch .text text)

theorem length_of_name {text rest : List Char} {read : String}
    (done : name text = .ok (read, rest)) : rest.length < text.length := by
  unfold name at done
  split at done
  · rename_i text
    cases inner : quoted text with
    | error fault => simp [inner, Except.map] at done
    | ok result =>
        simp only [inner, Except.map] at done
        cases done
        exact Nat.lt_trans (length_of_quoted inner) (Nat.lt_succ_self _)
  · cases done

/-- Reads what follows a name in its list: nothing if the list ends, and the text at the
next name if it goes on. -/
def afterName (text : List Char) : Except Fault (Bool × List Char) :=
  match skipSpace text with
  | [] => .error (.next .endInList [])
  | ']' :: rest => .ok (false, rest)
  | ',' :: rest =>
    match skipSpace rest with
    | [] => .error (.next .endInValue [])
    | ']' :: rest => .error (.next .trailingComma (']' :: rest))
    | rest => .ok (true, rest)
  | rest => .error (.next .expectedCommaOrListEnd rest)

theorem length_of_afterName {text rest : List Char} {goesOn : Bool}
    (done : afterName text = .ok (goesOn, rest)) : rest.length < text.length := by
  unfold afterName at done
  split at done
  · cases done
  · rename_i skipped
    cases done
    exact length_lt_of_skipSpace skipped
  · rename_i later skipped
    have shorter := length_lt_of_skipSpace skipped
    have spaces := length_skipSpace_le later
    split at done
    · cases done
    · cases done
    · cases done
      omega
  · cases done

/-- Reads the names of a list, from the first one on, and the end of the list. -/
def names (text : List Char) : Except Fault (List String × List Char) :=
  match _first : name text with
  | .error fault => .error fault
  | .ok (name, rest) =>
    match _next : afterName rest with
    | .error fault => .error fault
    | .ok (false, rest) => .ok ([name], rest)
    | .ok (true, rest) =>
      match names rest with
      | .error fault => .error fault
      | .ok (later, rest) => .ok (name :: later, rest)
termination_by text.length
decreasing_by exact Nat.lt_trans (length_of_afterName _next) (length_of_name _first)

/-- Reads a list of names. -/
def nameList (text : List Char) : Except Fault (List String × List Char) :=
  match skipSpace text with
  | [] => .error (.next .endInValue [])
  | '[' :: rest =>
    match skipSpace rest with
    | [] => .error (.next .endInList [])
    | ']' :: rest => .ok ([], rest)
    | rest => names rest
  | rest => .error (mismatch .list rest)

theorem length_of_names {text rest : List Char} {read : List String}
    (done : names text = .ok (read, rest)) : rest.length < text.length := by
  fun_induction names text generalizing read rest with
  | case1 => cases done
  | case2 => cases done
  | case3 text _ _ first _ last =>
      cases done
      exact Nat.lt_trans (length_of_afterName last) (length_of_name first)
  | case4 => cases done
  | case5 text _ _ first _ next _ _ later ih =>
      cases done
      exact Nat.lt_trans (ih later)
        (Nat.lt_trans (length_of_afterName next) (length_of_name first))

theorem length_of_nameList {text rest : List Char} {read : List String}
    (done : nameList text = .ok (read, rest)) : rest.length < text.length := by
  unfold nameList at done
  split at done
  · cases done
  · rename_i opened skipped
    have shorter := length_lt_of_skipSpace skipped
    have spaces := length_skipSpace_le opened
    split at done
    · cases done
    · rename_i closed
      cases done
      exact Nat.lt_trans (length_lt_of_skipSpace closed) shorter
    · have inner := length_of_names done
      omega
  · cases done

/-! ## The object -/

/-- The text after the brace that closes an object, if one stands there. -/
def afterBrace : List Char → List Char
  | '\x7d' :: rest => rest
  | rest => rest

/-- Reads a member of the object, after the opening quotation mark of its key. The names
listed so far, if any were, are given, and those listed then are yielded. -/
def member (listed : Option (List String)) (text : List Char) :
    Except Fault (Option (List String) × List Char) :=
  match quoted text with
  | .error fault => .error fault
  | .ok (key, rest) =>
    if String.ofList key = wrappersKey then
      if listed.isSome then
        .error (.here (.repeatedField wrappersKey) (afterBrace (skipSpace rest)))
      else
        match colon rest with
        | .error fault => .error fault
        | .ok rest => (nameList rest).map fun (names, rest) => (some names, rest)
    else
      match colon rest with
      | .error fault => .error fault
      | .ok rest => (skipValue rest).map fun rest => (listed, rest)

/-- Reads what follows a member in the object: nothing if the object ends, and the text
after the opening quotation mark of the next key if it goes on. -/
def afterMember (text : List Char) : Except Fault (Bool × List Char) :=
  match skipSpace text with
  | [] => .error (.next .endInObject [])
  | '\x7d' :: rest => .ok (false, rest)
  | ',' :: rest =>
    match skipSpace rest with
    | [] => .error (.next .endInValue [])
    | '"' :: rest => .ok (true, rest)
    | '\x7d' :: rest => .error (.next .trailingComma ('\x7d' :: rest))
    | rest => .error (.next .keyIsNoText rest)
  | rest => .error (.next .expectedCommaOrObjectEnd rest)

theorem length_of_member {listed read : Option (List String)} {text rest : List Char}
    (done : member listed text = .ok (read, rest)) : rest.length < text.length := by
  unfold member at done
  split at done
  · cases done
  · rename_i keyed
    have key := length_of_quoted keyed
    split at done
    · split at done
      · cases done
      · split at done
        · cases done
        · rename_i after mark
          have colonRead := length_of_colon mark
          cases inner : nameList after with
          | error fault => simp [inner, Except.map] at done
          | ok result =>
              simp only [inner, Except.map] at done
              cases done
              have list := length_of_nameList inner
              omega
    · split at done
      · cases done
      · rename_i mark
        have colonRead := length_of_colon mark
        have value := length_of_skip (eq_ok_of_map_label done)
        omega

theorem length_of_afterMember {text rest : List Char} {goesOn : Bool}
    (done : afterMember text = .ok (goesOn, rest)) : rest.length < text.length := by
  unfold afterMember at done
  split at done
  · cases done
  · rename_i skipped
    cases done
    exact length_lt_of_skipSpace skipped
  · rename_i skipped
    have shorter := length_lt_of_skipSpace skipped
    split at done
    · cases done
    · rename_i quote
      cases done
      exact Nat.lt_trans (length_lt_of_skipSpace quote) shorter
    · cases done
    · cases done
  · cases done

/-- Reads the members of the object, from the key of the first one on, and the end of the
object. -/
def members (listed : Option (List String)) (text : List Char) :
    Except Fault (Option (List String) × List Char) :=
  match _first : member listed text with
  | .error fault => .error fault
  | .ok (listed, rest) =>
    match _next : afterMember rest with
    | .error fault => .error fault
    | .ok (false, rest) => .ok (listed, rest)
    | .ok (true, rest) => members listed rest
termination_by text.length
decreasing_by exact Nat.lt_trans (length_of_afterMember _next) (length_of_member _first)

/-- Reads the object, after its opening brace. -/
def object (text : List Char) : Except Fault (Option (List String) × List Char) :=
  match skipSpace text with
  | [] => .error (.next .endInObject [])
  | '\x7d' :: rest => .ok (none, rest)
  | '"' :: rest => members none rest
  | rest => .error (.next .keyIsNoText rest)

/-! ## The array -/

/-- Reads the end of the array. -/
def arrayEnd (text : List Char) : Except Fault (List Char) :=
  match skipSpace text with
  | [] => .error (.next .endInList [])
  | ']' :: rest => .ok rest
  | ',' :: rest =>
    match skipSpace rest with
    | ']' :: rest => .error (.next .trailingComma (']' :: rest))
    | rest => .error (.next .trailingCharacters rest)
  | rest => .error (.next .trailingCharacters rest)

/-- Reads the array, after its opening bracket. -/
def array (text : List Char) : Except Fault (Option (List String) × List Char) :=
  match skipSpace text with
  | [] => .error (.next .endInList [])
  | ']' :: rest => .ok (none, rest)
  | rest =>
    match nameList rest with
    | .error fault => .error fault
    | .ok (names, rest) => (arrayEnd rest).map fun rest => (some names, rest)

/-! ## The whole text -/

/-- Reads the object or the array. -/
def value (text : List Char) : Except Fault (Option (List String) × List Char) :=
  match skipSpace text with
  | [] => .error (.next .endInValue [])
  | '\x7b' :: rest => object rest
  | '[' :: rest => array rest
  | rest => .error (mismatch .options rest)

/-- Reads a whole text: the names it lists, if it lists any. -/
def document (text : List Char) : Except Fault (Option (List String)) :=
  match value text with
  | .error fault => .error fault
  | .ok (listed, rest) =>
    match skipSpace rest with
    | [] => .ok listed
    | rest => .error (.next .trailingCharacters rest)

end Reader

/-- The options that list the given names, none of which may be empty. -/
def ofNames (names : List String) : Except Rejection Options :=
  match names.findIdx? String.isEmpty with
  | some index => .error (.emptyName index)
  | none => .ok { wrappers := names }

/-- Reads options. -/
def parse (raw : String) : Except Rejection Options :=
  if Text.isAllBlank raw.toList then .ok {}
  else
    match Reader.document raw.toList with
    | .error fault => .error (.malformed fault.cause (fault.location raw.toList))
    | .ok listed => ofNames (listed.getD defaultWrappers)

end ComponentNaming.Options
