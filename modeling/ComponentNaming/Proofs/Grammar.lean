import ComponentNaming.Json.Ignored

/-!
# The grammar of options

The texts that options are read from, as a grammar that does not mention how they are read.
Every nonterminal relates a text to what is left of it: `Number text rest` says that a
number stands at the beginning of `text` and that `rest` comes after it. Where a token may
be set off, the white space before it is part of the rule (`Space`).

The grammar of JSON comes first, up to the values of any depth that stand for keys without
a meaning (`Derives`). The grammar of options is put on top of it, up to the whole text
(`Document`).
-/

set_option autoImplicit false

namespace ComponentNaming.Json.Grammar

/-! ## White space and words -/

/-- The characters that have no meaning between tokens. -/
def spaces : List Char := [' ', '\t', '\n', '\r']

/-- Any number of such characters. -/
inductive Space : List Char → List Char → Prop where
  | none {text : List Char} : Space text text
  | more {char : Char} {text rest : List Char} :
      char ∈ spaces → Space text rest → Space (char :: text) rest

/-- The words that are values. -/
def words : List (List Char) := ["null".toList, "true".toList, "false".toList]

/-! ## Numbers -/

/-- One or more digits. -/
inductive Digits : List Char → List Char → Prop where
  | last {digit : Char} {rest : List Char} : digit.isDigit → Digits (digit :: rest) rest
  | more {digit : Char} {text rest : List Char} :
      digit.isDigit → Digits text rest → Digits (digit :: text) rest

/-- The sign of a number. -/
inductive Minus : List Char → List Char → Prop where
  | absent {text : List Char} : Minus text text
  | present {text : List Char} : Minus ('-' :: text) text

/-- The digits before the point: a zero alone, or digits that do not begin with one. -/
inductive Whole : List Char → List Char → Prop where
  | zero {text : List Char} : Whole ('0' :: text) text
  | digits {text rest : List Char} : text.head? ≠ some '0' → Digits text rest → Whole text rest

/-- The point and the digits after it. -/
inductive Fraction : List Char → List Char → Prop where
  | absent {text : List Char} : Fraction text text
  | present {text rest : List Char} : Digits text rest → Fraction ('.' :: text) rest

/-- The sign of an exponent. -/
inductive Sign : List Char → List Char → Prop where
  | absent {text : List Char} : Sign text text
  | plus {text : List Char} : Sign ('+' :: text) text
  | minus {text : List Char} : Sign ('-' :: text) text

/-- The exponent, with its mark. -/
inductive Exponent : List Char → List Char → Prop where
  | absent {text : List Char} : Exponent text text
  | present {mark : Char} {text digits rest : List Char} :
      mark = 'e' ∨ mark = 'E' → Sign text digits → Digits digits rest →
      Exponent (mark :: text) rest

/-- A number. -/
inductive Number : List Char → List Char → Prop where
  | parts {text whole fraction exponent rest : List Char} :
      Minus text whole → Whole whole fraction → Fraction fraction exponent →
      Exponent exponent rest → Number text rest

/-! ## Texts in quotation marks -/

/-- The hexadecimal digits with their values. Those that are letters are spelled in two ways. -/
def hexDigits : List (Char × Nat) :=
  "0123456789abcdef".toList.zipIdx ++ "ABCDEF".toList.zipIdx 10

/-- A hexadecimal digit and its value. -/
def HexDigit (char : Char) (value : Nat) : Prop := (char, value) ∈ hexDigits

instance (char : Char) (value : Nat) : Decidable (HexDigit char value) :=
  inferInstanceAs (Decidable ((char, value) ∈ hexDigits))

/-- A code unit: four hexadecimal digits, the most significant one first. -/
inductive CodeUnit : List Char → Nat → List Char → Prop where
  | digits {first second third fourth : Char} {a b c d : Nat} {rest : List Char} :
      HexDigit first a → HexDigit second b → HexDigit third c → HexDigit fourth d →
      CodeUnit (first :: second :: third :: fourth :: rest)
        (a * 0x1000 + b * 0x100 + c * 0x10 + d) rest

/-- The letters that stand for a character after a backslash, with that character. -/
def escapes : List (Char × Char) :=
  [('"', '"'), ('\\', '\\'), ('/', '/'), ('b', Char.ofNat 8), ('f', Char.ofNat 12),
    ('n', '\n'), ('r', '\r'), ('t', '\t')]

/-- The first code unit of a character beyond the first 65536. -/
def leadingUnit (char : Char) : Nat := 0xD800 + (char.toNat - 0x10000) / 0x400

/-- The second code unit of a character beyond the first 65536. -/
def trailingUnit (char : Char) : Nat := 0xDC00 + (char.toNat - 0x10000) % 0x400

/-- A character of a text, as it may be written. The code units of a character are those
of UTF-16, so a surrogate is written only as a half of a pair. -/
inductive Spells : List Char → Char → List Char → Prop where
  | plain {char : Char} {rest : List Char} :
      char ≠ '"' → char ≠ '\\' → 0x20 ≤ char.toNat → Spells (char :: rest) char rest
  | escape {letter char : Char} {rest : List Char} :
      (letter, char) ∈ escapes → Spells ('\\' :: letter :: rest) char rest
  | unit {char : Char} {text rest : List Char} :
      CodeUnit text char.toNat rest → Spells ('\\' :: 'u' :: text) char rest
  | pair {char : Char} {text trailing rest : List Char} :
      0x10000 ≤ char.toNat →
      CodeUnit text (leadingUnit char) ('\\' :: 'u' :: trailing) →
      CodeUnit trailing (trailingUnit char) rest → Spells ('\\' :: 'u' :: text) char rest

/-- A text after its opening quotation mark, with the closing one, and what it says. -/
inductive Quoted : List Char → List Char → List Char → Prop where
  | closed {rest : List Char} : Quoted ('"' :: rest) [] rest
  | more {text later chars rest : List Char} {char : Char} :
      Spells text char later → Quoted later chars rest → Quoted text (char :: chars) rest

/-- A character of a text that is not asked for what it says: any code unit may stand in
it. -/
inductive Character : List Char → List Char → Prop where
  | plain {char : Char} {rest : List Char} :
      char ≠ '"' → char ≠ '\\' → 0x20 ≤ char.toNat → Character (char :: rest) rest
  | escape {letter char : Char} {rest : List Char} :
      (letter, char) ∈ escapes → Character ('\\' :: letter :: rest) rest
  | unit {value : Nat} {text rest : List Char} :
      CodeUnit text value rest → Character ('\\' :: 'u' :: text) rest

/-- A text after its opening quotation mark, with the closing one, whatever it says. -/
inductive Text : List Char → List Char → Prop where
  | closed {rest : List Char} : Text ('"' :: rest) rest
  | more {text later rest : List Char} : Character text later → Text later rest → Text text rest

/-! ## Values -/

/-- A key whatever it says, and the colon after it. -/
inductive Key : List Char → List Char → Prop where
  | colon {text key between rest : List Char} :
      Space text ('"' :: key) → Text key between → Space between (':' :: rest) → Key text rest

/-- The values, what comes after an element up to the end of its list, and what comes after
a member up to the end of its object. -/
inductive Derives : Pending → List Char → List Char → Prop where
  | word {text word rest : List Char} :
      word ∈ words → Space text (word ++ rest) → Derives .value text rest
  | number {text token rest : List Char} :
      Space text token → Number token rest → Derives .value text rest
  | text {text token rest : List Char} :
      Space text ('"' :: token) → Text token rest → Derives .value text rest
  | emptyList {text first rest : List Char} :
      Space text ('[' :: first) → Space first (']' :: rest) → Derives .value text rest
  | list {text first later rest : List Char} :
      Space text ('[' :: first) → Derives .value first later → Derives .listEnd later rest →
      Derives .value text rest
  | emptyObject {text first rest : List Char} :
      Space text ('\x7b' :: first) → Space first ('\x7d' :: rest) → Derives .value text rest
  | object {text key first later rest : List Char} :
      Space text ('\x7b' :: key) → Key key first → Derives .value first later →
      Derives .objectEnd later rest → Derives .value text rest
  | listEnd {text rest : List Char} : Space text (']' :: rest) → Derives .listEnd text rest
  | element {text first later rest : List Char} :
      Space text (',' :: first) → Derives .value first later → Derives .listEnd later rest →
      Derives .listEnd text rest
  | objectEnd {text rest : List Char} :
      Space text ('\x7d' :: rest) → Derives .objectEnd text rest
  | member {text key first later rest : List Char} :
      Space text (',' :: key) → Key key first → Derives .value first later →
      Derives .objectEnd later rest → Derives .objectEnd text rest

end ComponentNaming.Json.Grammar

namespace ComponentNaming.Options.Grammar

open Json Json.Grammar

/-! ## Options -/

/-- The names of a list and the bracket that closes it. -/
inductive Names : List Char → List String → List Char → Prop where
  | last {text token later chars rest : List Char} :
      Space text ('"' :: token) → Quoted token chars later → Space later (']' :: rest) →
      Names text [String.ofList chars] rest
  | more {text token later chars next rest : List Char} {names : List String} :
      Space text ('"' :: token) → Quoted token chars later → Space later (',' :: next) →
      Names next names rest → Names text (String.ofList chars :: names) rest

/-- A list of names. -/
inductive NameList : List Char → List String → List Char → Prop where
  | empty {text first rest : List Char} :
      Space text ('[' :: first) → Space first (']' :: rest) → NameList text [] rest
  | names {text first rest : List Char} {names : List String} :
      Space text ('[' :: first) → Names first names rest → NameList text names rest

/-- A member of the object, with the lists of names that it gives: one if its key says
`hocs`, and none otherwise. -/
inductive Member : List Char → List (List String) → List Char → Prop where
  | names {text key between first rest : List Char} {names : List String} :
      Space text ('"' :: key) → Quoted key "hocs".toList between →
      Space between (':' :: first) → NameList first names rest → Member text [names] rest
  | other {text key chars between first rest : List Char} :
      Space text ('"' :: key) → Quoted key chars between → chars ≠ "hocs".toList →
      Space between (':' :: first) → Derives .value first rest → Member text [] rest

/-- The members of the object and the brace that closes it, with the lists of names that
they give. -/
inductive Members : List Char → List (List String) → List Char → Prop where
  | last {text later rest : List Char} {lists : List (List String)} :
      Member text lists later → Space later ('\x7d' :: rest) → Members text lists rest
  | more {text later next rest : List Char} {lists others : List (List String)} :
      Member text lists later → Space later (',' :: next) → Members next others rest →
      Members text (lists ++ others) rest

/-- The object or the array, with the list of names that it gives, if it gives one. It never
gives two. -/
inductive Body : List Char → Option (List String) → List Char → Prop where
  | emptyObject {text first rest : List Char} :
      Space text ('\x7b' :: first) → Space first ('\x7d' :: rest) → Body text none rest
  | object {text first rest : List Char} {listed : Option (List String)} :
      Space text ('\x7b' :: first) → Members first listed.toList rest → Body text listed rest
  | emptyArray {text first rest : List Char} :
      Space text ('[' :: first) → Space first (']' :: rest) → Body text none rest
  | array {text first later rest : List Char} {names : List String} :
      Space text ('[' :: first) → NameList first names later → Space later (']' :: rest) →
      Body text (some names) rest

/-- A whole text, with the list of names that it gives, if it gives one. -/
inductive Document : List Char → Option (List String) → Prop where
  | whole {text rest : List Char} {listed : Option (List String)} :
      Body text listed rest → Space rest [] → Document text listed

end ComponentNaming.Options.Grammar
