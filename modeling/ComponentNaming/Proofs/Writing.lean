import ComponentNaming.Proofs.OptionsLanguage

/-!
# Writing options

Options that list given names can be written as a text (`Options.written`): the object whose
one member is the list. Each name is put in quotation marks, and its characters are written in
some way of escaping them. What is asked of such a way is only that each character is spelled
as the grammar allows, whatever comes after it (`Json.Escaping`). So a text in quotation marks
reads as what was written (`Json.Escaping.readsBack`), and the options list the names from
which they were written, whatever they are (`Options.lists_written`).

Ways of escaping exist: a character that may not stand for itself is written by its letter,
if it has one, or else by its code units, and so is any other character that one chooses
(`Json.Escaping.units`).
-/

set_option autoImplicit false

namespace ComponentNaming.Json

open Grammar

/-! ## Texts in quotation marks -/

/-- A way to write characters between quotation marks. -/
structure Escaping where
  write : Char → List Char
  spells (char : Char) (rest : List Char) : Spells (write char ++ rest) char rest

namespace Escaping

/-- A text in quotation marks. -/
def quote (escaping : Escaping) (text : String) : List Char :=
  '"' :: (text.toList.flatMap escaping.write ++ ['"'])

/-- What is written between quotation marks is read as it was. -/
theorem readsBack (escaping : Escaping) (chars rest : List Char) :
    Quoted (chars.flatMap escaping.write ++ '"' :: rest) chars rest := by
  induction chars with
  | nil => exact .closed
  | cons char chars ih =>
      rw [List.flatMap_cons, List.append_assoc]
      exact .more (escaping.spells char _) ih

end Escaping

/-! ## Code units -/

/-- A code unit by its four digits. -/
def unitDigits (unit : Nat) : List Char :=
  [unit / 0x1000, unit / 0x100 % 0x10, unit / 0x10 % 0x10, unit % 0x10].map Nat.digitChar

theorem hexDigit_digitChar : ∀ value < 16, HexDigit (Nat.digitChar value) value := by decide

theorem codeUnit_unitDigits {unit : Nat} (small : unit < 0x10000) (rest : List Char) :
    CodeUnit (unitDigits unit ++ rest) unit rest := by
  have places : unit / 0x1000 * 0x1000 + unit / 0x100 % 0x10 * 0x100 +
      unit / 0x10 % 0x10 * 0x10 + unit % 0x10 = unit := by omega
  have digits : CodeUnit (unitDigits unit ++ rest)
      (unit / 0x1000 * 0x1000 + unit / 0x100 % 0x10 * 0x100 + unit / 0x10 % 0x10 * 0x10 +
        unit % 0x10) rest :=
    .digits (hexDigit_digitChar _ (by omega)) (hexDigit_digitChar _ (by omega))
      (hexDigit_digitChar _ (by omega)) (hexDigit_digitChar _ (by omega))
  rwa [places] at digits

/-- A character by its one or two code units. -/
def charUnits (char : Char) : List Char :=
  if char.toNat < 0x10000 then '\\' :: 'u' :: unitDigits char.toNat
  else
    '\\' :: 'u' :: (unitDigits (leadingUnit char) ++
      '\\' :: 'u' :: unitDigits (trailingUnit char))

theorem spells_charUnits (char : Char) (rest : List Char) :
    Spells (charUnits char ++ rest) char rest := by
  have range := toNat_range char
  unfold charUnits
  split
  · rename_i small
    exact .unit (codeUnit_unitDigits small rest)
  · rename_i beyond
    have leading : leadingUnit char < 0x10000 := by
      unfold leadingUnit
      omega
    have trailing : trailingUnit char < 0x10000 := by
      unfold trailingUnit
      omega
    simp only [List.cons_append, List.append_assoc]
    exact .pair (by omega) (codeUnit_unitDigits leading _) (codeUnit_unitDigits trailing rest)

/-! ## Ways of escaping -/

/-- The letter by which a character is usually written after a backslash, if there is one. -/
def letterOf? (char : Char) : Option Char :=
  (escapes.find? fun (letter, meant) => meant = char && letter ≠ '/').map Prod.fst

theorem mem_escapes_of_letterOf? {char letter : Char} (found : letterOf? char = some letter) :
    (letter, char) ∈ escapes := by
  obtain ⟨⟨known, meant⟩, isFound, rfl⟩ := Option.map_eq_some_iff.mp found
  have same := List.find?_some isFound
  simp only [Bool.and_eq_true, decide_eq_true_eq] at same
  rw [← same.1]
  exact List.mem_of_find?_eq_some isFound

/-- What has no letter is neither a quotation mark nor a backslash. -/
theorem ne_of_letterOf? {char : Char} (missing : letterOf? char = none) :
    char ≠ '"' ∧ char ≠ '\\' := by
  constructor
  · rintro rfl
    exact absurd missing (by decide)
  · rintro rfl
    exact absurd missing (by decide)

/-- Characters are written by their letters, if they have any. Controls are written by their
code units, and so are the characters that are chosen. All others stand for themselves. -/
def Escaping.units (chosen : Char → Bool) : Escaping where
  write char :=
    match letterOf? char with
    | some letter => ['\\', letter]
    | none => if char.toNat < 0x20 || chosen char then charUnits char else [char]
  spells char rest := by
    split
    · rename_i found
      exact .escape (mem_escapes_of_letterOf? found)
    · rename_i missing
      split
      · exact spells_charUnits char rest
      · rename_i plain
        obtain ⟨noQuote, noBackslash⟩ := ne_of_letterOf? missing
        simp only [Bool.or_eq_true, decide_eq_true_eq, not_or, Nat.not_lt] at plain
        exact .plain noQuote noBackslash plain.1

instance : Inhabited Escaping := ⟨.units fun _ => false⟩

end ComponentNaming.Json

namespace ComponentNaming.Options

open Json Json.Grammar Grammar

/-! ## The text of options -/

/-- The object whose one member is the list of the given names. -/
def written (escaping : Escaping) (names : List String) : String :=
  String.ofList (['\x7b'] ++ escaping.quote wrappersKey ++ [':', '['] ++
    [','].intercalate (names.map escaping.quote) ++ [']', '\x7d'])

/-- The names of a list, as they are written, and the bracket that closes it. -/
theorem names_intercalate (escaping : Escaping) (first : String) (names : List String)
    (rest : List Char) :
    Names ([','].intercalate ((first :: names).map escaping.quote) ++ ']' :: rest)
      (first :: names) rest := by
  induction names generalizing first with
  | nil =>
      have one := Names.last .none (escaping.readsBack first.toList (']' :: rest)) .none
      rw [String.ofList_toList] at one
      simpa [Escaping.quote, List.intercalate] using one
  | cons second names ih =>
      have more := Names.more .none (escaping.readsBack first.toList _) .none (ih second)
      rw [String.ofList_toList] at more
      simpa [Escaping.quote, List.intercalate] using more

theorem nameList_intercalate (escaping : Escaping) (names : List String) (rest : List Char) :
    NameList ('[' :: ([','].intercalate (names.map escaping.quote) ++ ']' :: rest)) names rest := by
  cases names with
  | nil => exact .empty .none .none
  | cons first names => exact .names .none (names_intercalate escaping first names rest)

/-- **What is written lists the names that it was written from.** -/
theorem lists_written (escaping : Escaping) (names : List String) :
    Lists (written escaping names) names := by
  have member := Member.names .none (escaping.readsBack wrappersKey.toList _) .none
    (nameList_intercalate escaping names ['\x7d'])
  have document : Document _ (some names) := .whole (.object .none (.last member .none)) .none
  refine ⟨some names, ?_, rfl⟩
  simpa [written, Escaping.quote] using document

end ComponentNaming.Options
