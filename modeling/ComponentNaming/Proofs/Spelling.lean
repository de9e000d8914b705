import ComponentNaming.Proofs.Lexemes
import Mathlib.Tactic.SplitIfs

/-!
# Reading texts in quotation marks

How far a text in quotation marks goes is settled by its characters alone, so each reader
is matched with its nonterminal by an equivalence: a code unit (`codeUnit_eq_ok_iff`), a
text that is read for what it says (`quoted_eq_ok_iff`), and a text that is passed over
(`skipQuoted_eq_ok_iff`).

The readers decide by the code units of a character whether it takes one or two, and the
grammar by the character whether it takes one or two code units. That the two agree is
`surrogatePair_eq_iff` for two, and the absence of characters in the range of the
surrogates for one.
-/

set_option autoImplicit false

namespace ComponentNaming.Json.Grammar

/-! ## Code units -/

theorem hexValue?_eq_some_iff {char : Char} {value : Nat} :
    hexValue? char = some value ↔ HexDigit char value := by
  constructor
  · intro read
    -- The reader knows three ranges of codes, and every code in them is in the table.
    have figures : ∀ code ∈ List.range' 48 10, HexDigit (Char.ofNat code) (code - 48) := by decide
    have lower : ∀ code ∈ List.range' 97 6, HexDigit (Char.ofNat code) (code - 97 + 10) := by
      decide
    have upper : ∀ code ∈ List.range' 65 6, HexDigit (Char.ofNat code) (code - 65 + 10) := by
      decide
    rw [← Char.ofNat_toNat char]
    simp only [hexValue?, Char.le_def, UInt32.le_iff_toNat_le, Char.toNat_val, Char.reduceToNat]
      at read
    split_ifs at read with range range range <;> cases read
    · exact figures char.toNat (List.mem_range'_1.2 (by omega))
    · exact lower char.toNat (List.mem_range'_1.2 (by omega))
    · exact upper char.toNat (List.mem_range'_1.2 (by omega))
  · intro digit
    have all : ∀ digit ∈ hexDigits, hexValue? digit.1 = some digit.2 := by decide
    exact all (char, value) digit

theorem HexDigit.lt {char : Char} {value : Nat} (digit : HexDigit char value) : value < 16 := by
  have all : ∀ digit ∈ hexDigits, digit.2 < 16 := by decide
  exact all (char, value) digit

theorem codeUnit_eq_ok_iff {text rest : List Char} {value : Nat} :
    codeUnit text = .ok (value, rest) ↔ CodeUnit text value rest := by
  constructor
  · intro read
    unfold codeUnit at read
    split at read
    · split at read
      · rename_i a b c d first second third fourth
        cases read
        have places : ((a * 16 + b) * 16 + c) * 16 + d =
            a * 0x1000 + b * 0x100 + c * 0x10 + d := by
          omega
        rw [places]
        exact .digits (hexValue?_eq_some_iff.1 first) (hexValue?_eq_some_iff.1 second)
          (hexValue?_eq_some_iff.1 third) (hexValue?_eq_some_iff.1 fourth)
      · cases read
    · split at read <;> cases read
  · rintro ⟨first, second, third, fourth⟩
    simp only [codeUnit, hexValue?_eq_some_iff.2 first, hexValue?_eq_some_iff.2 second,
      hexValue?_eq_some_iff.2 third, hexValue?_eq_some_iff.2 fourth, Except.ok.injEq,
      Prod.mk.injEq, and_true]
    omega

theorem CodeUnit.lt {text rest : List Char} {value : Nat} (unit : CodeUnit text value rest) :
    value < 0x10000 := by
  cases unit with
  | digits first second third fourth =>
      have := first.lt
      have := second.lt
      have := third.lt
      have := fourth.lt
      omega

/-! ## Characters and their code units -/

theorem toNat_ofNat_of_isValidChar {code : Nat} (valid : code.isValidChar) :
    (Char.ofNat code).toNat = code := by
  rw [Char.ofNat, dif_pos valid]
  rfl

/-- No character is a surrogate. -/
theorem toNat_range (char : Char) :
    char.toNat < 0xD800 ∨ (0xDFFF < char.toNat ∧ char.toNat < 0x110000) := char.valid

theorem isLeading_eq_true_iff {unit : Nat} :
    isLeading unit = true ↔ 0xD800 ≤ unit ∧ unit ≤ 0xDBFF := by
  simp [isLeading]

theorem isTrailing_eq_true_iff {unit : Nat} :
    isTrailing unit = true ↔ 0xDC00 ≤ unit ∧ unit ≤ 0xDFFF := by
  simp [isTrailing]

/-- Two surrogates make the character that has them as its code units. -/
theorem surrogatePair_eq_iff {leading trailing : Nat} {char : Char}
    (first : isLeading leading = true) (second : isTrailing trailing = true) :
    surrogatePair leading trailing = char ↔
      0x10000 ≤ char.toNat ∧ leadingUnit char = leading ∧ trailingUnit char = trailing := by
  rw [isLeading_eq_true_iff] at first
  rw [isTrailing_eq_true_iff] at second
  unfold surrogatePair leadingUnit trailingUnit
  constructor
  · rintro rfl
    rw [toNat_ofNat_of_isValidChar (.inr (by omega))]
    omega
  · rintro ⟨beyond, rfl, rfl⟩
    have range := toNat_range char
    have code : 0x10000 + (0xD800 + (char.toNat - 0x10000) / 0x400 - 0xD800) * 0x400 +
        (0xDC00 + (char.toNat - 0x10000) % 0x400 - 0xDC00) = char.toNat := by omega
    rw [code, Char.ofNat_toNat]

theorem isLeading_leadingUnit (char : Char) : isLeading (leadingUnit char) = true := by
  have range := toNat_range char
  rw [isLeading_eq_true_iff, leadingUnit]
  omega

theorem isTrailing_trailingUnit (char : Char) : isTrailing (trailingUnit char) = true := by
  rw [isTrailing_eq_true_iff, trailingUnit]
  omega

theorem not_isTrailing_of_isLeading {unit : Nat} (leading : isLeading unit = true) :
    isTrailing unit = false := by
  rw [isLeading_eq_true_iff] at leading
  rw [Bool.eq_false_iff, ne_eq, isTrailing_eq_true_iff]
  omega

/-! ## Escapes -/

theorem escapeLetter?_eq_some_iff {letter char : Char} :
    escapeLetter? letter = some char ↔ (letter, char) ∈ escapes := by
  unfold escapeLetter?
  split <;> simp_all [escapes, eq_comm]

theorem ne_unitMark_of_mem_escapes {letter char : Char} (known : (letter, char) ∈ escapes) :
    letter ≠ 'u' := by
  rintro rfl
  simp [escapes] at known

theorem pairMark_eq_ok_iff {text rest : List Char} :
    pairMark text = .ok rest ↔ text = '\\' :: 'u' :: rest := by
  unfold pairMark
  split <;> simp_all

theorem pairEnd_eq_ok_iff {leading : Nat} {text rest : List Char} {char : Char} :
    pairEnd leading text = .ok (char, rest) ↔
      ∃ trailing later, text = '\\' :: 'u' :: later ∧ CodeUnit later trailing rest ∧
        isTrailing trailing = true ∧ surrogatePair leading trailing = char := by
  constructor
  · intro read
    obtain ⟨later, mark, read⟩ := bind_eq_ok_iff.1 read
    obtain ⟨⟨trailing, after⟩, unit, read⟩ := bind_eq_ok_iff.1 read
    simp only at read
    split at read
    · rename_i isSecond
      obtain ⟨rfl, rfl⟩ := Prod.mk.inj (Except.ok.inj read)
      exact ⟨trailing, later, pairMark_eq_ok_iff.1 mark, codeUnit_eq_ok_iff.1 unit, isSecond, rfl⟩
    · cases read
  · rintro ⟨trailing, later, rfl, unit, isSecond, rfl⟩
    simp [pairEnd, pairMark, codeUnit_eq_ok_iff.2 unit, isSecond, bind, Except.bind]

theorem unitEscape_eq_ok_iff {text rest : List Char} {char : Char} :
    unitEscape text = .ok (char, rest) ↔
      CodeUnit text char.toNat rest ∨
      ∃ trailing, 0x10000 ≤ char.toNat ∧
        CodeUnit text (leadingUnit char) ('\\' :: 'u' :: trailing) ∧
        CodeUnit trailing (trailingUnit char) rest := by
  have range := toNat_range char
  constructor
  · intro read
    obtain ⟨⟨unit, after⟩, first, read⟩ := bind_eq_ok_iff.1 read
    simp only at read
    rw [codeUnit_eq_ok_iff] at first
    split at read
    · cases read
    · rename_i notTrailing
      -- A first half has to be followed by a second one; other units are characters already.
      split at read
      · rename_i isFirst
        obtain ⟨trailing, later, rfl, second, isSecond, pair⟩ := pairEnd_eq_ok_iff.1 read
        obtain ⟨beyond, rfl, rfl⟩ := (surrogatePair_eq_iff isFirst isSecond).1 pair
        exact .inr ⟨later, beyond, first, second⟩
      · rename_i notLeading
        rw [isTrailing_eq_true_iff] at notTrailing
        rw [isLeading_eq_true_iff] at notLeading
        have small := first.lt
        obtain ⟨rfl, rfl⟩ := Prod.mk.inj (Except.ok.inj read)
        have valid : unit.isValidChar := by
          unfold Nat.isValidChar
          omega
        rw [toNat_ofNat_of_isValidChar valid]
        exact .inl first
  · rintro (unit | ⟨trailing, beyond, first, second⟩)
    · have notTrailing : isTrailing char.toNat = false := by
        rw [Bool.eq_false_iff, ne_eq, isTrailing_eq_true_iff]
        omega
      have notLeading : isLeading char.toNat = false := by
        rw [Bool.eq_false_iff, ne_eq, isLeading_eq_true_iff]
        omega
      simp [unitEscape, codeUnit_eq_ok_iff.2 unit, notTrailing, notLeading, bind, Except.bind]
    · have isFirst := isLeading_leadingUnit char
      have isSecond := isTrailing_trailingUnit char
      have pair : pairEnd (leadingUnit char) ('\\' :: 'u' :: trailing) = .ok (char, rest) :=
        pairEnd_eq_ok_iff.2 ⟨_, _, rfl, second, isSecond,
          (surrogatePair_eq_iff isFirst isSecond).2 ⟨beyond, rfl, rfl⟩⟩
      simp [unitEscape, codeUnit_eq_ok_iff.2 first, not_isTrailing_of_isLeading isFirst, isFirst,
        pair, bind, Except.bind]

/-! ## Characters -/

theorem escape_eq_ok_iff {text rest : List Char} {char : Char} :
    escape text = .ok (char, rest) ↔ Spells ('\\' :: text) char rest := by
  constructor
  · intro read
    unfold escape at read
    split at read
    · cases read
    · rcases unitEscape_eq_ok_iff.1 read with unit | ⟨trailing, beyond, first, second⟩
      · exact .unit unit
      · exact .pair beyond first second
    · split at read
      · rename_i known
        obtain ⟨rfl, rfl⟩ := Prod.mk.inj (Except.ok.inj read)
        exact .escape (escapeLetter?_eq_some_iff.1 known)
      · cases read
  · intro spelled
    cases spelled with
    | plain _ noBackslash _ => exact absurd rfl noBackslash
    | escape known =>
        rw [escape, escapeLetter?_eq_some_iff.2 known]
        exact ne_unitMark_of_mem_escapes known
    | unit unit => exact unitEscape_eq_ok_iff.2 (.inl unit)
    | pair beyond first second => exact unitEscape_eq_ok_iff.2 (.inr ⟨_, beyond, first, second⟩)

theorem Spells.ne_closed {text rest : List Char} {char : Char} (spelled : Spells text char rest)
    (later : List Char) : text ≠ '"' :: later := by
  rintro rfl
  cases spelled with
  | plain noQuote _ _ => exact noQuote rfl

theorem character_eq_ok_iff {text rest : List Char} {char : Char}
    (goesOn : ∀ later, text ≠ '"' :: later) :
    character text = .ok (char, rest) ↔ Spells text char rest := by
  unfold character
  split
  · constructor
    · intro read
      cases read
    · intro spelled
      cases spelled
  · exact escape_eq_ok_iff
  · rename_i first later noBackslash
    constructor
    · intro read
      split at read
      · cases read
      · rename_i printable
        obtain ⟨rfl, rfl⟩ := Prod.mk.inj (Except.ok.inj read)
        refine .plain (fun quote => goesOn later (by rw [quote])) noBackslash ?_
        simpa [isControl] using printable
    · intro spelled
      cases spelled with
      | plain _ _ printable => simp [isControl, printable]
      | escape _ => exact absurd rfl noBackslash
      | unit _ => exact absurd rfl noBackslash
      | pair _ _ _ => exact absurd rfl noBackslash

/-- A text is read for what it says exactly as the grammar derives it. -/
theorem quoted_eq_ok_iff {text chars rest : List Char} :
    quoted text = .ok (chars, rest) ↔ Quoted text chars rest := by
  constructor
  · intro read
    fun_induction quoted text generalizing chars rest with
    | case1 =>
        cases read
        exact .closed
    | case2 => cases read
    | case3 => cases read
    | case4 text goesOn char next first chars last inner ih =>
        cases read
        exact .more ((character_eq_ok_iff fun later closed => goesOn later closed).1 first)
          (ih inner)
  · intro derived
    induction derived with
    | closed => simp [quoted]
    | more spelled _ ih =>
        rw [quoted, (character_eq_ok_iff spelled.ne_closed).2 spelled]
        · simp only [ih]
        exact fun later closed => spelled.ne_closed later closed

/-! ## Texts that are passed over -/

theorem skipEscape_eq_ok_iff {text rest : List Char} :
    skipEscape text = .ok rest ↔ Character ('\\' :: text) rest := by
  constructor
  · intro read
    unfold skipEscape at read
    split at read
    · cases read
    · obtain ⟨⟨value, after⟩, unit, rfl⟩ := map_eq_ok_iff.1 read
      exact .unit (codeUnit_eq_ok_iff.1 unit)
    · split at read
      · rename_i known
        obtain ⟨char, known⟩ := Option.isSome_iff_exists.1 known
        cases read
        exact .escape (escapeLetter?_eq_some_iff.1 known)
      · cases read
  · intro stands
    cases stands with
    | plain _ noBackslash _ => exact absurd rfl noBackslash
    | escape known =>
        rw [skipEscape, escapeLetter?_eq_some_iff.2 known]
        · rfl
        exact ne_unitMark_of_mem_escapes known
    | unit unit => simp [skipEscape, codeUnit_eq_ok_iff.2 unit, Except.map]

theorem Character.ne_closed {text rest : List Char} (stands : Character text rest)
    (later : List Char) : text ≠ '"' :: later := by
  rintro rfl
  cases stands with
  | plain noQuote _ _ => exact noQuote rfl

theorem skipCharacter_eq_ok_iff {text rest : List Char} (goesOn : ∀ later, text ≠ '"' :: later) :
    skipCharacter text = .ok rest ↔ Character text rest := by
  unfold skipCharacter
  split
  · constructor
    · intro read
      cases read
    · intro stands
      cases stands
  · exact skipEscape_eq_ok_iff
  · rename_i first later noBackslash
    constructor
    · intro read
      split at read
      · cases read
      · rename_i printable
        cases read
        refine .plain (fun quote => goesOn rest (by rw [quote])) noBackslash ?_
        simpa [isControl] using printable
    · intro stands
      cases stands with
      | plain _ _ printable => simp [isControl, printable]
      | escape _ => exact absurd rfl noBackslash
      | unit _ => exact absurd rfl noBackslash

/-- A text is passed over exactly as the grammar derives it. -/
theorem skipQuoted_eq_ok_iff {text rest : List Char} :
    skipQuoted text = .ok rest ↔ Text text rest := by
  constructor
  · intro read
    fun_induction skipQuoted text with
    | case1 =>
        cases read
        exact .closed
    | case2 => cases read
    | case3 text goesOn next first ih =>
        exact .more ((skipCharacter_eq_ok_iff fun later closed => goesOn later closed).1 first)
          (ih read)
  · intro derived
    induction derived with
    | closed => simp [skipQuoted]
    | more stands _ ih =>
        rw [skipQuoted, (skipCharacter_eq_ok_iff stands.ne_closed).2 stands]
        · exact ih
        exact fun later closed => stands.ne_closed later closed

end ComponentNaming.Json.Grammar
