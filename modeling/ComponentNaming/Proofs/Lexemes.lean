import ComponentNaming.Proofs.Grammar

/-!
# Reading white space and numbers

What is read as white space or as a number is derived by the grammar. The other direction
needs a condition. White space and numbers are read as far as they go, while a derivation
may stop earlier (`12` begins with the number `1`). So the reader follows a derivation only
if what comes after it does not go on: a token after white space, and a `Boundary` after a
number.
-/

set_option autoImplicit false

namespace ComponentNaming.Json.Grammar

/-! ## Results that are passed on -/

theorem bind_eq_ok_iff {α β : Type} {first : Except Fault α} {next : α → Except Fault β}
    {result : β} :
    (first >>= next) = .ok result ↔ ∃ found, first = .ok found ∧ next found = .ok result := by
  cases first with
  | error fault => simp [bind, Except.bind]
  | ok found => simp [bind, Except.bind]

theorem map_eq_ok_iff {α β : Type} {first : Except Fault α} {change : α → β} {result : β} :
    first.map change = .ok result ↔ ∃ found, first = .ok found ∧ change found = result := by
  cases first with
  | error fault => simp [Except.map]
  | ok found => simp [Except.map]

/-! ## White space -/

theorem mem_spaces_iff {char : Char} : char ∈ spaces ↔ isSpace char = true := by
  simp only [spaces, isSpace, List.mem_cons, List.not_mem_nil, or_false, Bool.or_eq_true,
    decide_eq_true_eq]
  grind

theorem space_skipSpace (text : List Char) : Space text (skipSpace text) := by
  induction text with
  | nil => exact .none
  | cons char text ih =>
      by_cases space : isSpace char = true
      · rw [skipSpace, List.dropWhile_cons_of_pos space]
        exact .more (mem_spaces_iff.2 space) ih
      · rw [skipSpace, List.dropWhile_cons_of_neg space]
        exact .none

theorem Space.of_skipSpace {text rest : List Char} (skipped : skipSpace text = rest) :
    Space text rest := skipped ▸ space_skipSpace text

/-- White space makes no difference to what comes after it. -/
theorem Space.skipSpace_eq {text rest : List Char} (space : Space text rest) :
    skipSpace text = skipSpace rest := by
  induction space with
  | none => rfl
  | more char _ ih =>
      rw [skipSpace, List.dropWhile_cons_of_pos (mem_spaces_iff.1 char)]
      exact ih

/-- White space before a token is passed over up to the token. -/
theorem Space.skipSpace_eq_cons {text rest : List Char} {char : Char}
    (space : Space text (char :: rest)) (token : isSpace char = false) :
    skipSpace text = char :: rest := by
  rw [space.skipSpace_eq, skipSpace, List.dropWhile_cons_of_neg]
  rwa [Bool.not_eq_true]

theorem skipSpace_eq_nil_iff {text : List Char} : skipSpace text = [] ↔ Space text [] :=
  ⟨.of_skipSpace, fun space => space.skipSpace_eq⟩

theorem skipSpace_skipSpace (text : List Char) : skipSpace (skipSpace text) = skipSpace text :=
  (space_skipSpace text).skipSpace_eq.symm

/-! ## Numbers -/

/-- The end of a number: no character that could belong to it follows. -/
structure Boundary (rest : List Char) : Prop where
  noDigit : startsWithDigit rest = false
  noPoint : rest.head? ≠ some '.'
  noMark : rest.head? ≠ some 'e' ∧ rest.head? ≠ some 'E'

theorem Boundary.of_space {text rest : List Char} {char : Char}
    (space : Space text (char :: rest)) (boundary : Boundary (char :: rest)) : Boundary text := by
  cases space with
  | none => exact boundary
  | more first _ =>
      simp only [spaces, List.mem_cons, List.not_mem_nil, or_false] at first
      rcases first with rfl | rfl | rfl | rfl <;> exact ⟨rfl, by simp, by simp⟩

theorem digits_dropWhile {digit : Char} (isDigit : digit.isDigit) (text : List Char) :
    Digits (digit :: text) (text.dropWhile Char.isDigit) := by
  induction text generalizing digit with
  | nil => exact .last isDigit
  | cons char text ih =>
      by_cases goesOn : char.isDigit = true
      · rw [List.dropWhile_cons_of_pos goesOn]
        exact .more isDigit (ih goesOn)
      · rw [List.dropWhile_cons_of_neg goesOn]
        exact .last isDigit

theorem Digits.of_someDigits {atEnd : Cause} {text read rest : List Char}
    (done : someDigits atEnd text = .ok (read, rest)) : Digits text rest := by
  cases text with
  | nil => cases done
  | cons char text =>
      simp only [someDigits] at done
      split at done
      · rename_i isDigit
        obtain ⟨_, rfl⟩ := Prod.mk.inj (Except.ok.inj done)
        rw [List.dropWhile_cons_of_pos isDigit]
        exact digits_dropWhile isDigit text
      · cases done

theorem Digits.startsWithDigit {text rest : List Char} (derived : Digits text rest) :
    startsWithDigit text = true := by
  cases derived with
  | last isDigit => exact isDigit
  | more isDigit _ => exact isDigit

theorem Digits.dropWhile_eq {text rest : List Char} (derived : Digits text rest)
    (stops : Json.startsWithDigit rest = false) : text.dropWhile Char.isDigit = rest := by
  have stop : ∀ rest, Json.startsWithDigit rest = false → rest.dropWhile Char.isDigit = rest := by
    intro rest stops
    cases rest with
    | nil => rfl
    | cons char rest =>
        exact List.dropWhile_cons_of_neg (by simpa [Json.startsWithDigit] using stops)
  induction derived with
  | last isDigit =>
      rw [List.dropWhile_cons_of_pos isDigit]
      exact stop _ stops
  | more isDigit _ ih =>
      rw [List.dropWhile_cons_of_pos isDigit]
      exact ih stops

theorem Digits.isRead {text rest : List Char} (derived : Digits text rest)
    (stops : Json.startsWithDigit rest = false) (atEnd : Cause) :
    ∃ read, someDigits atEnd text = .ok (read, rest) := by
  have starts := derived.startsWithDigit
  have left := derived.dropWhile_eq stops
  cases text with
  | nil => cases derived
  | cons char text =>
      simp only [Json.startsWithDigit] at starts
      exact ⟨_, by rw [someDigits, if_pos starts, digits, left]⟩

theorem Minus.of_numeralSign (text : List Char) : Minus text (numeralSign text).2 := by
  unfold numeralSign
  split
  · exact .present
  · exact .absent

theorem Whole.of_whole {atEnd : Cause} {text read rest : List Char}
    (done : whole atEnd text = .ok (read, rest)) : Whole text rest := by
  unfold whole at done
  split at done
  · split at done
    · cases done
    · cases done
      exact .zero
  · rename_i other
    refine .digits (fun zero => ?_) (.of_someDigits done)
    obtain ⟨later, rfl⟩ := List.head?_eq_some_iff.1 zero
    exact other later rfl

theorem Fraction.of_fraction {atEnd : Cause} {text rest : List Char}
    {read : Option (List Char)} (done : fraction atEnd text = .ok (read, rest)) :
    Fraction text rest := by
  unfold fraction at done
  split at done
  · obtain ⟨⟨found, later⟩, digits, same⟩ := bind_eq_ok_iff.1 done
    cases same
    exact .present (.of_someDigits digits)
  · cases done
    exact .absent

theorem Sign.of_exponentSign (text : List Char) : Sign text (exponentSign text).2 := by
  unfold exponentSign
  split
  · exact .plus
  · exact .minus
  · exact .absent

theorem Exponent.of_exponent {atEnd : Cause} {text rest : List Char}
    {read : Option Json.Exponent} (done : exponent atEnd text = .ok (read, rest)) :
    Exponent text rest := by
  unfold exponent at done
  split at done
  · rename_i mark text
    split at done
    · rename_i isMark
      obtain ⟨⟨found, later⟩, digits, same⟩ := bind_eq_ok_iff.1 done
      cases same
      exact .present isMark (.of_exponentSign text) (.of_someDigits digits)
    · cases done
      exact .absent
  · cases done
    exact .absent

theorem Number.of_numeral {atEnd : Cause} {text rest : List Char} {read : Numeral}
    (done : numeral atEnd text = .ok (read, rest)) : Number text rest := by
  obtain ⟨⟨whole, afterWhole⟩, first, done⟩ := bind_eq_ok_iff.1 done
  obtain ⟨⟨fraction, afterFraction⟩, second, done⟩ := bind_eq_ok_iff.1 done
  obtain ⟨⟨exponent, afterExponent⟩, third, done⟩ := bind_eq_ok_iff.1 done
  cases done
  exact .parts (.of_numeralSign text) (.of_whole first) (.of_fraction second)
    (.of_exponent third)

/-- A number begins with a minus sign or a digit. -/
theorem Number.begins {text rest : List Char} (derived : Number text rest) :
    ∃ char later, text = char :: later ∧ (char = '-' ∨ char.isDigit = true) := by
  cases derived with
  | parts minus whole _ _ =>
      cases minus with
      | present => exact ⟨_, _, rfl, .inl rfl⟩
      | absent =>
          cases whole with
          | zero => exact ⟨_, _, rfl, .inr rfl⟩
          | digits _ digits =>
              cases digits with
              | last isDigit => exact ⟨_, _, rfl, .inr isDigit⟩
              | more isDigit _ => exact ⟨_, _, rfl, .inr isDigit⟩

theorem Whole.isRead {text rest : List Char} (derived : Whole text rest)
    (stops : startsWithDigit rest = false) (atEnd : Cause) :
    ∃ read, whole atEnd text = .ok (read, rest) := by
  cases derived with
  | zero => exact ⟨['0'], by simp [whole, stops]⟩
  | digits noZero digits =>
      obtain ⟨read, done⟩ := digits.isRead stops atEnd
      refine ⟨read, ?_⟩
      rw [whole, done]
      rintro later rfl
      exact noZero rfl

theorem Fraction.isRead {text rest : List Char} (derived : Fraction text rest)
    (stops : startsWithDigit rest = false) (noPoint : rest.head? ≠ some '.') (atEnd : Cause) :
    ∃ read, fraction atEnd text = .ok (read, rest) := by
  cases derived with
  | absent =>
      refine ⟨none, ?_⟩
      rw [fraction]
      rintro later rfl
      exact noPoint rfl
  | present digits =>
      obtain ⟨read, done⟩ := digits.isRead stops atEnd
      exact ⟨some read, by simp [fraction, done, bind, Except.bind, pure, Except.pure]⟩

theorem Sign.exponentSign_eq {text digits rest : List Char} (derived : Sign text digits)
    (read : Digits digits rest) : (exponentSign text).2 = digits := by
  cases derived with
  | plus => rfl
  | minus => rfl
  | absent =>
      have starts := read.startsWithDigit
      unfold exponentSign
      split
      · cases starts
      · cases starts
      · rfl

theorem Exponent.isRead {text rest : List Char} (derived : Exponent text rest)
    (boundary : Boundary rest) (atEnd : Cause) :
    ∃ read, exponent atEnd text = .ok (read, rest) := by
  cases derived with
  | absent =>
      refine ⟨none, ?_⟩
      cases text with
      | nil => rfl
      | cons char text =>
          have noMark := boundary.noMark
          simp only [List.head?_cons, ne_eq, Option.some.injEq] at noMark
          rw [exponent, if_neg (not_or.2 noMark)]
  | @present mark text _ _ isMark sign digits =>
      obtain ⟨read, done⟩ := digits.isRead boundary.noDigit atEnd
      rw [← sign.exponentSign_eq digits] at done
      exact ⟨some ⟨(exponentSign text).1, read⟩, by
        simp [exponent, isMark, done, bind, Except.bind, pure, Except.pure]⟩

/-- What comes before an exponent ends with it: neither a digit nor a point follows. -/
theorem Exponent.ends {text rest : List Char} (derived : Exponent text rest)
    (boundary : Boundary rest) : startsWithDigit text = false ∧ text.head? ≠ some '.' := by
  cases derived with
  | absent => exact ⟨boundary.noDigit, boundary.noPoint⟩
  | present isMark _ _ => rcases isMark with rfl | rfl <;> exact ⟨rfl, by simp⟩

/-- Whole digits end with the fraction after them. -/
theorem Fraction.ends {text rest : List Char} (derived : Fraction text rest)
    (stops : startsWithDigit rest = false) : startsWithDigit text = false := by
  cases derived with
  | absent => exact stops
  | present _ => rfl

theorem Minus.numeralSign_eq {text whole rest : List Char} (derived : Minus text whole)
    (read : Whole whole rest) : (numeralSign text).2 = whole := by
  cases derived with
  | present => rfl
  | absent =>
      unfold numeralSign
      split
      · cases read with
        | digits _ digits => cases digits.startsWithDigit
      · rfl

theorem Number.isRead {text rest : List Char} (derived : Number text rest)
    (boundary : Boundary rest) (atEnd : Cause) :
    ∃ read, numeral atEnd text = .ok (read, rest) := by
  cases derived with
  | parts minus whole fraction exponent =>
      obtain ⟨stops, noPoint⟩ := exponent.ends boundary
      obtain ⟨first, done₁⟩ := whole.isRead (fraction.ends stops) atEnd
      obtain ⟨second, done₂⟩ := fraction.isRead stops noPoint atEnd
      obtain ⟨third, done₃⟩ := exponent.isRead boundary atEnd
      refine ⟨⟨(numeralSign text).1, first, second, third⟩, ?_⟩
      rw [← minus.numeralSign_eq whole] at done₁
      simp [numeral, done₁, done₂, done₃, bind, Except.bind, pure, Except.pure]

end ComponentNaming.Json.Grammar
