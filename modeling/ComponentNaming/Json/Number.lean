import ComponentNaming.Json.Fault

/-!
# Numbers

A `Numeral` is a number as it is written: a sign, digits, and possibly a fraction and an
exponent. `numeral` reads one. What a numeral is worth as a 64-bit number is a separate
question (`Numeral.value`), and only a numeral that is wanted for its value is asked it.

The value is found from the leading digits of the numeral: as many as make a number below
`2 ^ 64`. That number is turned into a float and multiplied or divided by a power of ten,
so that two roundings take place.
-/

set_option autoImplicit false

namespace ComponentNaming.Json

/-- The exponent of a numeral. -/
structure Exponent where
  isNegative : Bool
  digits : List Char
  deriving DecidableEq, Repr

/-- A number as it is written. -/
structure Numeral where
  isNegative : Bool
  whole : List Char
  fraction : Option (List Char)
  exponent : Option Exponent
  deriving DecidableEq, Repr

/-! ## Reading -/

/-- The digits at the beginning of a text, and the text after them. -/
def digits (text : List Char) : List Char × List Char :=
  (text.takeWhile Char.isDigit, text.dropWhile Char.isDigit)

/-- Reads one or more digits. At the end of the text the given cause is reported. -/
def someDigits (atEnd : Cause) : List Char → Except Fault (List Char × List Char)
  | [] => .error (.next atEnd [])
  | char :: text =>
    if char.isDigit then .ok (digits (char :: text))
    else .error (.next .invalidNumber (char :: text))

/-- Whether a text begins with a digit. -/
def startsWithDigit : List Char → Bool
  | [] => false
  | char :: _ => char.isDigit

/-- Reads the digits before the point. There is at least one, and a zero stands alone. -/
def whole (atEnd : Cause) : List Char → Except Fault (List Char × List Char)
  | '0' :: text =>
    if startsWithDigit text then .error (.next .invalidNumber text) else .ok (['0'], text)
  | text => someDigits atEnd text

/-- Reads a point and the digits after it, if there is a point. -/
def fraction (atEnd : Cause) : List Char → Except Fault (Option (List Char) × List Char)
  | '.' :: text => do
    let (fraction, rest) ← someDigits atEnd text
    return (some fraction, rest)
  | text => .ok (none, text)

/-- Reads the sign of an exponent: whether it is negative. -/
def exponentSign : List Char → Bool × List Char
  | '+' :: text => (false, text)
  | '-' :: text => (true, text)
  | text => (false, text)

/-- Reads an exponent, if there is one. -/
def exponent (atEnd : Cause) : List Char → Except Fault (Option Exponent × List Char)
  | char :: text =>
    if char = 'e' ∨ char = 'E' then do
      let (isNegative, text) := exponentSign text
      let (digits, rest) ← someDigits atEnd text
      return (some { isNegative, digits }, rest)
    else .ok (none, char :: text)
  | [] => .ok (none, [])

/-- Reads the sign of a numeral: whether it is negative. -/
def numeralSign : List Char → Bool × List Char
  | '-' :: text => (true, text)
  | text => (false, text)

/-- Reads a numeral. A text that ends too early is refused for the given cause. -/
def numeral (atEnd : Cause) (text : List Char) : Except Fault (Numeral × List Char) := do
  let (isNegative, text) := numeralSign text
  let (whole, text) ← whole atEnd text
  let (fraction, text) ← fraction atEnd text
  let (exponent, text) ← exponent atEnd text
  return ({ isNegative, whole, fraction, exponent }, text)

theorem length_of_someDigits {atEnd : Cause} {text read rest : List Char}
    (done : someDigits atEnd text = .ok (read, rest)) : rest.length < text.length := by
  cases text with
  | nil => cases done
  | cons char text =>
      simp only [someDigits] at done
      split at done
      · rename_i digit
        obtain ⟨_, rfl⟩ := Prod.mk.inj (Except.ok.inj done)
        rw [List.dropWhile_cons_of_pos digit]
        exact Nat.lt_succ_of_le (List.dropWhile_sublist _).length_le
      · cases done

theorem length_of_whole {atEnd : Cause} {text read rest : List Char}
    (done : whole atEnd text = .ok (read, rest)) : rest.length < text.length := by
  unfold whole at done
  split at done
  · split at done <;> cases done
    exact Nat.lt_succ_self _
  · exact length_of_someDigits done

theorem length_of_fraction {atEnd : Cause} {text rest : List Char} {read : Option (List Char)}
    (done : fraction atEnd text = .ok (read, rest)) : rest.length ≤ text.length := by
  unfold fraction at done
  split at done
  · simp only [bind, Except.bind] at done
    split at done
    · cases done
    · rename_i result digits
      cases done
      exact Nat.le_of_lt (Nat.lt_trans (length_of_someDigits digits) (Nat.lt_succ_self _))
  · cases done
    exact Nat.le_refl _

theorem length_exponentSign_le (text : List Char) : (exponentSign text).2.length ≤ text.length := by
  unfold exponentSign
  split <;> simp

theorem length_numeralSign_le (text : List Char) : (numeralSign text).2.length ≤ text.length := by
  unfold numeralSign
  split <;> simp

theorem length_of_exponent {atEnd : Cause} {text rest : List Char} {read : Option Exponent}
    (done : exponent atEnd text = .ok (read, rest)) : rest.length ≤ text.length := by
  unfold exponent at done
  split at done
  · rename_i char text
    split at done
    · simp only [bind, Except.bind] at done
      split at done
      · cases done
      · rename_i result digits
        cases done
        have shorter := length_of_someDigits digits
        have sign := length_exponentSign_le text
        simp only [List.length_cons]
        omega
    · cases done
      exact Nat.le_refl _
  · cases done
    exact Nat.le_refl _

theorem length_of_numeral {atEnd : Cause} {text rest : List Char} {read : Numeral}
    (done : numeral atEnd text = .ok (read, rest)) : rest.length < text.length := by
  simp only [numeral, bind, Except.bind] at done
  split at done
  · cases done
  · rename_i wholePart first
    split at done
    · cases done
    · rename_i fractionPart second
      split at done
      · cases done
      · rename_i exponentPart third
        cases done
        have sign := length_numeralSign_le text
        have shorter := length_of_whole first
        have afterFraction := length_of_fraction second
        have afterExponent := length_of_exponent third
        omega

/-! ## Values -/

/-- The value of a digit. -/
def digitValue (char : Char) : Nat := char.toNat - '0'.toNat

/-- Appends digits to a number as long as it stays within a limit. The result is the
number, and the digits from the first that did not fit. -/
def gather (limit number : Nat) : List Char → Nat × List Char
  | [] => (number, [])
  | digit :: digits =>
    let longer := number * 10 + digitValue digit
    if longer ≤ limit then gather limit longer digits else (number, digit :: digits)

/-- The greatest number of 64 bits. -/
def greatestWord : Nat := 0xFFFFFFFFFFFFFFFF

/-- The greatest magnitude of a negative integer of 64 bits. -/
def greatestNegative : Nat := 0x8000000000000000

/-- The greatest exponent that is told from greater ones. -/
def greatestExponent : Nat := 0x7FFFFFFF

/-- The greatest power of ten that is a float. -/
def greatestPower : Int := 308

/-- The float nearest to a power of ten. -/
def powerOfTen (power : Nat) : Float := Float.ofScientific 1 false power

/-- Divides a float by a power of ten, by at most the greatest power in one go. -/
def divideByPower (value : Float) (power : Nat) : Float :=
  if power ≤ greatestPower.toNat then value / powerOfTen power
  else if value == 0 then value
  else divideByPower (value / powerOfTen greatestPower.toNat) (power - greatestPower.toNat)
termination_by power
decreasing_by simp_all [greatestPower]; omega

/-- The float `significand · 10 ^ power`, unless it is too great. -/
def scale (significand : Nat) (power : Int) : Option Float :=
  let value := significand.toUInt64.toFloat
  if power < 0 then some (divideByPower value (-power).toNat)
  else if greatestPower < power then if value == 0 then some value else none
  else
    let product := value * powerOfTen power.toNat
    if product.isInf then none else some product

namespace Numeral

/-- The leading digits of a numeral as a number, and the power of ten it is multiplied by.
Whole digits that do not fit count for the power alone. The digits of the fraction are
again taken as long as they fit. -/
def leading (numeral : Numeral) : Nat × Int :=
  let (number, dropped) := gather greatestWord 0 numeral.whole
  let fraction := numeral.fraction.getD []
  let (number, left) := gather greatestWord number fraction
  (number, (dropped.length : Int) - (fraction.length - left.length : Nat))

/-- The integer that a numeral without fraction and exponent is, if it fits in 64 bits. A
negative zero is no integer. -/
def integer? (numeral : Numeral) : Option Int :=
  match numeral.fraction, numeral.exponent, gather greatestWord 0 numeral.whole with
  | none, none, (number, []) =>
    if !numeral.isNegative then some number
    else if 0 < number ∧ number ≤ greatestNegative then some (-number)
    else none
  | _, _, _ => none

/-- The float with a sign. -/
def signed (numeral : Numeral) (magnitude : Float) : Number :=
  .float (if numeral.isNegative then -magnitude else magnitude)

/-- The value of a numeral that stands before the given text. A number that is too great
is refused: after its last digit, or after the digit with which its exponent became too
great to be told. -/
def value (numeral : Numeral) (rest : List Char) : Except Fault Number :=
  match numeral.integer? with
  | some number => .ok (.integer number)
  | none =>
    let (significand, power) := numeral.leading
    let finish (power : Int) : Except Fault Number :=
      match scale significand power with
      | some magnitude => .ok (numeral.signed magnitude)
      | none => .error (.here .numberOutOfRange rest)
    match numeral.exponent with
    | none => finish power
    | some exponent =>
      match gather greatestExponent 0 exponent.digits with
      | (number, []) => finish (if exponent.isNegative then power - number else power + number)
      | (_, _ :: left) =>
        if significand = 0 ∨ exponent.isNegative then .ok (numeral.signed 0)
        else .error (.here .numberOutOfRange (left ++ rest))

end Numeral

/-- Reads a number for its value. -/
def number (text : List Char) : Except Fault (Number × List Char) := do
  let (numeral, rest) ← numeral .endInValue text
  let value ← numeral.value rest
  return (value, rest)

end ComponentNaming.Json
