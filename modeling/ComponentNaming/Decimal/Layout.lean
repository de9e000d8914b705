import ComponentNaming.Decimal.Shortest

/-!
# Writing a decimal

A decimal is written out by place value if its leading digit is neither too far before
nor too far behind the point, and otherwise with an exponent. A `Layout` says where the
one ends and the other begins.
-/

set_option autoImplicit false

namespace ComponentNaming.Decimal

/-- The exponents of the leading digit for which a decimal is written by place value. -/
structure Layout where
  least : Int
  greatest : Int
  deriving DecidableEq, Repr

/-- The point stands after the digits, between them or before them. A number without a
fractional part is written with one zero after the point. -/
def positional (digits : List Char) (exponent : Int) : List Char :=
  let point := digits.length + exponent
  if 0 ≤ exponent then digits ++ List.replicate exponent.toNat '0' ++ ['.', '0']
  else if 0 < point then digits.take point.toNat ++ '.' :: digits.drop point.toNat
  else '0' :: '.' :: List.replicate (-point).toNat '0' ++ digits

/-- One digit, a point and the other digits if there are any, and the exponent. -/
def scientific (digits : List Char) (exponent : Int) : List Char :=
  let leading := digits.length + exponent - 1
  let mark := 'e' :: (toString leading).toList
  match digits with
  | first :: second :: rest => first :: '.' :: second :: rest ++ mark
  | _ => digits ++ mark

/-- A positive decimal in a layout. -/
def Layout.write (layout : Layout) (decimal : Digits) : List Char :=
  let digits := Nat.toDigits 10 decimal.digits
  let leading := digits.length + decimal.exponent - 1
  if layout.least ≤ leading ∧ leading ≤ layout.greatest then positional digits decimal.exponent
  else scientific digits decimal.exponent

/-- The bit of a float that is set if the float is negative, as a number. -/
def signBit : Nat := Nat.pow 2 63

/-- A finite float by the shortest decimal that is rounded to it. Zero has a sign too. -/
def Layout.writeFloat (layout : Layout) (value : Float) : String :=
  let bits := value.toBits.toNat
  let magnitude := Binary.ofBits (bits % signBit)
  let text :=
    if magnitude.significand = 0 then ['0', '.', '0'] else layout.write magnitude.shortest
  String.ofList (if signBit ≤ bits then '-' :: text else text)

end ComponentNaming.Decimal
