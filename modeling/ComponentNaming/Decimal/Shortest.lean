/-!
# The shortest decimal of a binary number

A positive binary number `significand · 2 ^ exponent`, as a 64-bit float holds it, stands
for a whole interval of reals: those that are rounded to it. Among the decimals in that
interval some have fewest digits. `shortest` finds one of these: it looks for the coarsest
grid of multiples of a power of ten that has a point in the interval, and takes the point
of that grid nearest to the number. Halfway between two points it takes the even one.

All of this is exact arithmetic on natural numbers.
-/

set_option autoImplicit false

namespace ComponentNaming.Decimal

/-- The positive number `significand · 2 ^ exponent`. -/
structure Binary where
  significand : Nat
  exponent : Int
  deriving DecidableEq, Repr

/-- The number `digits · 10 ^ exponent`. -/
structure Digits where
  digits : Nat
  exponent : Int
  deriving DecidableEq, Repr

/-- The least exponent of a 64-bit float. -/
def leastExponent : Int := -1074

/-- The least significand of a float whose significand has its full length of 53 bits. -/
def leastFull : Nat := Nat.pow 2 52

/-- The number of exponents that a float can be marked with. -/
def exponentCount : Nat := Nat.pow 2 11

/-- The magnitude of a finite 64-bit float, from its bits. -/
def Binary.ofBits (bits : Nat) : Binary :=
  let biased := bits / leastFull % exponentCount
  let fraction := bits % leastFull
  if biased = 0 then ⟨fraction, leastExponent⟩
  else ⟨leastFull + fraction, leastExponent + (biased - 1 : Nat)⟩

/-- A binary number laid on the grid of the multiples of a power of ten. In units of that
power, the number is `4 · significand · up / down`. -/
structure Gauge where
  up : Nat
  down : Nat

/-- The scale of a binary number on the grid of the multiples of `10 ^ power`. -/
def Binary.gauge (binary : Binary) (power : Int) : Gauge :=
  let quarter := binary.exponent - 2
  { up := Nat.pow 2 quarter.toNat * Nat.pow 10 (-power).toNat
    down := Nat.pow 2 (-quarter).toNat * Nat.pow 10 power.toNat }

namespace Binary

/-- Four times the significand, with room for the ends of the interval. -/
def middle (binary : Binary) : Nat := 4 * binary.significand

/-- The lower end of the interval. Below a power of two the floats are twice as dense. -/
def lower (binary : Binary) : Nat :=
  if binary.significand = leastFull ∧ leastExponent < binary.exponent then binary.middle - 1
  else binary.middle - 2

/-- The upper end of the interval. -/
def upper (binary : Binary) : Nat := binary.middle + 2

/-- Whether a point of the grid is rounded to the number. The ends of the interval are, if
the significand is even. -/
def covers (binary : Binary) (gauge : Gauge) (point : Nat) : Bool :=
  if binary.significand % 2 = 0 then
    binary.lower * gauge.up ≤ point * gauge.down && point * gauge.down ≤ binary.upper * gauge.up
  else
    binary.lower * gauge.up < point * gauge.down && point * gauge.down < binary.upper * gauge.up

/-- The point of a grid that is nearest to the number, of those that are rounded to it.
Only the two neighbours of the number on the grid come into question. -/
def nearest? (binary : Binary) (gauge : Gauge) : Option Nat :=
  let below := binary.middle * gauge.up / gauge.down
  match binary.covers gauge below, binary.covers gauge (below + 1) with
  | true, true =>
    let twice := 2 * (binary.middle * gauge.up)
    let half := (2 * below + 1) * gauge.down
    if twice < half ∨ (twice = half ∧ below % 2 = 0) then some below else some (below + 1)
  | true, false => some below
  | false, true => some (below + 1)
  | false, false => none

/-- The powers of ten whose grids are tried, coarse before fine. -/
def powers : List Int := (List.range 660).map fun (step : Nat) => 309 - (step : Int)

/-- The decimal with the fewest digits that is rounded to the number. -/
def shortest (binary : Binary) : Digits :=
  let found := powers.findSome? fun power =>
    (binary.nearest? (binary.gauge power)).map fun point => ⟨point, power⟩
  found.getD ⟨0, 0⟩

end Binary

end ComponentNaming.Decimal
