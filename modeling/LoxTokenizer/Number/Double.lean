namespace LoxTokenizer
namespace Number

/-!
Double-precision numbers as IEEE 754 lays them out, held by their sign and the sixty-three bits
below it.  Every finite magnitude is a whole number of *quanta*, a quantum being `2 ^ (-1074)`,
the least positive double; so comparing, rounding and reading all happen in the natural numbers.

Rounding a ratio to a double and taking a double apart are kept apart from decimal notation,
which has modules of its own.
-/

-- Powers of natural numbers are those of the core library, whatever else is imported.
attribute [local instance (high)] instPowNat

/-- A double: its sign bit and the value of the other sixty-three bits. -/
structure Double where
  negative : Bool
  magnitude : Nat
  magnitude_lt : magnitude < 2 ^ (63 : Nat)
  deriving DecidableEq

/-- The divisor that turns quanta into ones. -/
def quantaPerOne : Nat := 2 ^ (1074 : Nat)

/-- The bits of infinity: the largest exponent field over an empty fraction. -/
def infinityMagnitude : Nat := 2047 * 2 ^ (52 : Nat)

/-- The whole number nearest to a quotient; of two equally near ones the even. -/
def roundHalfEven (numerator denominator : Nat) : Nat :=
  let quotient := numerator / denominator
  let twice := 2 * (numerator % denominator)
  if twice < denominator then quotient
  else if denominator < twice then quotient + 1
  else quotient + quotient % 2

/-- The magnitude nearest to `numerator / denominator`.

The ratio is measured in quanta.  Fifty-three significant bits are kept, or all of them when
there are fewer, and `scale` counts the bits dropped.  Because the exponent field stands right
above the fraction, a significand that rounds up to the next power of two carries into it, and
a ratio beyond every finite double runs into infinity. -/
def nearestMagnitude (numerator denominator : Nat) : Nat :=
  let scaled := numerator * quantaPerOne
  let scale := (scaled / denominator).log2 - 52
  min infinityMagnitude (scale * 2 ^ (52 : Nat) + roundHalfEven scaled (denominator * 2 ^ scale))

theorem infinityMagnitude_lt : infinityMagnitude < 2 ^ (63 : Nat) := by decide

theorem nearestMagnitude_le_infinity (numerator denominator : Nat) :
    nearestMagnitude numerator denominator ≤ infinityMagnitude :=
  Nat.min_le_left _ _

def exponentField (magnitude : Nat) : Nat := magnitude / 2 ^ (52 : Nat)

/-- The significand of a magnitude, its leading one included where it has one. -/
def significand (magnitude : Nat) : Nat :=
  if exponentField magnitude = 0 then magnitude % 2 ^ (52 : Nat)
  else 2 ^ (52 : Nat) + magnitude % 2 ^ (52 : Nat)

/-- How many quanta a finite magnitude amounts to. -/
def quanta (magnitude : Nat) : Nat :=
  significand magnitude * 2 ^ (exponentField magnitude - 1)

namespace Double

/-- The double written in a sixty-four bit word. -/
def ofWord (word : UInt64) : Double where
  negative := 2 ^ (63 : Nat) ≤ word.toNat
  magnitude := word.toNat % 2 ^ (63 : Nat)
  magnitude_lt := Nat.mod_lt _ (by decide)

/-- The sixty-four bit word that a double is written in, as a number. -/
def word (x : Double) : Nat :=
  (if x.negative then 2 ^ (63 : Nat) else 0) + x.magnitude

/-- The double nearest to a ratio, ties going to the even significand. -/
def ofRatio (numerator denominator : Nat) : Double where
  negative := false
  magnitude := nearestMagnitude numerator denominator
  magnitude_lt :=
    Nat.lt_of_le_of_lt (nearestMagnitude_le_infinity numerator denominator) infinityMagnitude_lt

/-- The infinite number that is not negative. -/
def infinity : Double where
  negative := false
  magnitude := infinityMagnitude
  magnitude_lt := infinityMagnitude_lt

/-- A pattern above infinity stands for no number. -/
def isNaN (x : Double) : Bool := infinityMagnitude < x.magnitude

/-- Neither an infinity nor "not a number". -/
def isFinite (x : Double) : Bool := x.magnitude < infinityMagnitude

/-- A finite double without a fractional part. -/
def isWhole (x : Double) : Bool := x.isFinite && quanta x.magnitude % quantaPerOne == 0

/-- Equality of numbers: "not a number" equals nothing, and the two zeros equal each other. -/
def sameNumber (x y : Double) : Bool :=
  !x.isNaN && !y.isNaN && (x == y || (x.magnitude == 0 && y.magnitude == 0))

/-- A rounded ratio is a number, though perhaps an infinite one. -/
theorem isNaN_ofRatio (numerator denominator : Nat) :
    (ofRatio numerator denominator).isNaN = false := by
  have bounded := nearestMagnitude_le_infinity numerator denominator
  simp [isNaN, ofRatio, Nat.not_lt.mpr bounded]

end Double

end Number
end LoxTokenizer
