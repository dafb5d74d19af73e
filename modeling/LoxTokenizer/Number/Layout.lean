import LoxTokenizer.Number.Decimal

namespace LoxTokenizer
namespace Number

/-!
How a double is written.  A `Layout` holds the decisions of one notation: how ties between two
shortest decimals fall, whether whole numbers show every digit, and where the positional form ends
and the scientific one begins.  The digits themselves come from `Decimal.shortest`.
-/

/-- The digits `0.d₁d₂d₃… * 10 ^ point`, without zeros at their end. -/
structure Expansion where
  digits : List Char
  point : Int

/-- The decisions of one way to write numbers. -/
structure Layout where
  /-- Where a tie between two shortest decimals falls. -/
  tie : Tie
  /-- Whole numbers are written with all their digits, not only the shortest ones. -/
  wholeInFull : Bool
  /-- The positions of the decimal point that are written out without an exponent. -/
  positional : Int → Bool

namespace Expansion

/-- The digits of a decimal and the place of its point. -/
def ofDecimal (x : Decimal) : Expansion :=
  let digits := Nat.toDigits 10 x.coefficient
  { digits := (digits.reverse.dropWhile (· == '0')).reverse
    point := digits.length + x.exponent }

/-- The digits in their places, with at least one on either side of the point. -/
def positional (x : Expansion) : List Char :=
  if x.point ≤ 0 then
    '0' :: '.' :: (List.replicate (-x.point).toNat '0' ++ x.digits)
  else
    let whole := x.point.toNat
    let fraction := x.digits.drop whole
    x.digits.take whole ++ List.replicate (whole - x.digits.length) '0' ++
      '.' :: (if fraction.isEmpty then ['0'] else fraction)

/-- One digit before the point, the others after it, and a signed exponent. -/
def scientific (x : Expansion) : List Char :=
  let exponent := x.point - 1
  let sign := if exponent < 0 then '-' else '+'
  let fraction := x.digits.drop 1
  x.digits.take 1 ++ (if fraction.isEmpty then [] else '.' :: fraction) ++
    'e' :: sign :: Nat.toDigits 10 exponent.natAbs

end Expansion

namespace Layout

/-- The text of a finite magnitude. -/
def magnitudeText (layout : Layout) (magnitude : Nat) : List Char :=
  if magnitude = 0 then ['0', '.', '0']
  else if layout.wholeInFull && quanta magnitude % quantaPerOne == 0 then
    Nat.toDigits 10 (quanta magnitude / quantaPerOne) ++ ['.', '0']
  else
    let expansion := Expansion.ofDecimal (Decimal.shortest layout.tie magnitude)
    if layout.positional expansion.point then expansion.positional else expansion.scientific

/-- The text of a finite double, a minus sign in front of negative ones and of negative zero. -/
def finiteText (layout : Layout) (x : Double) : String :=
  String.ofList ((if x.negative then ['-'] else []) ++ layout.magnitudeText x.magnitude)

end Layout

end Number
end LoxTokenizer
