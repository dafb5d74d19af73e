import LoxTokenizer.Number.Double

namespace LoxTokenizer
namespace Number

/-!
Unsigned decimal numerals, `digits` or `digits.digits`, and the doubles they stand for.
-/

-- Powers of natural numbers are those of the core library, whatever else is imported.
attribute [local instance (high)] instPowNat

/-- The number that a run of decimal digits spells. -/
def digitsValue (digits : List Char) : Nat :=
  digits.foldl (fun value digit => 10 * value + (digit.toNat - '0'.toNat)) 0

/-- The double nearest to the number that a numeral spells: its digits without the point, over
ten for every digit behind the point. -/
def numeralValue (numeral : List Char) : Double :=
  let whole := numeral.takeWhile (· != '.')
  let fraction := (numeral.dropWhile (· != '.')).drop 1
  Double.ofRatio (digitsValue (whole ++ fraction)) (10 ^ fraction.length)

/-- No numeral spells "not a number". -/
theorem isNaN_numeralValue (numeral : List Char) : (numeralValue numeral).isNaN = false :=
  Double.isNaN_ofRatio _ _

/-- No numeral spells a negative number, nor a negative zero. -/
theorem negative_numeralValue (numeral : List Char) : (numeralValue numeral).negative = false :=
  rfl

end Number
end LoxTokenizer
