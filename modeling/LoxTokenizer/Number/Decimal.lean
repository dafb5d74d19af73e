import LoxTokenizer.Number.Double

namespace LoxTokenizer
namespace Number

/-!
Decimal numbers, and the shortest decimal that reads back to a given double.

The search knows nothing of intervals: a decimal is accepted when reading it gives the double
again.  With one digit, then two, and so on, the two neighbours of the value on that decimal grid
are tried; the first grid with an accepted neighbour decides, and of two accepted neighbours the
nearer is taken.  How a tie between them falls is left to the caller, because notations differ
in it.
-/

-- Powers of natural numbers are those of the core library, whatever else is imported.
attribute [local instance (high)] instPowNat

/-- The number `coefficient * 10 ^ exponent`. -/
structure Decimal where
  coefficient : Nat
  exponent : Int
  deriving DecidableEq

/-- Which neighbour is taken when a value lies halfway between the two. -/
inductive Tie where
  | upward
  | toEven
  deriving DecidableEq

namespace Decimal

def magnitude (x : Decimal) : Nat :=
  match x.exponent with
  | .ofNat exponent => nearestMagnitude (x.coefficient * 10 ^ exponent) 1
  | .negSucc exponent => nearestMagnitude x.coefficient (10 ^ (exponent + 1))

theorem magnitude_le_infinity (x : Decimal) : x.magnitude ≤ infinityMagnitude := by
  rw [magnitude]
  split
  · exact nearestMagnitude_le_infinity _ _
  · exact nearestMagnitude_le_infinity _ _

/-- The double nearest to a decimal or, with a sign, to its negative. -/
def toDouble (negative : Bool) (x : Decimal) : Double where
  negative := negative
  magnitude := x.magnitude
  magnitude_lt := Nat.lt_of_le_of_lt x.magnitude_le_infinity infinityMagnitude_lt

/-- A finite magnitude counted in steps of `10 ^ exponent`, as numerator and denominator. -/
def stepsOf (magnitude : Nat) : Int → Nat × Nat
  | .ofNat exponent => (quanta magnitude, quantaPerOne * 10 ^ exponent)
  | .negSucc exponent => (quanta magnitude * 10 ^ (exponent + 1), quantaPerOne)

/-- The exponent of the leading digit.  Three hundred and twenty-four places suffice to lift
every positive double to at least one, and cutting off the rest keeps the leading digit. -/
def leadingExponent (magnitude : Nat) : Int :=
  let lifted := quanta magnitude * 10 ^ (324 : Nat) / quantaPerOne
  (Nat.toDigits 10 lifted).length - 325

/-- Whether a value of `numerator / denominator` steps is to be taken for the next whole step
above rather than for the one below. -/
def roundsUp (tie : Tie) (numerator denominator : Nat) : Bool :=
  let twice := 2 * (numerator % denominator)
  denominator < twice ||
    (denominator == twice &&
      match tie with
      | .upward => true
      | .toEven => numerator / denominator % 2 == 1)

/-- The two neighbours of a finite magnitude on the grid of `10 ^ exponent`, the better first. -/
def neighbours (tie : Tie) (magnitude : Nat) (exponent : Int) : List Decimal :=
  let (numerator, denominator) := stepsOf magnitude exponent
  let lower : Decimal := ⟨numerator / denominator, exponent⟩
  let upper : Decimal := ⟨numerator / denominator + 1, exponent⟩
  if roundsUp tie numerator denominator then [upper, lower] else [lower, upper]

/-- The better of the two neighbours that read back, if either does. -/
def neighbour? (tie : Tie) (magnitude : Nat) (exponent : Int) : Option Decimal :=
  (neighbours tie magnitude exponent).find? fun x => x.magnitude == magnitude

/-- All the digits of a finite magnitude. -/
def exact (magnitude : Nat) : Decimal := ⟨quanta magnitude * 5 ^ (1074 : Nat), -1074⟩

/-- The shortest decimal that reads back to a finite magnitude.  Seventeen digits are always
enough, so the exact expansion behind them is never needed. -/
def shortest (tie : Tie) (magnitude : Nat) : Decimal :=
  let leading := leadingExponent magnitude
  ((List.range 17).findSome? fun (places : Nat) =>
    neighbour? tie magnitude (leading - (places : Int))).getD (exact magnitude)

/-- A neighbour is only ever offered when it reads back. -/
theorem magnitude_of_neighbour? {tie : Tie} {magnitude : Nat} {exponent : Int} {x : Decimal}
    (offered : neighbour? tie magnitude exponent = some x) : x.magnitude = magnitude := by
  have readsBack : (x.magnitude == magnitude) = true := by
    simpa [neighbour?] using List.find?_some offered
  exact eq_of_beq readsBack

end Decimal

end Number
end LoxTokenizer
