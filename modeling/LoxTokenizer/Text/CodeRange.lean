namespace LoxTokenizer
namespace Text

/-!
Sets of characters as ascending lists of ranges of code points, which is how Unicode publishes the
properties of characters.  That a list ascends is what makes one look at it enough: the first
range that does not end before a code point is the only one that can hold it.
-/

/-- An unbroken range of code points, both ends included. -/
structure CodeRange where
  first : Nat
  last : Nat
  deriving DecidableEq

namespace CodeRange

/-- Whether a code point lies in one of some ascending ranges. -/
def covers (ranges : List CodeRange) (code : Nat) : Bool :=
  match ranges.find? fun range => code ≤ range.last with
  | some range => range.first ≤ code
  | none => false

end CodeRange

end Text
end LoxTokenizer
