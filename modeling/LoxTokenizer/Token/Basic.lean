import LoxTokenizer.Number.Layout
import LoxTokenizer.Token.Kind

namespace LoxTokenizer

/-!
Tokens: a kind, the text it was recognised from, the line of its first character and the bytes it
spans.  A token writes itself as `LABEL lexeme literal`.
-/

/-- A range of bytes, from `start` up to but not including `stop`. -/
structure Span where
  start : Nat
  stop : Nat
  deriving DecidableEq

namespace Span

/-- The number of bytes spanned.  A span that runs backwards has no length. -/
def length? (span : Span) : Option Nat :=
  if span.start ≤ span.stop then some (span.stop - span.start) else none

def isEmpty (span : Span) : Bool := span.start == span.stop

end Span

structure Token where
  kind : Token.Kind
  lexeme : String
  line : Nat
  span : Span
  deriving DecidableEq

/-- The decoded value that a token may carry. -/
inductive Literal where
  | string (text : String)
  | number (value : Number.Double)
  deriving DecidableEq

namespace Literal

/-- Numbers in listings: every digit of a whole number and one zero behind the point, otherwise
the fewest digits that read back, and never an exponent. -/
def layout : Number.Layout where
  tie := .upward
  wholeInFull := true
  positional := fun _ => true

/-- The text of a decoded value, strings without quotes. -/
def display : Literal → String
  | .string text => text
  | .number value =>
      if value.isNaN then "NaN"
      else if value.isFinite then layout.finiteText value
      else if value.negative then "-inf" else "inf"

/-- Equality of decoded values, numbers compared as numbers. -/
def sameValue : Literal → Literal → Bool
  | .number x, .number y => x.sameNumber y
  | first, second => first == second

end Literal

namespace Token

/-- The token that ends every token list. -/
def endOfInput (line offset : Nat) : Token where
  kind := .endOfInput
  lexeme := ""
  line := line
  span := ⟨offset, offset⟩

def isEndOfInput (token : Token) : Bool := token.kind == .endOfInput

/-- The decoded value of a string or a number. -/
def literal? (token : Token) : Option Literal :=
  match token.kind with
  | .string text => some (.string text)
  | .number value => some (.number value)
  | _ => none

/-- A token as `LABEL lexeme literal`, with `null` where there is no literal. -/
def display (token : Token) : String :=
  token.kind.tag.label ++ " " ++ token.lexeme ++ " " ++
    (token.literal?.map Literal.display).getD "null"

/-- Equality of tokens, number values compared as numbers. -/
def sameToken (first second : Token) : Bool :=
  first.kind.sameKind second.kind && first.lexeme == second.lexeme &&
    first.line == second.line && first.span == second.span

/-- Equality of the decoded values of two tokens; two tokens without one agree. -/
def sameLiteral (first second : Token) : Bool :=
  match first.literal?, second.literal? with
  | none, none => true
  | some x, some y => x.sameValue y
  | _, _ => false

end Token

end LoxTokenizer
