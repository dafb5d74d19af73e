import LoxTokenizer.Token.Kind

namespace LoxTokenizer
namespace Scan

/-!
What a single character of source text can begin or go on with.  Letters and digits are those of
ASCII; any other character is met only inside strings and comments, or makes no token.
-/

/-- The blanks between tokens. -/
def isBlank (char : Char) : Bool :=
  char == ' ' || char == '\r' || char == '\t' || char == '\n'

/-- The letters and the underscore, which names start with. -/
def isNameStart (char : Char) : Bool := char.isAlpha || char == '_'

/-- The characters that names go on with. -/
def isNamePart (char : Char) : Bool := isNameStart char || char.isDigit

/-- The marks that stand alone whatever follows. -/
def soleMark? : Char → Option Token.Punctuator
  | '(' => some .leftParen
  | ')' => some .rightParen
  | '{' => some .leftBrace
  | '}' => some .rightBrace
  | ',' => some .comma
  | '.' => some .dot
  | '-' => some .minus
  | '+' => some .plus
  | ';' => some .semicolon
  | '*' => some .star
  | _ => none

/-- The marks that an equals sign extends, as they are without and with it. -/
def equalMarks? : Char → Option (Token.Punctuator × Token.Punctuator)
  | '!' => some (.bang, .bangEqual)
  | '=' => some (.equal, .equalEqual)
  | '<' => some (.less, .lessEqual)
  | '>' => some (.greater, .greaterEqual)
  | _ => none

end Scan
end LoxTokenizer
