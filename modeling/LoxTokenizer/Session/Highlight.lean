import LoxTokenizer.Scan.Basic
import LoxTokenizer.Style
import LoxTokenizer.Text.WhiteSpace

namespace LoxTokenizer
namespace Session

/-!
Source text in colour.  Tokens are coloured by their group; the text between two tokens is kept as
it is, except that it is shown in faint print from its first pair of slashes on.  That text is cut
out of the source by the spans of the tokens.  The end of input has a span of its own, so a string
that is left open is part of the last gap.
-/

/-- The text of a token in the style of its group. -/
def tokenInColor (tag : Token.Tag) (text : String) : String :=
  match tag with
  | .string => colored .green text
  | .number => colored .yellow text
  | .identifier | .endOfInput => text
  | .keyword .trueWord | .keyword .falseWord | .keyword .nilWord => colored .blue text
  | .keyword _ => boldColored .magenta text
  | .punctuator mark =>
      if mark.isOpening || mark.isClosing then colored .yellow text else colored .cyan text

/-- Divides a text in front of its first pair of slashes. -/
def splitAtSlashes : List Char → List Char × List Char
  | '/' :: '/' :: rest => ([], '/' :: '/' :: rest)
  | [] => ([], [])
  | char :: rest =>
      let (plain, slashed) := splitAtSlashes rest
      (char :: plain, slashed)

def gapInColor (gap : List Char) : String :=
  match splitAtSlashes gap with
  | (plain, []) => String.ofList plain
  | (plain, slashed) => String.ofList plain ++ dimmed (String.ofList slashed)

/-- The text between two byte offsets of a source.  The cut always exists between two tokens of a
scan. -/
def gapBetween (source : List Char) (start stop : Nat) : List Char :=
  (Text.betweenBytes? start stop source).getD []

/-- Tokens in colour, each behind the text that divides it from the one before.  The first of them is
divided from an offset of the source. -/
def tokensInColor (source : List Char) (last : Nat) : List Token → String
  | [] => ""
  | token :: later =>
      let gap := gapInColor (gapBetween source last token.span.start)
      if token.isEndOfInput then gap
      else
        gap ++ tokenInColor token.kind.tag token.lexeme ++
          tokensInColor source token.span.stop later

def highlightSource (source : String) : String :=
  tokensInColor source.toList 0 (scan source).tokens

/-- A line as it is shown while being entered: commands in one colour, anything else as source. -/
def highlightLine (line : String) : String :=
  if (Text.trimStart line.toList).head? = some '.' then colored .magenta line
  else highlightSource line

/-- Dividing a text loses nothing. -/
theorem splitAtSlashes_append (text : List Char) :
    (splitAtSlashes text).1 ++ (splitAtSlashes text).2 = text := by
  fun_induction splitAtSlashes text with
  | case1 => rfl
  | case2 => rfl
  | case3 char rest notSlashes plain slashed parts ih =>
      rw [parts] at ih
      simp [ih]

end Session
end LoxTokenizer
