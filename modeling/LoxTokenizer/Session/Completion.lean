import LoxTokenizer.Session.Command
import LoxTokenizer.Style
import LoxTokenizer.Text.Bytes
import LoxTokenizer.Token.Keyword

namespace LoxTokenizer
namespace Session

/-!
Completing words while a line is being entered.  The word at a place of the line is the run of
letters, digits, underscores and dots right before it; it is completed from the reserved words
and the session's commands.
-/

/-- The characters that words are made of. -/
def isWordPart (char : Char) : Bool := char.isAlphanum || char == '_' || char == '.'

/-- The words that can be completed, in the order they are offered. -/
def completionWords : List String :=
  Token.Keyword.table.toList.map Prod.fst ++ Command.completions

def wordAtEnd (text : List Char) : List Char := (text.reverse.takeWhile isWordPart).reverse

/-- A word that is offered, and what of it is still missing. -/
structure Completion where
  word : String
  missing : String
  deriving DecidableEq

/-- Everything that a word may be completed to; an empty word to nothing. -/
def completionsOf (word : List Char) : List Completion :=
  if word.isEmpty then []
  else
    (completionWords.filter fun known => word.isPrefixOf known.toList).map fun known =>
      ⟨known, String.ofList (known.toList.drop word.length)⟩

/-- The rest of the first known word that is longer than a given word of at least two characters
and starts with it. -/
def missingPart? (word : List Char) : Option String :=
  if word.length < 2 then none
  else
    (completionWords.find? fun known =>
        word.isPrefixOf known.toList && word.length < known.toList.length).map fun known =>
      String.ofList (known.toList.drop word.length)

/-- What an editor learns about one place of a line. -/
structure WordAid where
  /-- The byte where the word before the place starts. -/
  wordStart : Nat
  completions : List Completion
  /-- Only at the end of the line: the missing part of a word, in faint print. -/
  hint : Option String

/-- The aid for a place given in bytes.  Past the end of the line and inside of a character there
is no such place. -/
def wordAid? (line : String) (position : Nat) : Option WordAid :=
  (Text.splitAtByte? position line.toList).map fun (before, after) =>
    let word := wordAtEnd before
    { wordStart := position - Text.byteLength word
      completions := completionsOf word
      hint := if after.isEmpty then (missingPart? word).map dimmed else none }

end Session
end LoxTokenizer
