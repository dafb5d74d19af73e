import LoxTokenizer.Json
import LoxTokenizer.Style
import LoxTokenizer.Token.Basic

namespace LoxTokenizer

/-!
Token dumps: a plain listing, a JSON array, and a listing in colour for reading on a terminal.
-/

inductive DumpFormat where
  | text
  | json
  deriving DecidableEq

namespace Token

/-- The data of a kind: its name, or an object that adds the decoded value to the name. -/
def Kind.toJson (kind : Kind) : Json :=
  match kind with
  | .string text => .object [(kind.tag.name, .string text)]
  | .number value => .object [(kind.tag.name, .double value)]
  | _ => .string kind.tag.name

def toJson (token : Token) : Json :=
  .object
    [("kind", token.kind.toJson),
      ("lexeme", .string token.lexeme),
      ("line", .natural token.line),
      ("span", .object [("start", .natural token.span.start), ("end", .natural token.span.stop)])]

/-- The label of a tag in the colour of its group. -/
def Tag.coloredLabel (tag : Tag) : String :=
  match tag with
  | .string => colored .green tag.label
  | .number => colored .yellow tag.label
  | .identifier => colored .white tag.label
  | .endOfInput => dimmed tag.label
  | .keyword _ => boldColored .magenta tag.label
  | .punctuator _ => colored .cyan tag.label

/-- A token as `LABEL lexeme literal`, the label and the literal in colour. -/
def coloredDisplay (token : Token) : String :=
  token.kind.tag.coloredLabel ++ " " ++ token.lexeme ++ " " ++
    match token.literal? with
    | some literal => colored .brightYellow literal.display
    | none => dimmed "null"

end Token

namespace Dump

/-- Lines with a line feed between each two of them. -/
def joinLines : List String → String
  | [] => ""
  | [line] => line
  | line :: rest => line ++ "\n" ++ joinLines rest

/-- Lines with a line feed behind each of them. -/
def endLines : List String → String
  | [] => ""
  | line :: rest => line ++ "\n" ++ endLines rest

def data (tokens : List Token) : Json := .array (tokens.map Token.toJson)

def render (tokens : List Token) : DumpFormat → String
  | .text => joinLines (tokens.map Token.display)
  | .json => (data tokens).pretty

/-- The dump of a token list for reading on a terminal, every line ended. -/
def renderColored (tokens : List Token) : DumpFormat → String
  | .text => endLines (tokens.map Token.coloredDisplay)
  | .json => render tokens .json ++ "\n"

/-- A list that is not empty is joined and then ended as it is when each line is ended. -/
theorem joinLines_append_lineFeed (line : String) (rest : List String) :
    joinLines (line :: rest) ++ "\n" = endLines (line :: rest) := by
  induction rest generalizing line with
  | nil => simp [joinLines, endLines]
  | cons next rest ih =>
      have later := ih next
      simp only [joinLines, endLines, String.append_assoc] at later ⊢
      rw [later]

end Dump

end LoxTokenizer
