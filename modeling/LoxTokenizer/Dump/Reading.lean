import LoxTokenizer.Dump
import LoxTokenizer.Json.Reader

namespace LoxTokenizer

/-!
Reading dumps: tokens from the data that stands for them, and token lists from JSON text.  JSON has no
word for infinity, so a number whose value is null is the infinite one.
-/

namespace Token

def Tag.ofName? (name : String) : Option Tag := all.find? fun tag => tag.name == name

/-- A tag is found by its name. -/
theorem Tag.ofName?_name (tag : Tag) : ofName? tag.name = some tag := by
  have every : ∀ tag ∈ all, ofName? tag.name = some tag := by
    decide
  exact every tag tag.mem_all

/-- The kind that a tag alone determines. -/
def Tag.kind? : Tag → Option Kind
  | .punctuator mark => some (.punctuator mark)
  | .keyword word => some (.keyword word)
  | .identifier => some .identifier
  | .string => none
  | .number => none
  | .endOfInput => some .endOfInput

/-- The kind that a tag and a value determine. -/
def Tag.kindWith? : Tag → Json → Option Kind
  | .string, .string text => some (.string text)
  | .number, .double value => some (.number value)
  | .number, .null => some (.number .infinity)
  | _, _ => none

def Kind.ofJson? : Json → Option Kind
  | .string name => (Tag.ofName? name).bind Tag.kind?
  | .object [(name, value)] => (Tag.ofName? name).bind fun tag => tag.kindWith? value
  | _ => none

def ofJson? : Json → Option Token
  | .object
      [("kind", kind), ("lexeme", .string lexeme), ("line", .natural line),
        ("span", .object [("start", .natural start), ("end", .natural stop)])] =>
      (Kind.ofJson? kind).map fun kind => ⟨kind, lexeme, line, ⟨start, stop⟩⟩
  | _ => none

end Token

namespace Dump

/-- The tokens in a JSON array. -/
def readTokens? (text : String) : Option (List Token) :=
  match Json.read? text with
  | some (.array items) => items.mapM Token.ofJson?
  | _ => none

end Dump

end LoxTokenizer
