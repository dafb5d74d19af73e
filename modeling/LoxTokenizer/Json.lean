import LoxTokenizer.Number.Layout

namespace LoxTokenizer

/-!
JSON texts of values: on one line, or spread over indented lines.  Objects keep their fields in
the order given.  Reading and writing of characters is done on lists; only whole texts are strings.
-/

inductive Json where
  | null
  | natural (value : Nat)
  | double (value : Number.Double)
  | string (text : String)
  | array (items : List Json)
  | object (fields : List (String × Json))

namespace Json

/-- Numbers in JSON: the fewest digits that read back, written in full from `0.00001` up to, but
not including, `10 ^ 16`, and with an exponent outside of that. -/
def layout : Number.Layout where
  tie := .toEven
  wholeInFull := false
  positional := fun point => -5 < point && point ≤ 16

/-- The text of a number.  JSON has no word for the numbers that are not finite. -/
def numberText (value : Number.Double) : List Char :=
  if value.isFinite then (layout.finiteText value).toList else "null".toList

def hexDigit (value : Nat) : Char := Nat.digitChar value

/-- How a character is written inside quotes: quotes, backslashes and control characters are
escaped, the usual control characters by letters of their own. -/
def escape (char : Char) : List Char :=
  match char with
  | '"' => ['\\', '"']
  | '\\' => ['\\', '\\']
  | '\n' => ['\\', 'n']
  | '\r' => ['\\', 'r']
  | '\t' => ['\\', 't']
  | '\x08' => ['\\', 'b']
  | '\x0c' => ['\\', 'f']
  | _ =>
      if char.toNat < 32 then
        ['\\', 'u', '0', '0', hexDigit (char.toNat / 16), hexDigit (char.toNat % 16)]
      else [char]

/-- A text in quotes. -/
def quoted (text : String) : List Char :=
  '"' :: (text.toList.flatMap escape ++ ['"'])

/-- Parts with a separator between each two of them. -/
def separated (separator : List Char) : List (List Char) → List Char
  | [] => []
  | [part] => part
  | part :: rest => part ++ separator ++ separated separator rest

mutual

def compactText : Json → List Char
  | .null => "null".toList
  | .natural value => Nat.toDigits 10 value
  | .double value => numberText value
  | .string text => quoted text
  | .array items => '[' :: (separated [','] (compactItems items) ++ [']'])
  | .object fields => '{' :: (separated [','] (compactFields fields) ++ ['}'])

def compactItems : List Json → List (List Char)
  | [] => []
  | item :: rest => compactText item :: compactItems rest

def compactFields : List (String × Json) → List (List Char)
  | [] => []
  | (name, value) :: rest => (quoted name ++ ':' :: compactText value) :: compactFields rest

end

/-- A line break, and two spaces for every level of depth. -/
def lineBreak (depth : Nat) : List Char := '\n' :: List.replicate (2 * depth) ' '

/-- Parts between brackets, each on a line of its own one level deeper than the brackets. -/
def bracketed (opening closing : Char) (depth : Nat) (parts : List (List Char)) : List Char :=
  if parts.isEmpty then [opening, closing]
  else
    opening :: (lineBreak (depth + 1) ++
      separated (',' :: lineBreak (depth + 1)) parts ++ lineBreak depth ++ [closing])

mutual

/-- The characters of a value over several lines, its first line standing at some depth. -/
def prettyText (depth : Nat) : Json → List Char
  | .array items => bracketed '[' ']' depth (prettyItems (depth + 1) items)
  | .object fields => bracketed '{' '}' depth (prettyFields (depth + 1) fields)
  | .null => "null".toList
  | .natural value => Nat.toDigits 10 value
  | .double value => numberText value
  | .string text => quoted text

def prettyItems (depth : Nat) : List Json → List (List Char)
  | [] => []
  | item :: rest => prettyText depth item :: prettyItems depth rest

def prettyFields (depth : Nat) : List (String × Json) → List (List Char)
  | [] => []
  | (name, value) :: rest =>
      (quoted name ++ ':' :: ' ' :: prettyText depth value) :: prettyFields depth rest

end

def compact (value : Json) : String := String.ofList (compactText value)

def pretty (value : Json) : String := String.ofList (prettyText 0 value)

end Json

end LoxTokenizer
