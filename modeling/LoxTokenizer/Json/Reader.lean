import LoxTokenizer.Json
import LoxTokenizer.Number.Numeral

namespace LoxTokenizer
namespace Json

/-!
Reading JSON text, one lexeme after another.  A machine takes a step for each of them; it knows what
may come next and which arrays and objects are open around the place reached.

What the grammar of JSON allows is read, with three exceptions: there is no place here for truth
values, a character is not put together from two escapes, and a number too large for a double is
refused.
-/

/-! ## Strings -/

def hexValue? (char : Char) : Option Nat :=
  if char.isDigit then some (char.toNat - '0'.toNat)
  else if 'a' ≤ char ∧ char ≤ 'f' then some (char.toNat - 'a'.toNat + 10)
  else if 'A' ≤ char ∧ char ≤ 'F' then some (char.toNat - 'A'.toNat + 10)
  else none

/-- The character whose code some hexadecimal digits spell. -/
def codedChar? (digits : List Char) : Option Char := do
  let code ← digits.foldlM (fun code digit => (hexValue? digit).map (16 * code + ·)) 0
  if code.isValidChar then some (Char.ofNat code) else none

/-- The character that a letter behind a backslash stands for. -/
def namedChar? : Char → Option Char
  | '"' => some '"'
  | '\\' => some '\\'
  | '/' => some '/'
  | 'b' => some '\x08'
  | 'f' => some '\x0c'
  | 'n' => some '\n'
  | 'r' => some '\r'
  | 't' => some '\t'
  | _ => none

/-- A character put in front of what has been read behind it. -/
def withChar (char : Char) (later : Option (List Char × List Char)) :
    Option (List Char × List Char) :=
  later.map fun (content, behind) => (char :: content, behind)

/-- The content of a string and the text behind its closing quote. -/
def inside? : List Char → Option (List Char × List Char)
  | [] => none
  | '"' :: rest => some ([], rest)
  | '\\' :: 'u' :: a :: b :: c :: d :: rest =>
      (codedChar? [a, b, c, d]).bind fun char => withChar char (inside? rest)
  | '\\' :: name :: rest => (namedChar? name).bind fun char => withChar char (inside? rest)
  | char :: rest => if char.toNat < 32 then none else withChar char (inside? rest)

/-! ## Numbers -/

/-- The digits of an unsigned number and its exponent, if it has one. -/
structure NumberParts where
  whole : List Char
  places : List Char
  exponent? : Option Int

/-- Digits without a needless zero in front. -/
def isWholePart (digits : List Char) : Bool :=
  digits == ['0'] || digits.head?.any (· != '0')

/-- The digits behind a point, if there is one, and what follows them. -/
def places? : List Char → Option (List Char × List Char)
  | '.' :: rest =>
      if (rest.takeWhile Char.isDigit).isEmpty then none
      else some (rest.takeWhile Char.isDigit, rest.dropWhile Char.isDigit)
  | rest => some ([], rest)

def digits? (text : List Char) : Option Nat :=
  if text.isEmpty || !text.all Char.isDigit then none else some (Number.digitsValue text)

/-- A whole number that may have a sign. -/
def signed? : List Char → Option Int
  | '-' :: text => (digits? text).map fun (value : Nat) => -(value : Int)
  | '+' :: text => (digits? text).map fun (value : Nat) => (value : Int)
  | text => (digits? text).map fun (value : Nat) => (value : Int)

/-- The exponent that a text consists of, if it consists of anything. -/
def exponent? : List Char → Option (Option Int)
  | [] => some none
  | 'e' :: rest => (signed? rest).map some
  | 'E' :: rest => (signed? rest).map some
  | _ => none

def numberParts? (text : List Char) : Option NumberParts := do
  let whole := text.takeWhile Char.isDigit
  if isWholePart whole then
    let (places, rest) ← places? (text.dropWhile Char.isDigit)
    let exponent ← exponent? rest
    some ⟨whole, places, exponent⟩
  else none

namespace NumberParts

def decimal (parts : NumberParts) : Number.Decimal where
  coefficient := Number.digitsValue (parts.whole ++ parts.places)
  exponent := parts.exponent?.getD 0 - parts.places.length

/-- The value of a number.  It is natural when there is neither a sign nor a point nor an exponent. -/
def value? (negative : Bool) (parts : NumberParts) : Option Json :=
  if negative || !parts.places.isEmpty || parts.exponent?.isSome then
    if (parts.decimal.toDouble negative).isFinite then
      some (.double (parts.decimal.toDouble negative))
    else none
  else some (.natural (Number.digitsValue parts.whole))

end NumberParts

def number? : List Char → Option Json
  | '-' :: text => (numberParts? text).bind (NumberParts.value? true)
  | text => (numberParts? text).bind (NumberParts.value? false)

/-! ## Lexemes -/

inductive Lexeme where
  | openArray
  | closeArray
  | openObject
  | closeObject
  | comma
  | colon
  | text (content : String)
  /-- A value that is neither a text nor holds other values. -/
  | plain (value : Json)

def isNumberPart (char : Char) : Bool := char.isDigit || char ∈ ['+', '-', '.', 'e', 'E']

def isBlank (char : Char) : Bool := char ∈ [' ', '\t', '\r', '\n']

/-- The number that a text starts with: all that can be part of one has to be. -/
def numberLexeme? (text : List Char) : Option (Lexeme × List Char) :=
  (number? (text.takeWhile isNumberPart)).map fun value =>
    (.plain value, text.dropWhile isNumberPart)

/-- The lexeme that a text starts with, and the text behind it. -/
def lexeme? : List Char → Option (Lexeme × List Char)
  | '[' :: rest => some (.openArray, rest)
  | ']' :: rest => some (.closeArray, rest)
  | '\x7b' :: rest => some (.openObject, rest)
  | '\x7d' :: rest => some (.closeObject, rest)
  | ',' :: rest => some (.comma, rest)
  | ':' :: rest => some (.colon, rest)
  | '"' :: rest => (inside? rest).map fun (content, behind) =>
      (.text (String.ofList content), behind)
  | 'n' :: 'u' :: 'l' :: 'l' :: rest => some (.plain .null, rest)
  | text => numberLexeme? text

/-! A lexeme takes something off the text. -/

theorem exists_of_withChar {char : Char} {later : Option (List Char × List Char)}
    {content behind : List Char} (found : withChar char later = some (content, behind)) :
    ∃ inner, later = some (inner, behind) := by
  simp only [withChar, Option.map_eq_some_iff] at found
  rcases found with ⟨⟨inner, stop⟩, isLater, same⟩
  cases same
  exact ⟨inner, isLater⟩

theorem length_inside?_lt {text content behind : List Char}
    (found : inside? text = some (content, behind)) : behind.length < text.length := by
  fun_induction inside? text generalizing content behind with
  | case1 => cases found
  | case2 rest =>
      cases found
      exact Nat.lt_succ_self _
  | case3 a b c d rest ih =>
      rcases Option.bind_eq_some_iff.mp found with ⟨char, _, read⟩
      rcases exists_of_withChar read with ⟨inner, later⟩
      exact Nat.lt_of_lt_of_le (ih later) (by simp only [List.length_cons]; omega)
  | case4 name rest _ ih =>
      rcases Option.bind_eq_some_iff.mp found with ⟨char, _, read⟩
      rcases exists_of_withChar read with ⟨inner, later⟩
      exact Nat.lt_of_lt_of_le (ih later) (by simp only [List.length_cons]; omega)
  | case5 char rest => cases found
  | case6 char rest _ _ _ _ ih =>
      rcases exists_of_withChar found with ⟨inner, later⟩
      exact Nat.lt_succ_of_lt (ih later)

theorem length_numberLexeme?_lt {text behind : List Char} {lexeme : Lexeme}
    (found : numberLexeme? text = some (lexeme, behind)) : behind.length < text.length := by
  simp only [numberLexeme?, Option.map_eq_some_iff] at found
  rcases found with ⟨value, read, same⟩
  cases same
  have divided := congrArg List.length
    (List.takeWhile_append_dropWhile (p := isNumberPart) (l := text))
  rw [List.length_append] at divided
  cases digits : text.takeWhile isNumberPart with
  | nil =>
      rw [digits] at read
      cases read
  | cons first more =>
      rw [digits, List.length_cons] at divided
      omega

theorem length_lexeme?_lt {text behind : List Char} {lexeme : Lexeme}
    (found : lexeme? text = some (lexeme, behind)) : behind.length < text.length := by
  unfold lexeme? at found
  split at found
  iterate 6
    · cases found
      exact Nat.lt_succ_self _
  · simp only [Option.map_eq_some_iff] at found
    rcases found with ⟨⟨content, stop⟩, read, same⟩
    cases same
    exact Nat.lt_succ_of_lt (length_inside?_lt read)
  · cases found
    simp only [List.length_cons]
    omega
  · exact length_numberLexeme?_lt found

/-! ## The machine -/

/-- What is open around a value: an array with the items in front of the value, or an object with the
fields in front and the name of the present one.  What comes last is first. -/
inductive Frame where
  | array (items : List Json)
  | object (fields : List (String × Json)) (name : String)

/-- The place that has been reached. -/
inductive State where
  | beforeValue (around : List Frame)
  /-- In front of the name of a field. -/
  | beforeName (fields : List (String × Json)) (around : List Frame)
  | behindName (fields : List (String × Json)) (name : String) (around : List Frame)
  | behindValue (value : Json) (around : List Frame)

namespace State

def step? : State → Lexeme → Option State
  | .beforeValue around, .text content => some (.behindValue (.string content) around)
  | .beforeValue around, .plain value => some (.behindValue value around)
  | .beforeValue around, .openArray => some (.beforeValue (.array [] :: around))
  | .beforeValue (.array [] :: around), .closeArray => some (.behindValue (.array []) around)
  | .beforeValue around, .openObject => some (.beforeName [] around)
  | .beforeName [] around, .closeObject => some (.behindValue (.object []) around)
  | .beforeName fields around, .text name => some (.behindName fields name around)
  | .behindName fields name around, .colon => some (.beforeValue (.object fields name :: around))
  | .behindValue value (.array items :: around), .comma =>
      some (.beforeValue (.array (value :: items) :: around))
  | .behindValue value (.array items :: around), .closeArray =>
      some (.behindValue (.array (value :: items).reverse) around)
  | .behindValue value (.object fields name :: around), .comma =>
      some (.beforeName ((name, value) :: fields) around)
  | .behindValue value (.object fields name :: around), .closeObject =>
      some (.behindValue (.object ((name, value) :: fields).reverse) around)
  | _, _ => none

/-- The value read, when nothing is open any more. -/
def finished? : State → Option Json
  | .behindValue value [] => some value
  | _ => none

end State

/-- Reads on from a place to the end of the text. -/
def readFrom (state : State) (text : List Char) : Option Json :=
  if (text.dropWhile isBlank).isEmpty then state.finished?
  else
    match _ : lexeme? (text.dropWhile isBlank) with
    | none => none
    | some (lexeme, behind) => (state.step? lexeme).bind fun next => readFrom next behind
termination_by text.length
decreasing_by
  exact Nat.lt_of_lt_of_le (length_lexeme?_lt ‹_›) (List.dropWhile_suffix _).length_le

/-- The value that a text stands for. -/
def read? (text : String) : Option Json := readFrom (.beforeValue []) text.toList

end Json
end LoxTokenizer
