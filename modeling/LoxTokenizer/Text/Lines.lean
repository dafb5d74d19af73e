namespace LoxTokenizer
namespace Text

/-!
Lines of a text together with what ends them, so that the text can be put together again from its
lines without loss.
-/

/-- What stands between a line and the next: nothing at the end of the text, a line feed, or a
carriage return and a line feed. -/
inductive LineEnd where
  | none
  | lineFeed
  | returnAndLineFeed
  deriving DecidableEq

def LineEnd.text : LineEnd → List Char
  | .none => []
  | .lineFeed => ['\n']
  | .returnAndLineFeed => ['\r', '\n']

/-- A line without its end, and the end. -/
structure Line where
  content : List Char
  ending : LineEnd
  deriving DecidableEq

namespace Line

def text (line : Line) : List Char := line.content ++ line.ending.text

/-- Takes the end off a line. -/
def ofText : List Char → Line
  | [] => ⟨[], .none⟩
  | ['\n'] => ⟨[], .lineFeed⟩
  | ['\r', '\n'] => ⟨[], .returnAndLineFeed⟩
  | char :: rest =>
      let line := ofText rest
      { line with content := char :: line.content }

/-- Nothing is lost when the end is taken off. -/
theorem text_ofText (text : List Char) : (ofText text).text = text := by
  fun_induction ofText text with
  | case1 => rfl
  | case2 => rfl
  | case3 => rfl
  | case4 char rest _ _ line ih => simpa [Line.text] using ih

end Line

/-- Cuts a list behind every element of some sort. -/
def cutBehind {α : Type} (ends : α → Bool) : List α → List (List α)
  | [] => []
  | first :: rest =>
      if ends first then [first] :: cutBehind ends rest
      else
        match cutBehind ends rest with
        | [] => [[first]]
        | part :: parts => (first :: part) :: parts

/-- The lines of a text, each with its end. -/
def cutLines (text : List Char) : List (List Char) := cutBehind (· == '\n') text

/-- The lines of an input of bytes, each with its end; a line that is not UTF-8 has no text.  When
all of the input is text its lines are those of the text, and otherwise each line is decoded by
itself. -/
def inputLines (input : ByteArray) : List (Option (List Char)) :=
  match String.fromUTF8? input with
  | some text => (cutLines text.toList).map some
  | none =>
      (cutBehind (· == 10) input.toList).map fun line =>
        (String.fromUTF8? ⟨line.toArray⟩).map String.toList

end Text
end LoxTokenizer
