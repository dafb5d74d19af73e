import LoxTokenizer.Text.Alphanumeric
import LoxTokenizer.Text.WhiteSpace

namespace LoxTokenizer
namespace Log
namespace Pattern

/-!
The small parts of search patterns: escapes, flags, names of groups and of classes.  Each reader
takes the text behind what told the part apart and returns the text behind the part.

A pattern stands between braces in a list divided by commas, so it holds neither a closing brace
nor a comma.  What is written with braces of its own, a count of repetitions or a code of free
length, can never be closed and is always wrong.
-/

/-- How a stretch of a pattern is to be read. -/
structure Modes where
  /-- Capital and small letters are the same. -/
  caseless : Bool
  /-- Characters are those of Unicode, not bytes. -/
  unicode : Bool
  /-- White space and comments between the parts are skipped. -/
  spaced : Bool
  deriving DecidableEq

namespace Modes

def standard : Modes := ⟨false, true, false⟩

/-!
What can be searched for.  No tables of Unicode are at hand to ignore case or to know the classes of
characters, so both are refused where characters are those of Unicode.  Where they are bytes,
whatever could find a part of a character is refused.
-/

/-- Whether a character may stand for itself; perhaps it is written as the code of a byte. -/
def allowsLiteral (modes : Modes) (char : Char) (asByte : Bool) : Bool :=
  if modes.unicode then !modes.caseless else !(asByte && 0x80 ≤ char.toNat)

/-- Whether a character may be a member of a set. -/
def allowsMember (modes : Modes) (char : Char) : Bool :=
  if modes.unicode then !modes.caseless else char.toNat < 0x80

/-- Whether a class with a short name, or everything else, may be searched for. -/
def allowsShorthand (modes : Modes) (negated : Bool) : Bool := !modes.unicode && !negated

/-- Whether a class of ASCII, or everything else, may be a member of a set. -/
def allowsNamedClass (modes : Modes) (negated : Bool) : Bool :=
  if modes.unicode then !modes.caseless else !negated

/-- Whether everything but a few characters may be searched for. -/
def allowsComplement (modes : Modes) : Bool := modes.unicode

/-- Whether the borders of words may be searched for. -/
def allowsWordBoundary (modes : Modes) : Bool := !modes.unicode

end Modes

/-- The text behind white space and comments, which go from a number sign to the end of the line. -/
def skipBlanks (inComment : Bool) : List Char → List Char
  | [] => []
  | char :: rest =>
      if inComment then skipBlanks (char != '\n') rest
      else if Text.isWhiteSpace char then skipBlanks false rest
      else if char = '#' then skipBlanks true rest
      else char :: rest

/-- The next thing to read. -/
def Modes.skip (modes : Modes) (text : List Char) : List Char :=
  if modes.spaced then skipBlanks false text else text

/-- The character that a hyphen is followed by.  A number sign is passed over together with the
white space behind it, although a comment is longer than that. -/
def Modes.peek (modes : Modes) (text : List Char) : Option Char :=
  if modes.spaced then
    match text.dropWhile Text.isWhiteSpace with
    | '#' :: rest => (rest.dropWhile Text.isWhiteSpace).head?
    | visible => visible.head?
  else text.head?

/-!
## Escapes
-/

/-- What a backslash and the characters behind it stand for. -/
inductive Escape where
  /-- A character, perhaps written as the code of a byte. -/
  | literal (char : Char) (asByte : Bool)
  /-- A class with a short name, or everything else. -/
  | shorthand (negated : Bool)
  /-- The start or the end of the text. -/
  | anchor
  | wordBoundary

def hexDigit? (char : Char) : Option Nat :=
  if char.isDigit then some (char.toNat - '0'.toNat)
  else if 'a' ≤ char ∧ char ≤ 'f' then some (char.toNat - 'a'.toNat + 10)
  else if 'A' ≤ char ∧ char ≤ 'F' then some (char.toNat - 'A'.toNat + 10)
  else none

/-- Reads some hexadecimal digits, behind a value. -/
def hexDigits? (modes : Modes) : Nat → Nat → List Char → Option (Nat × List Char)
  | 0, value, text => some (value, text)
  | _ + 1, _, [] => none
  | count + 1, value, char :: rest =>
      match hexDigit? char with
      | some digit => hexDigits? modes count (16 * value + digit) (modes.skip rest)
      | none => none

def byteDigits : Nat := 2

/-- Reads the code of a character, in so many digits. -/
def code? (modes : Modes) (digits : Nat) (text : List Char) : Option (Escape × List Char) :=
  match hexDigits? modes digits 0 (modes.skip text) with
  | some (code, rest) =>
      if code.isValidChar then some (.literal (Char.ofNat code) (digits == byteDigits), rest)
      else none
  | none => none

def controlOfLetter? : Char → Option Char
  | 'a' => some '\x07'
  | 'f' => some '\x0c'
  | 'n' => some '\n'
  | 'r' => some '\r'
  | 't' => some '\t'
  | 'v' => some '\x0b'
  | _ => none

def shorthandLetters : List Char := ['d', 's', 'w']

/-- Reads what stands behind a backslash.  Every sign of ASCII can be escaped, letters and digits
only as far as they have a meaning. -/
def escape? (modes : Modes) : List Char → Option (Escape × List Char)
  | [] => none
  | 'x' :: rest => code? modes byteDigits rest
  | 'u' :: rest => code? modes 4 rest
  | 'U' :: rest => code? modes 8 rest
  | 'A' :: rest | 'z' :: rest => some (.anchor, rest)
  | 'b' :: rest | 'B' :: rest | '<' :: rest | '>' :: rest => some (.wordBoundary, rest)
  | char :: rest =>
      if shorthandLetters.contains char.toLower then some (.shorthand char.isUpper, rest)
      else
        match controlOfLetter? char with
        | some control => some (.literal control false, rest)
        | none =>
            if char.toNat < 0x80 && !char.isAlphanum then some (.literal char false, rest)
            else none

/-!
## Flags and names
-/

def flagLetters : List Char := ['i', 'm', 's', 'U', 'u', 'R', 'x']

/-- Whether a text lists flags: every letter once, and perhaps one hyphen that turns off the letters
behind it. -/
def isFlagList (flags : List Char) : Bool :=
  flags.all (fun char => char == '-' || flagLetters.contains char) && decide flags.Nodup &&
    flags.getLast? != some '-'

/-- A mode after flags, of which one letter speaks of it. -/
def setting (flags : List Char) (letter : Char) (old : Bool) : Bool :=
  if flags.contains letter then !(flags.takeWhile (· != letter)).contains '-' else old

def Modes.set (modes : Modes) (flags : List Char) : Modes :=
  ⟨setting flags 'i' modes.caseless, setting flags 'u' modes.unicode,
    setting flags 'x' modes.spaced⟩

def isGroupName : List Char → Bool
  | [] => false
  | first :: rest =>
      (first == '_' || Text.isAlphabetic first) &&
        rest.all fun char =>
          char == '_' || char == '.' || char == '[' || char == ']' || Text.isAlphanumeric char

/-- What a parenthesis opens. -/
inductive Opening where
  /-- Flags that hold from here on. -/
  | flags (flags : List Char)
  /-- A group, and the flags that hold in it. -/
  | group (flags : List Char)
  | namedGroup (name : List Char)

def named? (text : List Char) : Option (Opening × List Char) :=
  let name := text.takeWhile (· != '>')
  match text.dropWhile (· != '>') with
  | _ :: rest => if isGroupName name then some (.namedGroup name, rest) else none
  | [] => none

/-- Reads what stands behind a parenthesis.  Looking ahead or behind is not possible. -/
def opening? : List Char → Option (Opening × List Char)
  | '?' :: 'P' :: '<' :: rest | '?' :: '<' :: rest => named? rest
  | '?' :: rest =>
      let flags := rest.takeWhile fun char => char != ':' && char != ')'
      match rest.dropWhile fun char => char != ':' && char != ')' with
      | ':' :: behind => if isFlagList flags then some (.group flags, behind) else none
      | ')' :: behind =>
          if isFlagList flags && !flags.isEmpty then some (.flags flags, behind) else none
      | _ => none
  | rest => some (.group [], rest)

def classNames : List String :=
  ["alnum", "alpha", "ascii", "blank", "cntrl", "digit", "graph", "lower", "print", "punct",
    "space", "upper", "word", "xdigit"]

/-- Reads a class of ASCII behind a square bracket, and whether everything else is meant.  What is
not quite such a class is a set like any other. -/
def namedClass? : List Char → Option (Bool × List Char)
  | ':' :: inside =>
      let negated := inside.head? == some '^'
      let text := if negated then inside.tail else inside
      match text.dropWhile (· != ':') with
      | ':' :: ']' :: rest =>
          if classNames.contains (String.ofList (text.takeWhile (· != ':'))) then
            some (negated, rest)
          else none
      | _ => none
  | _ => none

end Pattern
end Log
end LoxTokenizer
