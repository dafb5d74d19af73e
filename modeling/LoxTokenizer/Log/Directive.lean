import LoxTokenizer.Log.Pattern.Basic
import LoxTokenizer.Log.Record
import LoxTokenizer.Text.Bytes

namespace LoxTokenizer
namespace Log

/-!
The directives of a filter, each in one of these forms:

    level                          for every target
    target                         everything from that target
    target=level                   that much from that target
    target[span{field=value}]=level

In the last form every part may be missing but the brackets, and nothing behind the equals sign
stands for everything.  The program opens no spans, so a directive that asks for a span, or for
the value of a field, lets nothing through; one that asks for a field alone speaks of the records
that have the field.

White space around a directive does not hinder reading its form.  Its parts, though, are cut out
of the whole text, at positions that do not count the white space in front: every part is cut
that much too early, and the last one goes on to the very end.
-/

/-- A directive: how verbose its records may be, where they come from, and what they must have. -/
structure Directive where
  verbosity : Nat
  target : Option (List Char)
  /-- It only holds inside of a span, or for some value of a field. -/
  conditional : Bool
  field : Option String
  deriving DecidableEq

namespace Directive

/-!
## Levels
-/

/-- The number written in decimal digits, perhaps behind a plus sign. -/
def number? (text : List Char) : Option Nat :=
  let digits :=
    match text with
    | '+' :: rest => rest
    | _ => text
  if digits ≠ [] ∧ digits.all Char.isDigit then
    some (digits.foldl (fun value digit => 10 * value + (digit.toNat - '0'.toNat)) 0)
  else none

/-- The verbosity that a level stands for: its name in any case, or its number. -/
def level? (text : List Char) : Option Nat :=
  match number? text with
  | some number => if number ≤ 5 then some number else none
  | none =>
      match String.ofList (text.map Char.toLower) with
      | "off" => some 0
      | "error" => some 1
      | "warn" => some 2
      | "info" => some 3
      | "debug" => some 4
      | "trace" => some 5
      | _ => none

/-- The verbosity of a directive that names none. -/
def everything : Nat := 5

/-- The verbosity written behind an equals sign; nothing there stands for everything. -/
def levelBehindEquals? (text : List Char) : Option Nat :=
  if text.isEmpty then some everything else level? text

/-!
## Fields
-/

/-- What a number can consist of instead of digits. -/
def specialNumbers : List String := ["inf", "infinity", "nan"]

/-- The text behind a sign, if there is one. -/
def skipSign : List Char → List Char
  | '+' :: rest | '-' :: rest => rest
  | text => text

/-- Whether a text is the exponent of a number, or nothing. -/
def isExponent : List Char → Bool
  | [] => true
  | letter :: rest =>
      let digits := skipSign rest
      letter.toLower == 'e' && !digits.isEmpty && digits.all Char.isDigit

/-- Whether a text is a number with as many digits as there are before and behind its point. -/
def isDecimal (text : List Char) : Bool :=
  let whole := text.takeWhile Char.isDigit
  let (fraction, rest) :=
    match text.dropWhile Char.isDigit with
    | '.' :: behind => (behind.takeWhile Char.isDigit, behind.dropWhile Char.isDigit)
    | behind => ([], behind)
  !(whole ++ fraction).isEmpty && isExponent rest

def isNumber (text : List Char) : Bool :=
  let unsigned := skipSign text
  specialNumbers.contains (String.ofList (unsigned.map Char.toLower)) || isDecimal unsigned

/-- What is asked of a field: its name, and whether it must have some value. -/
structure FieldDemand where
  name : String
  hasValue : Bool

/-- Reads what stands in braces: a name, or a name and a value.  What follows a second equals sign
does not count.  A value is a number or else a search pattern; truth values are patterns too. -/
def fieldDemand? (text : List Char) : Option FieldDemand :=
  if text.isEmpty then none
  else
    let name := String.ofList (text.takeWhile (· != '='))
    match text.dropWhile (· != '=') with
    | [] => some ⟨name, false⟩
    | _ :: rest =>
        let value := rest.takeWhile (· != '=')
        if isNumber value || isPattern value then some ⟨name, true⟩ else none

/-!
## Reading a directive

Positions are counted in bytes.  Where a cut would go through a character, there is no directive.
-/

/-- What stands behind the brackets: nothing, or a level behind an equals sign.  The position is that
of the rest. -/
def behindBrackets? (whole : List Char) (directive : Directive) (position : Nat) :
    List Char → Option Directive
  | [] => some directive
  | '=' :: _ =>
      ((Text.fromByte? (position + 1) whole).bind levelBehindEquals?).map fun verbosity =>
        { directive with verbosity }
  | _ => none

/-- What stands between the brackets and behind them.  The position is that of the text behind the
opening bracket. -/
def inBrackets? (whole : List Char) (target : Option (List Char)) (position : Nat)
    (text : List Char) : Option Directive :=
  let span := text.takeWhile fun char => char != ']' && char != '\x7b'
  let behindSpan := position + Text.byteLength span + 1
  match text.dropWhile fun char => char != ']' && char != '\x7b' with
  | ']' :: rest => behindBrackets? whole ⟨everything, target, true, none⟩ behindSpan rest
  | _ :: inBraces =>
      let field := inBraces.takeWhile (· != '\x7d')
      let behindField := behindSpan + Text.byteLength field
      match inBraces.dropWhile (· != '\x7d') with
      | _ :: ']' :: rest =>
          ((Text.betweenBytes? behindSpan behindField whole).bind fieldDemand?).bind fun demand =>
            behindBrackets? whole
              ⟨everything, target, !span.isEmpty || demand.hasValue, some demand.name⟩
              (behindField + 2) rest
      | _ => none
  | [] => none

/-- The characters that a directive may start with, apart from an opening bracket. -/
def canStart (char : Char) : Bool :=
  Text.isAlphanumeric char || char == '-' || char == ':' || char == '_'

/-- What a directive of a single word means: the level of that name, or else everything from the
target of that name. -/
def ofWord (text : List Char) : Directive :=
  match level? text with
  | some verbosity => ⟨verbosity, none, false, none⟩
  | none => ⟨everything, some text, false, none⟩

def parse? (whole : List Char) : Option Directive :=
  match Text.trim whole with
  | [] => none
  | '[' :: rest => inBrackets? whole none 1 rest
  | start :: rest =>
      let word := (start :: rest).takeWhile fun char => char != '=' && char != '['
      let behindWord := Text.byteLength word
      if canStart start then
        match (start :: rest).dropWhile fun char => char != '=' && char != '[' with
        | [] => some (ofWord whole)
        | '=' :: _ =>
            (Text.betweenBytes? 0 behindWord whole).bind fun target =>
              ((Text.fromByte? (behindWord + 1) whole).bind levelBehindEquals?).map fun verbosity =>
                ⟨verbosity, some target, false, none⟩
        | _ :: inside =>
            (Text.betweenBytes? 0 behindWord whole).bind fun target =>
              inBrackets? whole (some target) (behindWord + 1) inside
      else none

/-!
## Which directive decides
-/

def appliesTo (directive : Directive) (record : Record) : Bool :=
  !directive.conditional &&
    (match directive.target with
      | none => true
      | some target => target.isPrefixOf record.target.toList) &&
    directive.field.all record.fieldNames.contains

/-- The length of the target, counted so that any target is more than none. -/
def reach (directive : Directive) : Nat :=
  match directive.target with
  | none => 0
  | some target => Text.byteLength target + 1

/-- Whether asking for a field says at least as much as asking for another.  Any field is more than
none, and among fields the order of their names decides. -/
def fieldAtLeast : Option String → Option String → Bool
  | _, none => true
  | none, some _ => false
  | some field, some other => decide (other ≤ field)

/-- Whether a directive says at least as much about its records as another. -/
def atLeastAsSpecific (directive other : Directive) : Bool :=
  other.reach < directive.reach ||
    (other.reach == directive.reach && fieldAtLeast directive.field other.field)

end Directive

end Log
end LoxTokenizer
