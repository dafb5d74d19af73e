import LoxTokenizer.Scan.Error
import LoxTokenizer.Style

namespace LoxTokenizer
namespace Log

/-!
What the program logs, and how a logged record is written as a line: a time stamp, the severity
in colour, the target in faint print, the text, and the fields with their names in italics.
Whether a record is written at all is for `Filter` to say.  Control characters in the text could
give orders to a terminal, so the text shows them by their codes; the values of fields are
written as they are.
-/

inductive Severity where
  | error
  | warn
  | info
  | debug
  | trace
  deriving DecidableEq

namespace Severity

/-- How much a filter must let through for a record of this severity to pass. -/
def verbosity : Severity → Nat
  | .error => 1
  | .warn => 2
  | .info => 3
  | .debug => 4
  | .trace => 5

/-- The severity as it stands on a line, all of one width. -/
def label : Severity → String
  | .error => tinted .red "ERROR"
  | .warn => tinted .yellow " WARN"
  | .info => tinted .green " INFO"
  | .debug => tinted .blue "DEBUG"
  | .trace => tinted .magenta "TRACE"

end Severity

structure Field where
  name : String
  value : String
  deriving DecidableEq

/-- Something worth logging: where it comes from, how grave it is, what is said, and the values
that go with it. -/
structure Record where
  target : String
  severity : Severity
  text : String
  fields : List Field := []
  /-- Fields that a filter can ask for and that are not written. -/
  hiddenFields : List String := []
  deriving DecidableEq

/-- The code of a character that takes two hexadecimal digits. -/
def hexCode (char : Char) : List Char :=
  [Nat.digitChar (char.toNat / 16), Nat.digitChar (char.toNat % 16)]

/-- The control characters of ASCII that can give orders to a terminal: bell, backspace, form feed,
escape and delete. -/
def terminalControls : List Char := ['\x07', '\x08', '\x0c', '\x1b', '\x7f']

/-- Whether a character is a control character beyond ASCII. -/
def isHighControl (char : Char) : Bool := 0x80 ≤ char.toNat && char.toNat ≤ 0x9F

/-- A character as the text of a record shows it. -/
def shown (char : Char) : List Char :=
  if terminalControls.contains char then '\\' :: 'x' :: hexCode char
  else if isHighControl char then '\\' :: 'u' :: '\x7b' :: hexCode char ++ ['\x7d']
  else [char]

def shownText (text : String) : String := String.ofList (text.toList.flatMap shown)

/-- The field whose value is written without its name. -/
def messageField : String := "message"

namespace Field

def display (field : Field) : String :=
  if field.name = messageField then shownText field.value
  else Style.italic.apply field.name ++ dimmed "=" ++ field.value

end Field

namespace Record

/-- The names a filter can ask for: those of the fields, and that of the text itself. -/
def fieldNames (record : Record) : List String :=
  messageField :: record.fields.map Field.name ++ record.hiddenFields

/-- The words of a record, separated by spaces. -/
def words (record : Record) : String :=
  record.fields.foldl (fun text field => text ++ " " ++ field.display) (shownText record.text)

def line (stamp : String) (record : Record) : String :=
  dimmed stamp ++ " " ++ record.severity.label ++ " " ++ dimmed record.target ++ dimmed ":" ++
    " " ++ record.words ++ "\n"

def ofScanEvent (event : ScanEvent) : Record :=
  let target := "lox_scanner::lexer::scanner"
  match event with
  | .scanError error =>
      { target
        severity := .debug
        text := "scan error"
        fields := [⟨"line", toString error.line⟩, ⟨messageField, error.message⟩] }
  | .scanComplete tokens lines =>
      { target
        severity := .debug
        text := "scan complete"
        fields := [⟨"tokens", toString tokens⟩, ⟨"lines", toString lines⟩] }

end Record

end Log
end LoxTokenizer
