import LoxTokenizer.Text.LowerCase
import LoxTokenizer.Text.WhiteSpace

namespace LoxTokenizer
namespace Session

/-!
The commands of an interactive session: a dot, a name, and perhaps an argument behind white
space.  White space on either side does not count, and neither does the case of the name.
-/

inductive Command where
  | help
  | exit
  | clear
  | version
  | load
  deriving DecidableEq

/-- A command and its argument, as entered. -/
structure Invocation where
  command : Command
  argument : Option String
  deriving DecidableEq

namespace Command

/-- The command that a name in lower case stands for. -/
def ofName? (name : String) : Option Command :=
  match name with
  | "help" | "h" | "?" => some .help
  | "exit" | "quit" | "q" => some .exit
  | "clear" | "cls" => some .clear
  | "version" | "v" => some .version
  | "load" | "l" => some .load
  | _ => none

def name : Command → String
  | .help => "Help"
  | .exit => "Exit"
  | .clear => "Clear"
  | .version => "Version"
  | .load => "Load"

/-- The commands as help shows them, each with what it does. -/
def descriptions : List (String × String) :=
  [(".help", "Show this help message"),
    (".exit", "Exit the REPL"),
    (".clear", "Clear the screen"),
    (".version", "Show version information"),
    (".load <file>", "Scan a Lox file and print its tokens")]

def completions : List String := [".help", ".exit", ".clear", ".version", ".load"]

end Command

namespace Invocation

/-- Reads the characters of an entry as a command. -/
def ofText? (text : List Char) : Option Invocation :=
  match Text.trim text with
  | '.' :: rest =>
      let name := rest.takeWhile fun char => !Text.isWhiteSpace char
      let argument := Text.trim (rest.dropWhile fun char => !Text.isWhiteSpace char)
      (Command.ofName? (String.ofList (Text.lowerCase name))).map fun command =>
        { command
          argument := if argument.isEmpty then none else some (String.ofList argument) }
  | _ => none

def parse? (input : String) : Option Invocation := ofText? input.toList

end Invocation

end Session
end LoxTokenizer
