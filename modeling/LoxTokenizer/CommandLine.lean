import LoxTokenizer.Dump

namespace LoxTokenizer
namespace CommandLine

/-!
Command lines.  Arguments are read from left to right and the first problem ends the reading.

A value is not looked at where it stands but when the next known option comes, or at the end: until
then an option with its value, or a run of files, is *pending*.  So of a bad value and an unknown
option right behind it the unknown option is the problem that is found.
-/

/-- Why a command line leads to no settings. -/
inductive Refusal where
  | helpWanted
  | versionWanted
  | unknownArgument
  | invalidValue
  | conflict
  | tooManyValues
  deriving DecidableEq

structure Options where
  files : List String
  eval : Option String
  interactive : Bool
  format : DumpFormat
  verbose : Bool
  deriving DecidableEq

inductive Mode where
  | eval (code : String)
  | files (paths : List String)
  | input
  | session
  deriving DecidableEq

namespace Refusal

/-- The exit code: to be asked for help is no failure. -/
def exitCode : Refusal → Nat
  | .helpWanted | .versionWanted => 0
  | _ => 2

end Refusal

namespace Options

/-- What is to be done: given code comes first, then a session if asked for, then files; with
nothing given, a terminal opens a session and anything else is read as source. -/
def mode (options : Options) (inputIsTerminal : Bool) : Mode :=
  match options.eval with
  | some code => .eval code
  | none =>
      if options.interactive then .session
      else if !options.files.isEmpty then .files options.files
      else if inputIsTerminal then .session
      else .input

/-- The log filter to use where none is given. -/
def logFilter (options : Options) : String :=
  if options.verbose then "lox=debug,lox_scanner=debug" else "warn"

end Options

/-- The format with some name, written exactly like this. -/
def format? (name : String) : Option DumpFormat :=
  if name = "text" then some .text
  else if name = "json" then some .json
  else none

/-- What has been read but not looked at yet. -/
inductive Pending where
  | nothing
  | eval (value : Option String)
  | format (value : Option String)
  | files (paths : List String)
  deriving DecidableEq

/-- How far a command line has been read. -/
structure Progress where
  files : List String
  eval : Option String
  interactive : Bool
  format : Option DumpFormat
  verbose : Bool
  pending : Pending
  deriving DecidableEq

inductive ValueOption where
  | eval
  | format
  deriving DecidableEq

inductive Flag where
  | interactive
  | verbose
  | help
  | version
  deriving DecidableEq

inductive Known where
  | value (option : ValueOption)
  | flag (flag : Flag)
  deriving DecidableEq

def knownLong? (name : String) : Option Known :=
  match name with
  | "eval" => some (.value .eval)
  | "format" => some (.value .format)
  | "interactive" | "repl" => some (.flag .interactive)
  | "verbose" => some (.flag .verbose)
  | "help" => some (.flag .help)
  | "version" => some (.flag .version)
  | _ => none

def knownShort? (letter : Char) : Option Known :=
  match letter with
  | 'e' => some (.value .eval)
  | 'f' => some (.value .format)
  | 'i' => some (.flag .interactive)
  | 'v' => some (.flag .verbose)
  | 'h' => some (.flag .help)
  | 'V' => some (.flag .version)
  | _ => none

/-- An option waiting for its value, or holding it. -/
def Pending.ofOption (value : Option String) : ValueOption → Pending
  | .eval => .eval value
  | .format => .format value

namespace Progress

def start : Progress := ⟨[], none, false, none, false, .nothing⟩

/-- Looks at what is pending.  An option must have its value and must not have come before; a file
must have a name. -/
def settle (progress : Progress) : Except Refusal Progress :=
  match progress.pending with
  | .nothing => .ok progress
  | .eval none | .format none => .error .invalidValue
  | .eval (some code) =>
      if progress.eval.isSome then .error .conflict
      else .ok { progress with eval := some code, pending := .nothing }
  | .format (some name) =>
      if progress.format.isSome then .error .conflict
      else
        match format? name with
        | some format => .ok { progress with format := some format, pending := .nothing }
        | none => .error .invalidValue
  | .files paths =>
      if paths.contains "" then .error .invalidValue
      else .ok { progress with files := progress.files ++ paths, pending := .nothing }

/-- Takes in an option whose value is to come. -/
def expect (progress : Progress) (option : ValueOption) : Except Refusal Progress := do
  return { ← progress.settle with pending := Pending.ofOption none option }

/-- Takes in an option and the value attached to it. -/
def attach (progress : Progress) (option : ValueOption) (value : String) :
    Except Refusal Progress := do
  let settled ← progress.settle
  { settled with pending := Pending.ofOption (some value) option }.settle

def raise (progress : Progress) (flag : Flag) : Except Refusal Progress := do
  let settled ← progress.settle
  match flag with
  | .interactive =>
      if settled.interactive then .error .conflict else .ok { settled with interactive := true }
  | .verbose =>
      if settled.verbose then .error .conflict else .ok { settled with verbose := true }
  | .help => .error .helpWanted
  | .version => .error .versionWanted

def addFile (progress : Progress) (path : String) : Except Refusal Progress :=
  match progress.pending with
  | .files paths => .ok { progress with pending := .files (paths ++ [path]) }
  | _ => do return { ← progress.settle with pending := .files [path] }

/-- Takes in an argument that is no option: the value that is waited for, or a file. -/
def addPlain (progress : Progress) (text : String) : Except Refusal Progress :=
  match progress.pending with
  | .eval none => .ok { progress with pending := .eval (some text) }
  | .format none => .ok { progress with pending := .format (some text) }
  | _ => progress.addFile text

/-- Takes in an argument behind two dashes: a name, and perhaps a value behind an equals sign. -/
def addLong (progress : Progress) (text : List Char) : Except Refusal Progress :=
  let name := text.takeWhile (· != '=')
  let value :=
    match text.dropWhile (· != '=') with
    | [] => none
    | _ :: value => some (String.ofList value)
  match knownLong? (String.ofList name), value with
  | none, _ => .error .unknownArgument
  | some (.value option), some value => progress.attach option value
  | some (.value option), none => progress.expect option
  | some (.flag _), some _ => .error .tooManyValues
  | some (.flag flag), none => progress.raise flag

/-- Takes in the letters behind one dash.  What follows the letter of an option with a value is its
value, without an equals sign in front. -/
def addShort (progress : Progress) : List Char → Except Refusal Progress
  | [] => .ok progress
  | letter :: rest =>
      match knownShort? letter, rest with
      | none, _ => .error .unknownArgument
      | some (.value option), [] => progress.expect option
      | some (.value option), '=' :: value => progress.attach option (String.ofList value)
      | some (.value option), value => progress.attach option (String.ofList value)
      | some (.flag flag), _ => do (← progress.raise flag).addShort rest

/-- Takes in arguments behind a lone pair of dashes: all of them are files. -/
def addFiles (progress : Progress) : List String → Except Refusal Progress
  | [] => progress.settle
  | path :: rest => do (← progress.addFile path).addFiles rest

def addAll (progress : Progress) : List String → Except Refusal Progress
  | [] => progress.settle
  | argument :: rest =>
      match argument.toList with
      | ['-', '-'] => progress.addFiles rest
      | '-' :: '-' :: long => do (← progress.addLong long).addAll rest
      | '-' :: letter :: letters => do (← progress.addShort (letter :: letters)).addAll rest
      | _ => do (← progress.addPlain argument).addAll rest

/-- The settings, once every argument is taken in.  The variable for the format counts where the
option is absent; code and files exclude each other. -/
def finish (progress : Progress) (formatVariable : Option String) : Except Refusal Options := do
  let format ←
    match progress.format, formatVariable with
    | some format, _ => .ok format
    | none, none => .ok .text
    | none, some name =>
        match format? name with
        | some format => .ok format
        | none => .error .invalidValue
  if progress.eval.isSome && !progress.files.isEmpty then .error .conflict
  else
    .ok ⟨progress.files, progress.eval, progress.interactive, format, progress.verbose⟩

end Progress

/-- Reads a command line, given the value of the variable for the format. -/
def parse (arguments : List String) (formatVariable : Option String) :
    Except Refusal Options := do
  (← Progress.start.addAll arguments).finish formatVariable

end CommandLine
end LoxTokenizer
