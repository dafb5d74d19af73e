import LoxTokenizer.CommandLine
import LoxTokenizer.Session.Basic

namespace LoxTokenizer

/-!
The whole program as a function: from a command line and everything around it to what it writes and
how it exits.
-/

/-- Everything around a run. -/
structure Surroundings where
  /-- The variable for the format. -/
  formatVariable : Option String
  /-- The variable for the log filter. -/
  logVariable : Option String
  /-- The variable for the directory of data. -/
  dataVariable : Option String
  home : String
  files : FileTree
  input : ByteArray
  inputIsTerminal : Bool
  /-- The time stamp of every log line. -/
  stamp : String

structure Outcome where
  exitCode : Nat
  output : Output
  deriving DecidableEq

namespace Program

def scanExitCode (hadError : Bool) : Nat := if hadError then 65 else 0

def unreadableExitCode : Nat := 74

def unreadable (logged what : String) (failure : FileFailure) : Outcome :=
  ⟨unreadableExitCode, .err (logged ++ complaint ("cannot read " ++ what ++ ": " ++
    failure.message))⟩

/-- Scans one source and dumps its tokens. -/
def runSource (logger : Log.Logger) (format : DumpFormat) (source : String) : Outcome :=
  let scanned := scanToConsole (.ofSource none) source
  let contribution : Contribution :=
    { stdout := Dump.render scanned.tokens format ++ "\n"
      messages := scanned.messages }
  { exitCode := scanExitCode scanned.reporter.hadError
    output := contribution.output logger }

/-- A source that was read from a file. -/
structure LoadedFile where
  path : String
  source : String
  deriving DecidableEq

def LoadedFile.record (file : LoadedFile) : Log.Record :=
  { target := "lox"
    severity := .debug
    text := "loaded source"
    fields := [⟨"path", file.path⟩, ⟨"bytes", toString file.source.utf8ByteSize⟩] }

/-- The first file that could not be read, and why. -/
structure Unread where
  path : String
  failure : FileFailure
  deriving DecidableEq

/-- Reads files in order, up to the first that cannot be read. -/
def loadFiles (files : FileTree) : List String → List LoadedFile × Option Unread
  | [] => ([], none)
  | path :: rest =>
      match files.readText path with
      | .error failure => ([], some ⟨path, failure⟩)
      | .ok source =>
          let (loaded, unread) := loadFiles files rest
          (⟨path, source⟩ :: loaded, unread)

/-- The line above the dump of one of several files. -/
def fileHeader (path : String) : String := bold ("==> " ++ path ++ " <==") ++ "\n"

/-- What has been shown of some files, and whether one of them had an error. -/
structure Shown where
  output : Output
  hadError : Bool
  deriving DecidableEq

/-- Shows one scanned file: its dump, under a header if there are several, and its errors, which are
given to a reporter of its own. -/
def showFile (format : DumpFormat) (several : Bool) (path : String) (result : ScanResult) : Shown :=
  let reporter := reportAll (ConsoleReporter.ofSource (some path)) result.errors
  { output :=
      { stdout := (if several then fileHeader path else "") ++
          (Dump.render result.tokens format ++ "\n")
        stderr := String.join reporter.printed }
    hadError := reporter.hadError }

/-- Shows scanned files one after another. -/
def showFiles (format : DumpFormat) (several : Bool) (scanned : List (String × ScanResult)) :
    Shown :=
  scanned.foldl
    (fun shown (path, result) =>
      let next := showFile format several path result
      ⟨shown.output ++ next.output, shown.hadError || next.hadError⟩)
    ⟨.empty, false⟩

/-- Scans files and dumps their tokens.  Every file is read before any is scanned, and every file
is scanned before any is shown. -/
def runFiles (logger : Log.Logger) (format : DumpFormat) (files : FileTree)
    (paths : List String) : Outcome :=
  let (loaded, unread) := loadFiles files paths
  let logged := logger.writeAll (loaded.map LoadedFile.record)
  match unread with
  | some ⟨path, failure⟩ => unreadable logged ("'" ++ path ++ "'") failure
  | none =>
      let results := scanAll (loaded.map LoadedFile.source)
      let told := (results.flatMap ScanResult.events).map Log.Record.ofScanEvent
      let shown := showFiles format (1 < paths.length) (paths.zip results)
      { exitCode := scanExitCode shown.hadError
        output := .err (logged ++ logger.writeAll told) ++ shown.output }

/-- Scans the standard input and dumps its tokens. -/
def runInput (logger : Log.Logger) (format : DumpFormat) (input : ByteArray) : Outcome :=
  match String.fromUTF8? input with
  | some source => runSource logger format source
  | none => unreadable "" "stdin" .notText

/-- The logger of a run.  A filter in the variable goes before the one of the command line,
provided that it can be read. -/
def logger (options : CommandLine.Options) (surroundings : Surroundings) : Log.Logger :=
  let filter := (surroundings.logVariable.bind Log.Filter.parse?).orElse fun _ =>
    Log.Filter.parse? options.logFilter
  ⟨filter.getD Log.Filter.warnings, surroundings.stamp⟩

/-- What a command line may look like. -/
def usage : String :=
  Dump.endLines
    ["Usage: lox [OPTIONS] [FILES]...",
      "",
      "  -e, --eval <CODE>      Scan source given on the command line",
      "  -i, --interactive      Start an interactive session",
      "  -f, --format <FORMAT>  Token dump format, text or json",
      "  -v, --verbose          Enable debug logging",
      "  -h, --help             Show this text",
      "  -V, --version          Show the version"]

/-- What is written when a command line leads to no settings. -/
def refuse (refusal : CommandLine.Refusal) : Outcome :=
  { exitCode := refusal.exitCode
    output :=
      match refusal with
      | .helpWanted => .out usage
      | .versionWanted => .out ("lox " ++ version ++ "\n")
      | _ => .err usage }

def dataPath (surroundings : Surroundings) : String :=
  Session.History.dataDirectory surroundings.home surroundings.dataVariable

def runOptions (options : CommandLine.Options) (surroundings : Surroundings) : Outcome :=
  let logger := logger options surroundings
  match options.mode surroundings.inputIsTerminal with
  | .eval code => runSource logger options.format code
  | .files paths => runFiles logger options.format surroundings.files paths
  | .input => runInput logger options.format surroundings.input
  | .session =>
      ⟨0, Session.run options.format logger surroundings.files (dataPath surroundings)
        surroundings.input⟩

def run (arguments : List String) (surroundings : Surroundings) : Outcome :=
  match CommandLine.parse arguments surroundings.formatVariable with
  | .error refusal => refuse refusal
  | .ok options => runOptions options surroundings

/-- The mode of a run, if its command line leads to one. -/
def mode? (arguments : List String) (surroundings : Surroundings) : Option CommandLine.Mode :=
  match CommandLine.parse arguments surroundings.formatVariable with
  | .error _ => none
  | .ok options => some (options.mode surroundings.inputIsTerminal)

def readsInput (arguments : List String) (surroundings : Surroundings) : Bool :=
  match mode? arguments surroundings with
  | some .input | some .session => true
  | _ => false

/-- The files that a run may read, so that whoever starts it can gather them. -/
def filesWanted (arguments : List String) (surroundings : Surroundings) : List String :=
  match mode? arguments surroundings with
  | some (.files paths) => paths
  | some .session =>
      Session.History.filePath (dataPath surroundings) ::
        Session.loadPaths (Text.inputLines surroundings.input)
  | _ => []

end Program

end LoxTokenizer
