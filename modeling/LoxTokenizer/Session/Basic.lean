import LoxTokenizer.Dump
import LoxTokenizer.Files
import LoxTokenizer.Output
import LoxTokenizer.Session.Entry
import LoxTokenizer.Session.History

namespace LoxTokenizer

/-!
The interactive session over lines of input that are not typed on a terminal: nothing is echoed
and no prompt is printed.  A session is a banner, what each entry brings forth, and an ending.

All scans of a session go to one reporter.  It is handed on from entry to entry with everything that
it has counted and printed, and its count starts anew with every source.
-/

def version : String := "0.1.0"

namespace Session

/-- What a session needs to know. -/
structure Settings where
  format : DumpFormat
  logger : Log.Logger
  files : FileTree

/-- The lines a session starts with. -/
def banner : String :=
  Dump.endLines
    ["",
      "  " ++ boldColored .white "Lox Scanner" ++ " " ++ dimmed "v" ++ " " ++
        colored .brightYellow version,
      "  " ++ dimmed "Type" ++ " " ++ colored .cyan ".help" ++ " " ++
        dimmed "for available commands",
      ""]

/-- A line of help: what to enter, on sixteen columns, and what it does. -/
def helpLine (color : Color) (entered description : String) : String :=
  let padding := String.ofList (List.replicate (16 - entered.length) ' ')
  "  " ++ colored color (entered ++ padding) ++ " " ++ dimmed description

/-- The keys that a terminal session knows. -/
def shortcuts : List (String × String) :=
  [("Ctrl+C", "Cancel current input"), ("Ctrl+D", "Exit REPL"), ("Tab", "Complete keyword")]

def helpText : String :=
  Dump.endLines
    (["", boldColored .white "REPL Commands:", ""] ++
      Command.descriptions.map (fun (entered, description) =>
        helpLine .cyan entered description) ++
      ["", boldColored .white "Keyboard Shortcuts:", ""] ++
      shortcuts.map (fun (entered, description) => helpLine .yellow entered description) ++
      [""])

def versionText : String :=
  boldColored .brightCyan "Lox" ++ ": " ++ colored .yellow version ++ "\n"

/-- The control sequences that clear the screen. -/
def clearScreen : String := "\x1b[2J\x1b[H"

def scannedRecord (tokens errors : Nat) : Log.Record :=
  { target := sessionTarget
    severity := .debug
    text := "scanned input"
    fields := [⟨"tokens", toString tokens⟩, ⟨"errors", toString errors⟩] }

/-- The record of a line that is about to be read. -/
def readingRecord : Log.Record := readerRecord .debug "stdin is not a tty"

/-- What an entry brought forth, and the reporter behind it. -/
structure Answer where
  contribution : Contribution
  reporter : ConsoleReporter

namespace Answer

/-- Scans a source and shows its tokens, however many errors the reporter has counted so far. -/
def ofSource (settings : Settings) (reporter : ConsoleReporter) (source : String) : Answer :=
  let scanned := scanToConsole reporter.reset source
  { contribution :=
      { stdout := Dump.renderColored scanned.tokens settings.format
        messages := scanned.messages ++
          [.record (scannedRecord scanned.tokens.length scanned.reporter.reported)] }
    reporter := scanned.reporter }

def ofFile (settings : Settings) (reporter : ConsoleReporter) (path : String) : Answer :=
  match settings.files.readText path with
  | .ok source => ofSource settings reporter source
  | .error failure =>
      ⟨.line (complaint ("cannot read '" ++ colored .cyan path ++ "': " ++ failure.message)),
        reporter⟩

/-- What a command brings forth; leaving the session is up to the session. -/
def ofCommand (settings : Settings) (reporter : ConsoleReporter) (invocation : Invocation) :
    Answer :=
  match invocation.command, invocation.argument with
  | .help, _ => ⟨.out helpText, reporter⟩
  | .exit, _ => ⟨.nothing, reporter⟩
  | .clear, _ => ⟨.out clearScreen, reporter⟩
  | .version, _ => ⟨.out versionText, reporter⟩
  | .load, some path => ofFile settings reporter path
  | .load, none =>
      ⟨.line (complaint (colored .cyan ".load" ++ " " ++ dimmed "requires a file path")), reporter⟩

/-- What an entry brings forth.  A blank entry brings forth nothing. -/
def ofEntry (settings : Settings) (reporter : ConsoleReporter) (entry : List Char) : Answer :=
  if (Text.trim entry).isEmpty then ⟨.nothing, reporter⟩
  else
    match Invocation.ofText? entry with
    | some invocation => ofCommand settings reporter invocation
    | none => ofSource settings reporter (String.ofList entry)

end Answer

/-- What is logged while an entry is gathered. -/
def Settings.gatheringMessages (settings : Settings) (attempts : List (List Char)) : String :=
  settings.logger.write readingRecord ++
    settings.logger.writeAll ((attempts.flatMap completenessEvents).map .ofScanEvent)

def leaves (entry : List Char) : Bool :=
  match Invocation.ofText? entry with
  | some invocation => invocation.command == .exit
  | none => false

/-- The complaint about a line that is not text. -/
def undecodableComplaint : String :=
  complaint ("Io(Error \x7b kind: InvalidData, message: \"" ++ FileFailure.notText.message ++
    "\" \x7d)")

/-- What the lines of a session bring forth, up to a command that leaves it or the end of the
input. -/
def answerLines (settings : Settings) (reporter : ConsoleReporter) (lines : List InputLine) :
    Output :=
  let gathering := gather [] lines
  let gathered := Output.err (settings.gatheringMessages gathering.attempts)
  match _ : gathering.gathered with
  | .endOfInput => gathered ++ .out (dimmed "^D" ++ "\n")
  | .undecodable => gathered ++ .err undecodableComplaint
  | .entry entry rest =>
      if leaves entry then gathered
      else
        let answer := Answer.ofEntry settings reporter entry
        gathered ++ (answer.contribution.output settings.logger ++
          answerLines settings answer.reporter rest)
termination_by lines.length
decreasing_by exact length_rest_gather_lt [] lines ‹_›

/-- The files that the entries of a session ask for, in order. -/
def loadPaths (lines : List InputLine) : List String :=
  match _ : (gather [] lines).gathered with
  | .endOfInput | .undecodable => []
  | .entry entry rest =>
      if leaves entry then []
      else
        match Invocation.ofText? entry with
        | some ⟨.load, some path⟩ => path :: loadPaths rest
        | _ => loadPaths rest
termination_by lines.length
decreasing_by all_goals exact length_rest_gather_lt [] lines ‹_›

/-- The reporter that a session starts with. -/
def freshReporter : ConsoleReporter := .ofSource none

/-- A whole session: preparing the history, the banner, the entries, and an empty line. -/
def run (format : DumpFormat) (logger : Log.Logger) (files : FileTree) (dataPath : String)
    (input : ByteArray) : Output :=
  let (records, present) := History.prepare files dataPath
  let settings : Settings := { format, logger, files := present }
  Output.err (logger.writeAll records) ++ .out banner ++
    answerLines settings freshReporter (Text.inputLines input) ++ .out "\n"

end Session

end LoxTokenizer
