import LoxTokenizer.Log.Filter
import LoxTokenizer.Scan.Basic
import LoxTokenizer.Scan.Console

namespace LoxTokenizer

/-!
What a run writes.  On the error output two kinds of things are said, one after another: records for
the log, which a filter may hold back, and lines for the reader, which nothing holds back.  A part of
a run contributes text and such messages without knowing of a filter; the logger of the run turns
them into what is written.
-/

/-- What is written to the two outputs. -/
structure Output where
  stdout : String
  stderr : String
  deriving DecidableEq

namespace Output

def empty : Output := ⟨"", ""⟩

def out (text : String) : Output := ⟨text, ""⟩

def err (text : String) : Output := ⟨"", text⟩

def append (first second : Output) : Output :=
  ⟨first.stdout ++ second.stdout, first.stderr ++ second.stderr⟩

instance : Append Output := ⟨append⟩

theorem append_assoc (first second third : Output) :
    first ++ second ++ third = first ++ (second ++ third) := by
  change Output.mk (first.stdout ++ second.stdout ++ third.stdout)
    (first.stderr ++ second.stderr ++ third.stderr) = _
  rw [String.append_assoc, String.append_assoc]
  rfl

theorem append_empty (output : Output) : output ++ .empty = output := by
  change Output.mk (output.stdout ++ "") (output.stderr ++ "") = output
  rw [String.append_empty, String.append_empty]

theorem empty_append (output : Output) : .empty ++ output = output := by
  change Output.mk ("" ++ output.stdout) ("" ++ output.stderr) = output
  rw [String.empty_append, String.empty_append]

theorem err_append (text : String) (output : Output) :
    .err text ++ output = ⟨output.stdout, text ++ output.stderr⟩ := by
  change Output.mk ("" ++ output.stdout) (text ++ output.stderr) = _
  rw [String.empty_append]

/-- Outputs one after another, in front of a last one. -/
theorem foldr_append {α : Type} (output : α → Output) (items : List α) (last : Output) :
    items.foldr (fun item later => output item ++ later) last =
      ⟨String.join (items.map fun item => (output item).stdout),
        String.join (items.map fun item => (output item).stderr)⟩ ++ last := by
  induction items with
  | nil => exact (empty_append last).symm
  | cons item later ih =>
      rw [List.foldr_cons, ih, ← append_assoc, List.map_cons, List.map_cons, String.join_cons,
        String.join_cons]
      rfl

end Output

/-- Something said on the error output. -/
inductive Message where
  | record (record : Log.Record)
  /-- A line for the reader, its end included. -/
  | line (text : String)
  deriving DecidableEq

namespace Log.Logger

def writeMessage (logger : Logger) : Message → String
  | .record record => logger.write record
  | .line text => text

def writeMessages (logger : Logger) (messages : List Message) : String :=
  String.join (messages.map logger.writeMessage)

end Log.Logger

/-- What a part of a run has to say on both outputs. -/
structure Contribution where
  stdout : String
  messages : List Message
  deriving DecidableEq

namespace Contribution

def nothing : Contribution := ⟨"", []⟩

def out (text : String) : Contribution := ⟨text, []⟩

def line (text : String) : Contribution := ⟨"", [.line text]⟩

def output (contribution : Contribution) (logger : Log.Logger) : Output :=
  ⟨contribution.stdout, logger.writeMessages contribution.messages⟩

end Contribution

/-! ## Scanning to a console -/

/-- What a scan says: a record of everything it tells about itself, and right behind that of an
error the line that was printed for the error. -/
def scanMessages : List ScanEvent → List String → List Message
  | [], printed => printed.map .line
  | .scanError error :: events, line :: printed =>
      .record (.ofScanEvent (.scanError error)) :: .line line :: scanMessages events printed
  | event :: events, printed => .record (.ofScanEvent event) :: scanMessages events printed

/-- A scan whose errors went to a console. -/
structure ConsoleScan where
  tokens : List Token
  messages : List Message
  /-- The reporter behind the scan. -/
  reporter : ConsoleReporter

/-- Scans a source and has each error printed when it is met. -/
def scanToConsole (reporter : ConsoleReporter) (source : String) : ConsoleScan :=
  let drained := (TokenStream.ofSource source reporter).drain
  let behind := drained.stream.sink
  { tokens := drained.tokens
    messages := scanMessages drained.events (behind.printed.drop reporter.printed.length)
    reporter := behind }

end LoxTokenizer
