import LoxTokenizer.Scan.Error
import LoxTokenizer.Style

namespace LoxTokenizer

/-!
Scan errors as a reader sees them on a console: one line each, with the place in faint print and
the word "Error" in bold red.
-/

def errorWord : String := boldColored .red "Error"

/-- A line of complaint. -/
def complaint (what : String) : String := errorWord ++ ": " ++ what ++ "\n"

/-- A sink that prints each error and counts them.  With a source name the place is written
`name:line`, otherwise `[line n]`. -/
structure ConsoleReporter where
  sourceName : Option String
  reported : Nat
  printed : List String
  deriving DecidableEq

namespace ConsoleReporter

def ofSource (sourceName : Option String) : ConsoleReporter := ⟨sourceName, 0, []⟩

/-- Where an error is, as written on the console. -/
def place (sourceName : Option String) (line : Nat) : String :=
  match sourceName with
  | some name => name ++ ":" ++ toString line
  | none => "[line " ++ toString line ++ "]"

def errorLine (sourceName : Option String) (error : ScanError) : String :=
  dimmed (place sourceName error.line) ++ " " ++ complaint error.message

/-- Whether anything was reported since the last reset. -/
def hadError (reporter : ConsoleReporter) : Bool := 0 < reporter.reported

/-- Forgets the count, not what was printed. -/
def reset (reporter : ConsoleReporter) : ConsoleReporter := { reporter with reported := 0 }

instance : ErrorSink ConsoleReporter where
  report reporter error :=
    { reporter with
      reported := reporter.reported + 1
      printed := reporter.printed ++ [errorLine reporter.sourceName error] }

/-- Reporting several errors counts each of them and prints a line for each, in order. -/
theorem reportAll_eq (reporter : ConsoleReporter) (errors : List ScanError) :
    reportAll reporter errors =
      { reporter with
        reported := reporter.reported + errors.length
        printed := reporter.printed ++ errors.map (errorLine reporter.sourceName) } := by
  induction errors generalizing reporter with
  | nil => simp [reportAll]
  | cons error rest ih =>
      have step := ih (ErrorSink.report reporter error)
      simp only [reportAll, List.foldl_cons] at step ⊢
      rw [step]
      simp [ErrorSink.report, Nat.add_comm, Nat.add_left_comm]

end ConsoleReporter

end LoxTokenizer
