import LoxTokenizer.Scan.Console

namespace LoxTokenizer

/-!
# What a console prints

The lines of a console are put together from styles, a word, a place and a message.  Here they are
written out with every control sequence, so that a statement about what a run prints tells the very
characters that come out, and each is proved to be the line that is put together.
-/

/-- The place of an error in faint print: the line number behind the name of the source, or alone in
brackets. -/
def faintPlace : Option String → Nat → String
  | some name, line => "\x1b[2m" ++ name ++ ":" ++ toString line ++ "\x1b[0m"
  | none, line => "\x1b[2m[line " ++ toString line ++ "]\x1b[0m"

/-- The line that is read of an error: its place, the word "Error" in bold red, and what is wrong. -/
def ScanError.reportLine (sourceName : Option String) : ScanError → String
  | .unexpectedCharacter line _ =>
      faintPlace sourceName line ++
        " \x1b[1m\x1b[31mError\x1b[39m\x1b[0m: Unexpected Character\n"
  | .unterminatedString line =>
      faintPlace sourceName line ++
        " \x1b[1m\x1b[31mError\x1b[39m\x1b[0m: Unterminated string\n"

theorem complaint_eq (what : String) :
    complaint what = "\x1b[1m\x1b[31mError\x1b[39m\x1b[0m: " ++ what ++ "\n" := by
  have word : errorWord ++ ": " = "\x1b[1m\x1b[31mError\x1b[39m\x1b[0m: " := rfl
  rw [complaint, word]

theorem dimmed_place (sourceName : Option String) (line : Nat) :
    dimmed (ConsoleReporter.place sourceName line) = faintPlace sourceName line := by
  cases sourceName with
  | some name => simp only [dimmed_eq, ConsoleReporter.place, faintPlace, String.append_assoc]
  | none =>
      have opening : "\x1b[2m" ++ "[line " = "\x1b[2m[line " := rfl
      have closing : "]" ++ "\x1b[0m" = "]\x1b[0m" := rfl
      rw [dimmed_eq, ConsoleReporter.place, faintPlace, ← opening, ← closing]
      simp only [String.append_assoc]

theorem ConsoleReporter.errorLine_eq (sourceName : Option String) :
    errorLine sourceName = ScanError.reportLine sourceName := by
  funext error
  rw [errorLine, dimmed_place, complaint_eq, String.append_assoc]
  cases error with
  | unexpectedCharacter line character => rfl
  | unterminatedString line => rfl

/-- A console told of several errors prints the line of each and counts them. -/
theorem ConsoleReporter.reportAll_reportLine (reporter : ConsoleReporter)
    (errors : List ScanError) :
    reportAll reporter errors =
      { reporter with
        reported := reporter.reported + errors.length
        printed := reporter.printed ++ errors.map (ScanError.reportLine reporter.sourceName) } := by
  rw [reportAll_eq, errorLine_eq]

end LoxTokenizer
