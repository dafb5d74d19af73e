import LoxTokenizer.Program
import LoxTokenizer.Proofs.Log.Quiet

namespace LoxTokenizer
namespace Program

/-!
# From a command line to what is done

A run first reads its command line and then does one of four things.  Here the two steps are joined,
so that what is proved of one of the four holds of the whole program.  The logger of a run is settled as
well: without the option for it and without a filter in the variable it is a quiet one.
-/

/-- A command line that is understood: its settings, and what they ask for. -/
structure Understood (arguments : List String) (surroundings : Surroundings)
    (options : CommandLine.Options) (mode : CommandLine.Mode) : Prop where
  parsed : CommandLine.parse arguments surroundings.formatVariable = .ok options
  asked : options.mode surroundings.inputIsTerminal = mode

namespace Understood

variable {arguments : List String} {surroundings : Surroundings} {options : CommandLine.Options}

theorem run_eq {mode : CommandLine.Mode}
    (understood : Understood arguments surroundings options mode) :
    run arguments surroundings = runOptions options surroundings := by
  rw [run, understood.parsed]

theorem run_eval {code : String}
    (understood : Understood arguments surroundings options (.eval code)) :
    run arguments surroundings =
      runSource (logger options surroundings) options.format code := by
  rw [understood.run_eq, runOptions, understood.asked]

theorem run_files {paths : List String}
    (understood : Understood arguments surroundings options (.files paths)) :
    run arguments surroundings =
      runFiles (logger options surroundings) options.format surroundings.files paths := by
  rw [understood.run_eq, runOptions, understood.asked]

theorem run_input (understood : Understood arguments surroundings options .input) :
    run arguments surroundings =
      runInput (logger options surroundings) options.format surroundings.input := by
  rw [understood.run_eq, runOptions, understood.asked]

theorem run_session (understood : Understood arguments surroundings options .session) :
    run arguments surroundings =
      ⟨0, Session.run options.format (logger options surroundings) surroundings.files
        (dataPath surroundings) surroundings.input⟩ := by
  rw [understood.run_eq, runOptions, understood.asked]

end Understood

end Program

/-- A run is quiet unless it is asked to log. -/
theorem Program.isQuiet_logger {options : CommandLine.Options} {surroundings : Surroundings}
    (terse : options.verbose = false) (noFilter : surroundings.logVariable = none) :
    (Program.logger options surroundings).IsQuiet := by
  have filter : (Program.logger options surroundings).filter = Log.Filter.warnings := by
    have read : Log.Filter.parse? "warn" = some Log.Filter.warnings := by decide
    simp [Program.logger, noFilter, CommandLine.Options.logFilter, terse, read]
  intro record debug
  have decides : Log.Filter.warnings.deciding? record =
      some ⟨Log.Severity.warn.verbosity, none, false, none⟩ := rfl
  rw [filter, Log.Filter.enables, decides, debug]
  rfl

/-- Surroundings in which no variable is set and the input does not come from a terminal. -/
def Surroundings.bare (files : FileTree) (input : ByteArray) : Surroundings where
  formatVariable := none
  logVariable := none
  dataVariable := none
  home := "/home"
  files := files
  input := input
  inputIsTerminal := false
  stamp := ""

end LoxTokenizer
