import LoxTokenizer.Proofs.CommandLine.Spelling
import LoxTokenizer.Proofs.Program.Files
import LoxTokenizer.Proofs.Text.Lines

namespace LoxTokenizer
namespace Program

/-!
# One source, three ways

A source can be given on the command line, on the standard input or as a file.  The first two are
scanned with the console listening, and each error is printed as it is met.  Files are scanned for a
log, and what is in the log is printed when all of them have been scanned.  Still the ways differ in
nothing but the place in front of each error: a scan does not depend on who listens, and a reporter
that hears of the errors afterwards prints and counts what it would have if it had been there.
-/

/-- The ways to give a source to the program, each with the name that its errors are reported under. -/
inductive Supplied (arguments : List String) (surroundings : Surroundings)
    (options : CommandLine.Options) (source : String) : Option String → Prop where
  | code (understood : Understood arguments surroundings options (.eval source)) :
      Supplied arguments surroundings options source none
  | input (understood : Understood arguments surroundings options .input)
      (given : surroundings.input = source.toUTF8) :
      Supplied arguments surroundings options source none
  | file {path : String} (understood : Understood arguments surroundings options (.files [path]))
      (found : surroundings.files.readText path = .ok source) :
      Supplied arguments surroundings options source (some path)

/-! ## Every source can be given -/

/-- Surroundings in which a source is both on the standard input and in the file `s`. -/
def offering (format : DumpFormat) (source : String) : Surroundings :=
  { Surroundings.bare ⟨.directory [("s", .file source.toUTF8)], []⟩ source.toUTF8 with
    formatVariable := some format.spelling }

theorem supplied_as_code (format : DumpFormat) (source : String) :
    Supplied ["--eval=" ++ source] (offering format source)
      ⟨[], some source, false, format, false⟩ source none := by
  have given : ("--eval=" ++ source).toList = "--eval=".toList ++ source.toList :=
    String.toList_append
  have taken : CommandLine.Progress.start.addAll ["--eval=" ++ source] =
      .ok ⟨[], some source, false, none, false, .nothing⟩ := by
    simp only [CommandLine.Progress.addAll, given]
    change (CommandLine.Progress.start.attach .eval (String.ofList source.toList)).bind _ = _
    rw [String.ofList_toList]
    rfl
  refine .code ⟨?_, rfl⟩
  rw [CommandLine.parse, taken]
  cases format <;> rfl

theorem supplied_as_input (format : DumpFormat) (source : String) :
    Supplied [] (offering format source) ⟨[], none, false, format, false⟩ source none := by
  refine .input ⟨?_, rfl⟩ rfl
  cases format <;> rfl

theorem supplied_as_file (format : DumpFormat) (source : String) :
    Supplied ["s"] (offering format source) ⟨["s"], none, false, format, false⟩ source
      (some "s") := by
  refine .file ⟨?_, rfl⟩ ?_
  · cases format <;> rfl
  · have found : (offering format source).files.readBytes "s" = .ok source.toUTF8 := rfl
    rw [FileTree.readText, found]
    simp only [Text.fromUTF8?_toUTF8]

/-! ## What each way shows -/

/-- An outcome that shows the scan of one source, with its errors under some name: `name:line` in front
of each, or `[line n]` where there is no name. -/
structure Shows (outcome : Outcome) (logger : Log.Logger) (format : DumpFormat)
    (sourceName : Option String) (source : String) : Prop where
  stdout : outcome.output.stdout = Dump.render (scan source).tokens format ++ "\n"
  stderr : logger.IsQuiet → outcome.output.stderr =
    String.join ((scan source).errors.map (ScanError.reportLine sourceName))
  failing : (scan source).errors ≠ [] → outcome.exitCode = 65
  clean : (scan source).errors = [] → outcome.exitCode = 0

theorem shows_runSource (logger : Log.Logger) (format : DumpFormat) (source : String) :
    Shows (runSource logger format source) logger format none source := by
  have scanned := scanToConsole_eq (.ofSource none) source
  have exitCode : (runSource logger format source).exitCode =
      scanExitCode (!(scan source).errors.isEmpty) := by
    rw [runSource, scanned]
    exact congrArg scanExitCode (ConsoleReporter.hadError_reportAll none _)
  constructor
  · rw [runSource, scanned]
    rfl
  · intro quiet
    have said := quiet.writeMessages_eq (isModest_events none (scan source).events)
    rw [filterMap_line_events] at said
    rw [runSource, scanned]
    exact said
  · intro faulty
    rw [exitCode, List.isEmpty_eq_false_iff.mpr faulty]
    rfl
  · intro clean
    rw [exitCode, clean]
    rfl

/-- A single file is shown without a header. -/
theorem shows_runFiles {files : FileTree} {path source : String}
    (found : files.readText path = .ok source) (logger : Log.Logger) (format : DumpFormat) :
    Shows (runFiles logger format files [path]) logger format (some path) source := by
  have readable : ∀ other ∈ [path], Readable files other := by
    intro other among
    rw [List.mem_singleton.mp among]
    exact ⟨source, found⟩
  have content : contentOf files path = source := by
    rw [contentOf, found]
  have decomposes := decomposes_runFiles readable logger format
  constructor
  · -- With one path there is no header, and the join is of one section.
    rw [decomposes.stdout, sections, List.map_singleton, sectionOf, fileAt, content]
    exact String.empty_append.trans String.empty_append
  · intro quiet
    rw [decomposes.stderr, decomposes.quiet quiet, String.empty_append, errorLines,
      List.map_singleton, List.flatten_singleton, errorLinesOf, fileAt, content]
  · intro faulty
    exact decomposes.failing ⟨path, List.mem_singleton.mpr rfl, by rwa [content]⟩
  · intro clean
    apply decomposes.clean
    intro other among
    rwa [List.mem_singleton.mp among, content]

theorem Supplied.shows {arguments : List String} {surroundings : Surroundings}
    {options : CommandLine.Options} {source : String} {sourceName : Option String}
    (supplied : Supplied arguments surroundings options source sourceName) :
    Shows (run arguments surroundings) (logger options surroundings) options.format sourceName
      source := by
  cases supplied with
  | code understood =>
      rw [understood.run_eval]
      exact shows_runSource _ _ source
  | input understood given =>
      rw [understood.run_input, runInput, given, Text.fromUTF8?_toUTF8]
      exact shows_runSource _ _ source
  | file understood found =>
      rw [understood.run_files]
      exact shows_runFiles found _ _

/-- Whichever way a source is given, the same is written to the standard output, the exit code is the
same, and without logging the same errors are reported in the same order, each under the name that
goes with the way.  For a console that listens to a scan, like any sink, ends up as one that is told of
the logged errors afterwards. -/
theorem run_supplied_alike {arguments others : List String} {surroundings elsewhere : Surroundings}
    {options otherOptions : CommandLine.Options} {source : String}
    {sourceName otherName : Option String}
    (supplied : Supplied arguments surroundings options source sourceName)
    (alsoSupplied : Supplied others elsewhere otherOptions source otherName)
    (sameFormat : options.format = otherOptions.format) :
    (run arguments surroundings).output.stdout = (run others elsewhere).output.stdout ∧
      (run arguments surroundings).exitCode = (run others elsewhere).exitCode ∧
      Shows (run arguments surroundings) (logger options surroundings) options.format sourceName
        source ∧
      Shows (run others elsewhere) (logger otherOptions elsewhere) otherOptions.format otherName
        source ∧
      (∀ (σ : Type) [ErrorSink σ] (sink : σ),
        scanInto sink source = ((scan source).tokens, reportAll sink (scan source).errors)) ∧
      ∀ reporter,
        (scanToConsole reporter source).tokens = (scan source).tokens ∧
          (scanToConsole reporter source).reporter = reportAll reporter (scan source).errors := by
  have shows := supplied.shows
  have alsoShows := alsoSupplied.shows
  refine ⟨?_, ?_, shows, alsoShows, ?_, ?_⟩
  · rw [shows.stdout, alsoShows.stdout, sameFormat]
  · by_cases clean : (scan source).errors = []
    · rw [shows.clean clean, alsoShows.clean clean]
    · rw [shows.failing clean, alsoShows.failing clean]
  · intro σ _ sink
    exact scanInto_eq sink source
  · intro reporter
    rw [scanToConsole_eq]
    exact ⟨rfl, rfl⟩

/-- A faulty source as a file, as code and on the standard input. -/
theorem run_supplied_alike_faulty :
    Supplied ["s"] (offering .text "@") ⟨["s"], none, false, .text, false⟩ "@" (some "s") ∧
      Supplied ["--eval=@"] (offering .text "@") ⟨[], some "@", false, .text, false⟩ "@" none ∧
      Supplied [] (offering .text "@") ⟨[], none, false, .text, false⟩ "@" none ∧
      run ["s"] (offering .text "@") =
        ⟨65, ⟨"EOF  null\n",
          "\x1b[2ms:1\x1b[0m \x1b[1m\x1b[31mError\x1b[39m\x1b[0m: Unexpected Character\n"⟩⟩ ∧
      run ["--eval=@"] (offering .text "@") =
        ⟨65, ⟨"EOF  null\n",
          "\x1b[2m[line 1]\x1b[0m \x1b[1m\x1b[31mError\x1b[39m\x1b[0m: Unexpected Character\n"⟩⟩ ∧
      run [] (offering .text "@") =
        ⟨65, ⟨"EOF  null\n",
          "\x1b[2m[line 1]\x1b[0m \x1b[1m\x1b[31mError\x1b[39m\x1b[0m: Unexpected Character\n"⟩⟩ := by
  have asFile := supplied_as_file .text "@"
  have asCode := supplied_as_code .text "@"
  have asInput := supplied_as_input .text "@"
  have faulty : (scan "@").errors ≠ [] := by decide +kernel
  -- An outcome is told by the three things that `Shows` says of it.
  have told : ∀ {outcome : Outcome} {logger : Log.Logger} {sourceName : Option String}
      {stderr : String}, Shows outcome logger .text sourceName "@" → logger.IsQuiet →
      String.join ((scan "@").errors.map (ScanError.reportLine sourceName)) = stderr →
      outcome = ⟨65, ⟨"EOF  null\n", stderr⟩⟩ := by
    rintro ⟨exitCode, stdout, stderr⟩ logger sourceName text shows quiet written
    have sameStdout : stdout = "EOF  null\n" := shows.stdout.trans (by decide +kernel)
    have sameStderr : stderr = text := (shows.stderr quiet).trans written
    have sameCode : exitCode = 65 := shows.failing faulty
    rw [sameStdout, sameStderr, sameCode]
  rcases run_supplied_alike asFile asCode rfl with ⟨_, _, shows, codeShows, _⟩
  rcases run_supplied_alike asFile asInput rfl with ⟨_, _, _, inputShows, _⟩
  refine ⟨asFile, asCode, asInput, told shows (isQuiet_logger rfl rfl) ?_,
    told codeShows (isQuiet_logger rfl rfl) ?_, told inputShows (isQuiet_logger rfl rfl) ?_⟩
  · decide +kernel
  · decide +kernel
  · decide +kernel

end Program
end LoxTokenizer
