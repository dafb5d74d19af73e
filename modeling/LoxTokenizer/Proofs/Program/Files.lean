import LoxTokenizer.Proofs.Program.Modes
import LoxTokenizer.Proofs.Scan.Console

namespace LoxTokenizer
namespace Program

/-!
# Several files in one run

Files are read, scanned and shown in three passes, and each pass goes through all of them.  If every
file can be read, the passes come to the same as treating each file by itself: what is written is made
up of one section for each path, in the order of the paths, and no section depends on another file.
If one cannot be read, the first pass ends the run, so that nothing is scanned and nothing is shown.
-/

/-! ## Reading -/

/-- The text of a file, for paths where there is one. -/
def contentOf (files : FileTree) (path : String) : String :=
  match files.readText path with
  | .ok source => source
  | .error _ => ""

/-- What is loaded from a path. -/
def fileAt (files : FileTree) (path : String) : LoadedFile := ⟨path, contentOf files path⟩

def Readable (files : FileTree) (path : String) : Prop := ∃ source, files.readText path = .ok source

theorem Readable.readText_eq {files : FileTree} {path : String} (readable : Readable files path) :
    files.readText path = .ok (contentOf files path) := by
  rcases readable with ⟨source, found⟩
  rw [contentOf, found]

/-- Paths that can be read are loaded, and the reading goes on behind them. -/
theorem loadFiles_append {files : FileTree} {paths : List String}
    (readable : ∀ path ∈ paths, Readable files path) (rest : List String) :
    loadFiles files (paths ++ rest) =
      (paths.map (fileAt files) ++ (loadFiles files rest).1, (loadFiles files rest).2) := by
  induction paths with
  | nil => rfl
  | cons path later ih =>
      have here := (readable path List.mem_cons_self).readText_eq
      have behind := ih fun other among => readable other (List.mem_cons_of_mem _ among)
      rw [List.cons_append, loadFiles, here, behind]
      rfl

theorem loadFiles_of_readable {files : FileTree} {paths : List String}
    (readable : ∀ path ∈ paths, Readable files path) :
    loadFiles files paths = (paths.map (fileAt files), none) := by
  have all := loadFiles_append readable []
  rwa [List.append_nil, loadFiles, List.append_nil] at all

/-- Among paths of which one cannot be read there is a first of that kind. -/
theorem exists_first_unreadable {files : FileTree} {paths : List String}
    (unreadable : ∃ path ∈ paths, ¬ Readable files path) :
    ∃ before path after failure, paths = before ++ path :: after ∧
      (∀ earlier ∈ before, Readable files earlier) ∧ files.readText path = .error failure := by
  induction paths with
  | nil =>
      rcases unreadable with ⟨path, among, _⟩
      cases among
  | cons path later ih =>
      cases found : files.readText path with
      | error failure =>
          refine ⟨[], path, later, failure, rfl, ?_, found⟩
          intro earlier among
          cases among
      | ok source =>
          have behind : ∃ other ∈ later, ¬ Readable files other := by
            rcases unreadable with ⟨other, among, fails⟩
            rcases List.mem_cons.mp among with here | there
            · subst here
              exact absurd ⟨source, found⟩ fails
            · exact ⟨other, there, fails⟩
          rcases ih behind with ⟨before, first, after, failure, parts, readable, fails⟩
          refine ⟨path :: before, first, after, failure, by rw [parts, List.cons_append], ?_, fails⟩
          intro earlier among
          rcases List.mem_cons.mp among with here | there
          · subst here
            exact ⟨source, found⟩
          · exact readable earlier there

/-! ## Showing -/

/-- The dump of a file, under its path in bold face if it is one of several. -/
def sectionOf (format : DumpFormat) (several : Bool) (file : LoadedFile) : String :=
  (if several then "\x1b[1m==> " ++ file.path ++ " <==\x1b[0m\n" else "") ++
    (Dump.render (scan file.source).tokens format ++ "\n")

/-- A line for each error of a file, with the path of the file in front. -/
def errorLinesOf (file : LoadedFile) : List String :=
  (scan file.source).errors.map (ScanError.reportLine (some file.path))

theorem fileHeader_eq (path : String) :
    fileHeader path = "\x1b[1m==> " ++ path ++ " <==\x1b[0m\n" := by
  have opening : "\x1b[1m" ++ "==> " = "\x1b[1m==> " := rfl
  have closing : " <==" ++ ("\x1b[0m" ++ "\n") = " <==\x1b[0m\n" := rfl
  rw [fileHeader, bold_eq, ← opening, ← closing]
  simp only [String.append_assoc]

/-- What is shown of a file comes from the scan of that file. -/
theorem showFile_scan (format : DumpFormat) (several : Bool) (file : LoadedFile) :
    showFile format several file.path (scan file.source) =
      ⟨⟨sectionOf format several file, String.join (errorLinesOf file)⟩,
        !(scan file.source).errors.isEmpty⟩ := by
  rw [showFile, ConsoleReporter.printed_reportAll, ConsoleReporter.hadError_reportAll,
    fileHeader_eq]
  rfl

/-- Files shown one after another, behind others shown before. -/
theorem foldl_showFile (format : DumpFormat) (several : Bool) (loaded : List LoadedFile)
    (before : Shown) :
    loaded.foldl
        (fun shown file =>
          let next := showFile format several file.path (scan file.source)
          ⟨shown.output ++ next.output, shown.hadError || next.hadError⟩) before =
      ⟨before.output ++
          ⟨String.join (loaded.map (sectionOf format several)),
            String.join (loaded.flatMap errorLinesOf)⟩,
        before.hadError || loaded.any fun file => !(scan file.source).errors.isEmpty⟩ := by
  induction loaded generalizing before with
  | nil =>
      rw [List.any_nil, Bool.or_false]
      exact congrArg (Shown.mk · before.hadError) (Output.append_empty before.output).symm
  | cons file later ih =>
      rw [List.foldl_cons, ih, showFile_scan, Output.append_assoc, List.any_cons, Bool.or_assoc,
        List.map_cons, List.flatMap_cons, String.join_cons, String.join_append]
      rfl

theorem showFiles_scan (format : DumpFormat) (several : Bool) (loaded : List LoadedFile) :
    showFiles format several (loaded.map fun file => (file.path, scan file.source)) =
      ⟨⟨String.join (loaded.map (sectionOf format several)),
          String.join (loaded.flatMap errorLinesOf)⟩,
        loaded.any fun file => !(scan file.source).errors.isEmpty⟩ := by
  rw [showFiles, List.foldl_map]
  refine (foldl_showFile format several loaded ⟨.empty, false⟩).trans ?_
  rw [Bool.false_or]
  exact congrArg (Shown.mk · _) (Output.empty_append _)

/-! ## A whole run -/

/-- What is logged while files are read and scanned. -/
def filesLog (logger : Log.Logger) (files : FileTree) (paths : List String) : String :=
  logger.writeAll (paths.map fun path => (fileAt files path).record) ++
    logger.writeAll
      ((paths.flatMap fun path => (scan (contentOf files path)).events).map .ofScanEvent)

/-- The sections of a run, one for each path. -/
def sections (format : DumpFormat) (files : FileTree) (paths : List String) : List String :=
  paths.map fun path => sectionOf format (1 < paths.length) (fileAt files path)

/-- The error lines of a run, together for each path. -/
def errorLines (files : FileTree) (paths : List String) : List (List String) :=
  paths.map fun path => errorLinesOf (fileAt files path)

/-- An outcome made up of what each file gives by itself. -/
structure Decomposes (outcome : Outcome) (logger : Log.Logger) (format : DumpFormat)
    (files : FileTree) (paths : List String) : Prop where
  stdout : outcome.output.stdout = String.join (sections format files paths)
  stderr : outcome.output.stderr =
    filesLog logger files paths ++ String.join (errorLines files paths).flatten
  quiet : logger.IsQuiet → filesLog logger files paths = ""
  failing : (∃ path ∈ paths, (scan (contentOf files path)).errors ≠ []) → outcome.exitCode = 65
  clean : (∀ path ∈ paths, (scan (contentOf files path)).errors = []) → outcome.exitCode = 0

theorem filesLog_of_isQuiet {logger : Log.Logger} (quiet : logger.IsQuiet) (files : FileTree)
    (paths : List String) : filesLog logger files paths = "" := by
  rw [filesLog, quiet.writeAll_map_eq (fun _ => rfl),
    quiet.writeAll_map_eq Log.Record.severity_ofScanEvent]
  rfl

theorem runFiles_eq {files : FileTree} {paths : List String}
    (readable : ∀ path ∈ paths, Readable files path) (logger : Log.Logger) (format : DumpFormat) :
    runFiles logger format files paths =
      { exitCode := scanExitCode
          (paths.any fun path => !(scan (contentOf files path)).errors.isEmpty)
        output :=
          ⟨String.join (sections format files paths),
            filesLog logger files paths ++ String.join (errorLines files paths).flatten⟩ } := by
  have scanned : scanAll ((paths.map (fileAt files)).map LoadedFile.source) =
      paths.map fun path => scan (contentOf files path) := by
    rw [scanAll, List.map_map, List.map_map]
    rfl
  have paired : paths.zip (paths.map fun path => scan (contentOf files path)) =
      (paths.map (fileAt files)).map fun file => (file.path, scan file.source) := by
    rw [List.map_map]
    exact List.map_prod_left_eq_zip.symm
  have told : (paths.map fun path => scan (contentOf files path)).flatMap ScanResult.events =
      paths.flatMap fun path => (scan (contentOf files path)).events := by
    rw [List.flatMap_map]
  have lines : (errorLines files paths).flatten = (paths.map (fileAt files)).flatMap errorLinesOf := by
    rw [errorLines, List.flatMap_map]
    rfl
  have shown := showFiles_scan format (1 < paths.length) (paths.map (fileAt files))
  rw [runFiles, loadFiles_of_readable readable]
  simp only [scanned, paired, told, shown, lines]
  rw [List.any_map, List.map_map, List.map_map, Output.err_append]
  rfl

theorem decomposes_runFiles {files : FileTree} {paths : List String}
    (readable : ∀ path ∈ paths, Readable files path) (logger : Log.Logger) (format : DumpFormat) :
    Decomposes (runFiles logger format files paths) logger format files paths := by
  rw [runFiles_eq readable]
  constructor
  · rfl
  · rfl
  · intro quiet
    exact filesLog_of_isQuiet quiet files paths
  · rintro ⟨path, among, faulty⟩
    have found : paths.any (fun path => !(scan (contentOf files path)).errors.isEmpty) = true := by
      rw [List.any_eq_true]
      exact ⟨path, among, by simpa using faulty⟩
    rw [found]
    rfl
  · intro clean
    have found : paths.any (fun path => !(scan (contentOf files path)).errors.isEmpty) = false := by
      rw [List.any_eq_false]
      intro path among
      simp [clean path among]
    rw [found]
    rfl

theorem exitCode_of_perm {files : FileTree} {paths others : List String}
    (permuted : paths.Perm others) (readable : ∀ path ∈ paths, Readable files path)
    (logger : Log.Logger) (format : DumpFormat) :
    (runFiles logger format files others).exitCode =
      (runFiles logger format files paths).exitCode := by
  have readableToo : ∀ path ∈ others, Readable files path :=
    fun path among => readable path (permuted.mem_iff.mpr among)
  rw [runFiles_eq readable, runFiles_eq readableToo]
  exact congrArg scanExitCode (permuted.any_eq).symm

theorem contentOf_congr {files changed : FileTree} {path : String}
    (same : changed.readText path = files.readText path) :
    contentOf changed path = contentOf files path := by
  rw [contentOf, same, contentOf]

theorem fileAt_congr {files changed : FileTree} {path : String}
    (same : changed.readText path = files.readText path) : fileAt changed path = fileAt files path :=
  congrArg (LoadedFile.mk path) (contentOf_congr same)

/-- A path that reads as before has its section and its error lines as before. -/
theorem getElem?_sections_congr (format : DumpFormat) {files changed : FileTree} {paths : List String}
    {index : Nat} {path : String} (here : paths[index]? = some path)
    (same : changed.readText path = files.readText path) :
    (sections format changed paths)[index]? = (sections format files paths)[index]? ∧
      (errorLines changed paths)[index]? = (errorLines files paths)[index]? := by
  have sameFile := fileAt_congr same
  constructor
  · rw [sections, sections, List.getElem?_map, List.getElem?_map, here, Option.map_some,
      Option.map_some, sameFile]
  · rw [errorLines, errorLines, List.getElem?_map, List.getElem?_map, here, Option.map_some,
      Option.map_some, sameFile]

/-- A run over files that can all be read is made up of what each file gives by itself.  So when some
files are changed only their sections and their error lines change, and when the paths are put in
another order so are the sections, and the exit code stays. -/
theorem runFiles_by_file {files : FileTree} {paths : List String}
    (readable : ∀ path ∈ paths, Readable files path) (logger : Log.Logger) (format : DumpFormat) :
    Decomposes (runFiles logger format files paths) logger format files paths ∧
      (∀ changed, (∀ path ∈ paths, Readable changed path) →
        Decomposes (runFiles logger format changed paths) logger format changed paths ∧
          ∀ (index : Nat) (path : String), paths[index]? = some path →
            changed.readText path = files.readText path →
              (sections format changed paths)[index]? = (sections format files paths)[index]? ∧
                (errorLines changed paths)[index]? = (errorLines files paths)[index]?) ∧
      ∀ others, paths.Perm others →
        Decomposes (runFiles logger format files others) logger format files others ∧
          (sections format files paths).Perm (sections format files others) ∧
          (runFiles logger format files others).exitCode =
            (runFiles logger format files paths).exitCode := by
  refine ⟨decomposes_runFiles readable logger format, ?_, ?_⟩
  · intro changed stillReadable
    refine ⟨decomposes_runFiles stillReadable logger format, ?_⟩
    intro index path here same
    exact getElem?_sections_congr format here same
  · intro others permuted
    have readableToo : ∀ path ∈ others, Readable files path :=
      fun path among => readable path (permuted.mem_iff.mpr among)
    refine ⟨decomposes_runFiles readableToo logger format, ?_,
      exitCode_of_perm permuted readable logger format⟩
    rw [sections, sections, permuted.length_eq]
    exact permuted.map _

/-- A clean file `a` and a faulty one `b`. -/
def mixedFiles : FileTree :=
  ⟨.directory [("a", .file "1".toUTF8), ("b", .file "@".toUTF8)], []⟩

/-- The same files with `b` repaired. -/
def repairedFiles : FileTree :=
  ⟨.directory [("a", .file "1".toUTF8), ("b", .file "2".toUTF8)], []⟩

/-- A run over both files, one of them twice, and the same run once `b` is repaired. -/
theorem runFiles_by_file_mixed :
    (∀ path ∈ ["a", "b", "a"], Readable mixedFiles path) ∧
      (runFiles ⟨.warnings, ""⟩ .text mixedFiles ["a", "b", "a"]).output.stdout =
        "\x1b[1m==> a <==\x1b[0m\nNUMBER 1 1.0\nEOF  null\n" ++
          "\x1b[1m==> b <==\x1b[0m\nEOF  null\n" ++
            "\x1b[1m==> a <==\x1b[0m\nNUMBER 1 1.0\nEOF  null\n" ∧
      (runFiles ⟨.warnings, ""⟩ .text mixedFiles ["a", "b", "a"]).output.stderr =
        "\x1b[2mb:1\x1b[0m \x1b[1m\x1b[31mError\x1b[39m\x1b[0m: Unexpected Character\n" ∧
      (runFiles ⟨.warnings, ""⟩ .text mixedFiles ["a", "b", "a"]).exitCode = 65 ∧
      (runFiles ⟨.warnings, ""⟩ .text mixedFiles ["b", "a", "a"]).exitCode = 65 ∧
      (sections .text repairedFiles ["a", "b", "a"])[2]? =
        some "\x1b[1m==> a <==\x1b[0m\nNUMBER 1 1.0\nEOF  null\n" := by
  have readable : ∀ path ∈ ["a", "b", "a"], Readable mixedFiles path := by
    have clean : Readable mixedFiles "a" := ⟨"1", rfl⟩
    have faulty : Readable mixedFiles "b" := ⟨"@", rfl⟩
    simp [clean, faulty]
  have stillReadable : ∀ path ∈ ["a", "b", "a"], Readable repairedFiles path := by
    have clean : Readable repairedFiles "a" := ⟨"1", rfl⟩
    have repaired : Readable repairedFiles "b" := ⟨"2", rfl⟩
    simp [clean, repaired]
  have faulty : (scan (contentOf mixedFiles "b")).errors ≠ [] := by
    have content : contentOf mixedFiles "b" = "@" := rfl
    rw [content]
    decide +kernel
  have byFile := runFiles_by_file readable ⟨.warnings, ""⟩ .text
  have stdout := byFile.1.stdout
  have stderr := byFile.1.stderr
  have failed := byFile.1.failing ⟨"b", by decide, faulty⟩
  have swapped : ["a", "b", "a"].Perm ["b", "a", "a"] := .swap _ _ _
  have unchanged := (byFile.2.1 repairedFiles stillReadable).2 2 "a" rfl rfl
  refine ⟨readable, stdout.trans ?_, stderr.trans ?_, failed,
    (byFile.2.2 _ swapped).2.2.trans failed, unchanged.1.trans ?_⟩
  · decide +kernel
  · decide +kernel
  · decide +kernel

/-! ## A file that cannot be read -/

/-- Why a file cannot be read, in the words of a complaint. -/
def causeText : FileFailure → String
  | .notFound => "No such file or directory (os error 2)"
  | .notDirectory => "Not a directory (os error 20)"
  | .isDirectory => "Is a directory (os error 21)"
  | .alreadyExists => "File exists (os error 17)"
  | .nameTooLong => "File name too long (os error 36)"
  | .zeroInPath => "file name contained an unexpected NUL byte"
  | .notText => "stream did not contain valid UTF-8"

theorem message_eq_causeText (failure : FileFailure) : failure.message = causeText failure := by
  cases failure <;> rfl

theorem unreadable_eq (logged path : String) (failure : FileFailure) :
    unreadable logged ("'" ++ path ++ "'") failure =
      { exitCode := 74
        output := .err (logged ++
          ("\x1b[1m\x1b[31mError\x1b[39m\x1b[0m: cannot read '" ++ path ++ "': " ++
            causeText failure ++ "\n")) } := by
  have opening : "\x1b[1m\x1b[31mError\x1b[39m\x1b[0m: " ++ ("cannot read " ++ "'") =
      "\x1b[1m\x1b[31mError\x1b[39m\x1b[0m: cannot read '" := rfl
  have closing : "'" ++ ": " = "': " := rfl
  rw [unreadable, complaint_eq, message_eq_causeText, ← opening, ← closing]
  simp only [String.append_assoc]
  rfl

theorem runFiles_of_unreadable (logger : Log.Logger) (format : DumpFormat) {files : FileTree}
    {before : List String} (readable : ∀ earlier ∈ before, Readable files earlier) {path : String}
    {failure : FileFailure} (fails : files.readText path = .error failure) (after : List String) :
    runFiles logger format files (before ++ path :: after) =
      { exitCode := 74
        output := .err
          (logger.writeAll (before.map fun earlier => (fileAt files earlier).record) ++
            ("\x1b[1m\x1b[31mError\x1b[39m\x1b[0m: cannot read '" ++ path ++ "': " ++
              causeText failure ++ "\n")) } := by
  have read : loadFiles files (before ++ path :: after) =
      (before.map (fileAt files), some ⟨path, failure⟩) := by
    rw [loadFiles_append readable, loadFiles, fails, List.append_nil]
  rw [runFiles, read]
  simp only [List.map_map, unreadable_eq]
  rfl

/-- If one of the files cannot be read, a run shows nothing of any of them, no dump and no scan error.
It complains of the first such file and of nothing else, whatever stands in the others. -/
theorem run_unreadable {arguments : List String} {surroundings : Surroundings}
    {options : CommandLine.Options} {paths : List String}
    (understood : Understood arguments surroundings options (.files paths))
    (unreadable : ∃ path ∈ paths, ¬ Readable surroundings.files path) :
    ∃ before path after failure, paths = before ++ path :: after ∧
      (∀ earlier ∈ before, Readable surroundings.files earlier) ∧
      surroundings.files.readText path = .error failure ∧
      (run arguments surroundings).exitCode = 74 ∧
      (run arguments surroundings).output.stdout = "" ∧
      (run arguments surroundings).output.stderr =
        (logger options surroundings).writeAll
            (before.map fun earlier => (fileAt surroundings.files earlier).record) ++
          ("\x1b[1m\x1b[31mError\x1b[39m\x1b[0m: cannot read '" ++ path ++ "': " ++
            causeText failure ++ "\n") ∧
      ((logger options surroundings).IsQuiet →
        (run arguments surroundings).output.stderr =
          "\x1b[1m\x1b[31mError\x1b[39m\x1b[0m: cannot read '" ++ path ++ "': " ++
            causeText failure ++ "\n") := by
  rcases exists_first_unreadable unreadable with
    ⟨before, path, after, failure, parts, readable, fails⟩
  have outcome := runFiles_of_unreadable (logger options surroundings) options.format readable fails
    after
  rw [understood.run_files, parts, outcome]
  refine ⟨before, path, after, failure, rfl, readable, fails, rfl, rfl, rfl, ?_⟩
  intro quiet
  have nothing := quiet.writeAll_map_eq
    (fun earlier => (rfl : (fileAt surroundings.files earlier).record.severity = .debug)) before
  exact (congrArg (· ++ _) nothing).trans String.empty_append

/-- A missing file behind a faulty one. -/
theorem run_unreadable_missing :
    Understood ["b", "c", "a"] (.bare mixedFiles .empty)
        ⟨["b", "c", "a"], none, false, .text, false⟩ (.files ["b", "c", "a"]) ∧
      (∃ path ∈ ["b", "c", "a"], ¬ Readable mixedFiles path) ∧
      (run ["b", "c", "a"] (.bare mixedFiles .empty)).exitCode = 74 ∧
      (run ["b", "c", "a"] (.bare mixedFiles .empty)).output.stdout = "" ∧
      (run ["b", "c", "a"] (.bare mixedFiles .empty)).output.stderr =
        "\x1b[1m\x1b[31mError\x1b[39m\x1b[0m: " ++
          "cannot read 'c': No such file or directory (os error 2)\n" := by
  have understood : Understood ["b", "c", "a"] (.bare mixedFiles .empty)
      ⟨["b", "c", "a"], none, false, .text, false⟩ (.files ["b", "c", "a"]) := ⟨rfl, rfl⟩
  have faulty : mixedFiles.readText "b" = .ok "@" := rfl
  have notFound : mixedFiles.readText "c" = .error .notFound := rfl
  have missing : ¬ Readable mixedFiles "c" := by
    rintro ⟨source, impossible⟩
    rw [notFound] at impossible
    cases impossible
  have unreadable : ∃ path ∈ ["b", "c", "a"], ¬ Readable mixedFiles path :=
    ⟨"c", by decide, missing⟩
  rcases run_unreadable understood unreadable with
    ⟨before, path, after, failure, parts, readable, fails, exitCode, stdout, _, quiet⟩
  have stderr := quiet (isQuiet_logger rfl rfl)
  -- The first path can be read and the second cannot, so it is the one that is named.
  have named : path = "c" ∧ failure = .notFound := by
    rcases before with _ | ⟨first, _ | ⟨second, others⟩⟩
    · cases parts
      exact absurd (faulty.symm.trans fails) (by simp)
    · cases parts
      cases notFound.symm.trans fails
      exact ⟨rfl, rfl⟩
    · injection parts with _ behind
      injection behind with isSecond _
      subst isSecond
      exact absurd (readable "c" (by simp)) missing
  rcases named with ⟨rfl, rfl⟩
  exact ⟨understood, unreadable, exitCode, stdout, stderr⟩

end Program
end LoxTokenizer
