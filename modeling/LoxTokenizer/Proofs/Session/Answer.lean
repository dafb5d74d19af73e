import LoxTokenizer.Proofs.Scan.Console
import LoxTokenizer.Session.Basic

namespace LoxTokenizer
namespace Session

/-!
# What an entry brings forth

All scans of a session share one reporter, so what an entry brings forth could depend on what was
scanned before it.  It does not.  Of the reporter nothing shows but its source name, which no entry
changes: the count starts anew with every source, and of what has been printed only the lines of the
present scan are looked at.  So an entry can be answered as if the session had just begun.
-/

/-- What a source contributes, from its scan alone. -/
def scanContribution (format : DumpFormat) (sourceName : Option String) (source : String) :
    Contribution where
  stdout := Dump.renderColored (scan source).tokens format
  messages :=
    (scan source).events.flatMap (ScanEvent.messages sourceName) ++
      [.record (scannedRecord (scan source).tokens.length (scan source).errors.length)]

namespace Answer

theorem contribution_ofSource (settings : Settings) (reporter : ConsoleReporter) (source : String) :
    (ofSource settings reporter source).contribution =
      scanContribution settings.format reporter.sourceName source := by
  have counted : (reportAll reporter.reset (scan source).errors).reported =
      (scan source).errors.length := by
    rw [ConsoleReporter.reportAll_eq]
    exact Nat.zero_add _
  simp only [ofSource, scanToConsole_eq, counted]
  rfl

/-! ## The source name is kept -/

section

variable (settings : Settings) (reporter : ConsoleReporter)

theorem sourceName_ofSource (source : String) :
    (ofSource settings reporter source).reporter.sourceName = reporter.sourceName := by
  simp only [ofSource, scanToConsole_eq, ConsoleReporter.reportAll_eq]
  rfl

theorem sourceName_ofFile (path : String) :
    (ofFile settings reporter path).reporter.sourceName = reporter.sourceName := by
  unfold ofFile
  split
  · exact sourceName_ofSource settings reporter _
  · rfl

theorem sourceName_ofCommand (invocation : Invocation) :
    (ofCommand settings reporter invocation).reporter.sourceName = reporter.sourceName := by
  rcases invocation with ⟨command, argument⟩
  cases command with
  | load =>
      cases argument with
      | some path => exact sourceName_ofFile settings reporter path
      | none => rfl
  | _ => rfl

theorem sourceName_ofEntry (entry : List Char) :
    (ofEntry settings reporter entry).reporter.sourceName = reporter.sourceName := by
  unfold ofEntry
  split
  · rfl
  · split
    · exact sourceName_ofCommand settings reporter _
    · exact sourceName_ofSource settings reporter _

end

/-! ## Two sessions, one entry -/

section

variable {first second : Settings} {reporter other : ConsoleReporter}
  (sameFormat : first.format = second.format) (sameName : reporter.sourceName = other.sourceName)

include sameFormat sameName

theorem contribution_ofSource_congr (source : String) :
    (ofSource first reporter source).contribution =
      (ofSource second other source).contribution := by
  rw [contribution_ofSource, contribution_ofSource, sameFormat, sameName]

theorem contribution_ofFile_congr {path : String}
    (sameFile : first.files.readText path = second.files.readText path) :
    (ofFile first reporter path).contribution = (ofFile second other path).contribution := by
  rw [ofFile, ofFile, ← sameFile]
  cases first.files.readText path with
  | ok source => exact contribution_ofSource_congr sameFormat sameName source
  | error failure => rfl

theorem contribution_ofCommand_congr (invocation : Invocation)
    (sameFile : ∀ path, invocation = ⟨.load, some path⟩ →
      first.files.readText path = second.files.readText path) :
    (ofCommand first reporter invocation).contribution =
      (ofCommand second other invocation).contribution := by
  rcases invocation with ⟨command, argument⟩
  cases command with
  | load =>
      cases argument with
      | some path => exact contribution_ofFile_congr sameFormat sameName (sameFile path rfl)
      | none => rfl
  | _ => rfl

/-- Sessions with the same format, whose reporters have the same name, answer an entry alike,
provided that they find the same in a file that it loads. -/
theorem contribution_ofEntry_congr (entry : List Char)
    (sameFile : ∀ path, Invocation.ofText? entry = some ⟨.load, some path⟩ →
      first.files.readText path = second.files.readText path) :
    (ofEntry first reporter entry).contribution = (ofEntry second other entry).contribution := by
  by_cases blank : (Text.trim entry).isEmpty = true
  · rw [ofEntry, ofEntry, if_pos blank, if_pos blank]
  · rw [ofEntry, ofEntry, if_neg blank, if_neg blank]
    cases isCommand : Invocation.ofText? entry with
    | some invocation =>
        apply contribution_ofCommand_congr sameFormat sameName
        intro path loads
        exact sameFile path (by rw [isCommand, loads])
    | none => exact contribution_ofSource_congr sameFormat sameName _

end

end Answer

/-! ## As if the session had just begun -/

namespace Settings

variable (settings : Settings)

def contribution (entry : List Char) : Contribution :=
  (Answer.ofEntry settings freshReporter entry).contribution

def scanAndShow (source : String) : Output :=
  (Answer.ofSource settings freshReporter source).contribution.output settings.logger

def execute (invocation : Invocation) : Output :=
  (Answer.ofCommand settings freshReporter invocation).contribution.output settings.logger

def answer (entry : List Char) : Output := (settings.contribution entry).output settings.logger

end Settings

/-- Whatever a session went through before, an entry contributes the same. -/
theorem contribution_ofEntry (settings : Settings) {reporter : ConsoleReporter}
    (unnamed : reporter.sourceName = none) (entry : List Char) :
    (Answer.ofEntry settings reporter entry).contribution = settings.contribution entry :=
  Answer.contribution_ofEntry_congr rfl unnamed entry fun _ _ => rfl

/-- A blank entry is no command. -/
theorem ofText?_of_blank {entry : List Char} (blank : Text.trim entry = []) :
    Invocation.ofText? entry = none := by
  unfold Invocation.ofText?
  rw [blank]

theorem exists_of_leaves {entry : List Char} (leaving : leaves entry = true) :
    ∃ argument, Invocation.ofText? entry = some ⟨.exit, argument⟩ := by
  unfold leaves at leaving
  split at leaving
  · rename_i invocation isCommand
    rcases invocation with ⟨command, argument⟩
    have exits : command = .exit := of_decide_eq_true leaving
    rw [exits] at isCommand
    exact ⟨argument, isCommand⟩
  · cases leaving

/-- Leaving the session brings forth nothing. -/
theorem ofEntry_of_leaves (settings : Settings) (reporter : ConsoleReporter) {entry : List Char}
    (leaving : leaves entry = true) :
    Answer.ofEntry settings reporter entry = ⟨.nothing, reporter⟩ := by
  rcases exists_of_leaves leaving with ⟨argument, isCommand⟩
  unfold Answer.ofEntry
  split
  · rfl
  · rw [isCommand]
    rfl

/-- What an entry has scanned: its own text, or a file that it loads. -/
inductive Scans (files : FileTree) (entry : List Char) : String → Prop where
  | typed (some : Text.trim entry ≠ []) (noCommand : Invocation.ofText? entry = none) :
      Scans files entry (String.ofList entry)
  | loaded {path source : String}
      (isCommand : Invocation.ofText? entry = some ⟨.load, some path⟩)
      (found : files.readText path = .ok source) : Scans files entry source

section

variable (settings : Settings) {entry : List Char}

/-- A command is not blank. -/
theorem isEmpty_trim_of_command {invocation : Invocation}
    (isCommand : Invocation.ofText? entry = some invocation) :
    (Text.trim entry).isEmpty = false := by
  cases trimmed : Text.trim entry with
  | nil =>
      rw [ofText?_of_blank trimmed] at isCommand
      cases isCommand
  | cons char rest => rfl

theorem contribution_of_scans {source : String} (scans : Scans settings.files entry source) :
    settings.contribution entry = scanContribution settings.format none source := by
  rw [Settings.contribution, Answer.ofEntry]
  cases scans with
  | typed some noCommand =>
      rw [List.isEmpty_eq_false_iff.mpr some, noCommand]
      exact Answer.contribution_ofSource settings freshReporter _
  | loaded isCommand found =>
      rw [isEmpty_trim_of_command isCommand, isCommand]
      simp only [Answer.ofCommand, Answer.ofFile, found]
      exact Answer.contribution_ofSource settings freshReporter _

theorem answer_of_blank (blank : Text.trim entry = []) : settings.answer entry = .empty := by
  rw [Settings.answer, Settings.contribution, Answer.ofEntry, blank]
  rfl

theorem answer_of_command {invocation : Invocation}
    (isCommand : Invocation.ofText? entry = some invocation) :
    settings.answer entry = settings.execute invocation := by
  rw [Settings.answer, Settings.contribution, Answer.ofEntry, isEmpty_trim_of_command isCommand,
    isCommand]
  rfl

theorem answer_of_source (some : Text.trim entry ≠ []) (noCommand : Invocation.ofText? entry = none) :
    settings.answer entry = settings.scanAndShow (String.ofList entry) := by
  have notBlank : (Text.trim entry).isEmpty = false := List.isEmpty_eq_false_iff.mpr some
  rw [Settings.answer, Settings.contribution, Answer.ofEntry, notBlank, noCommand]
  rfl

end

/-! ## What is for debugging only -/

theorem isModest_ofSource (settings : Settings) (reporter : ConsoleReporter) (source : String) :
    ∀ message ∈ (Answer.ofSource settings reporter source).contribution.messages,
      message.IsModest := by
  rw [Answer.contribution_ofSource]
  intro message among
  rcases List.mem_append.mp among with told | counted
  · exact isModest_events _ _ message told
  · cases List.mem_singleton.mp counted
    rfl

theorem isModest_line (text : String) :
    ∀ message ∈ (Contribution.line text).messages, message.IsModest := by
  intro message among
  cases List.mem_singleton.mp among
  trivial

theorem isModest_nothing : ∀ message ∈ Contribution.nothing.messages, message.IsModest := by
  intro message among
  cases among

theorem isModest_ofFile (settings : Settings) (reporter : ConsoleReporter) (path : String) :
    ∀ message ∈ (Answer.ofFile settings reporter path).contribution.messages, message.IsModest := by
  unfold Answer.ofFile
  split
  · exact isModest_ofSource settings reporter _
  · exact isModest_line _

theorem isModest_ofCommand (settings : Settings) (reporter : ConsoleReporter)
    (invocation : Invocation) :
    ∀ message ∈ (Answer.ofCommand settings reporter invocation).contribution.messages,
      message.IsModest := by
  rcases invocation with ⟨command, argument⟩
  cases command with
  | load =>
      cases argument with
      | some path => exact isModest_ofFile settings reporter path
      | none => exact isModest_line _
  | _ => exact isModest_nothing

/-- What an entry has logged is for debugging only. -/
theorem isModest_contribution (settings : Settings) (entry : List Char) :
    ∀ message ∈ (settings.contribution entry).messages, message.IsModest := by
  rw [Settings.contribution]
  unfold Answer.ofEntry
  split
  · exact isModest_nothing
  · split
    · exact isModest_ofCommand settings freshReporter _
    · exact isModest_ofSource settings freshReporter _

theorem gatheringMessages_of_isQuiet {settings : Settings} (quiet : settings.logger.IsQuiet)
    (attempts : List (List Char)) : settings.gatheringMessages attempts = "" := by
  rw [Settings.gatheringMessages, quiet.write_eq rfl,
    quiet.writeAll_map_eq Log.Record.severity_ofScanEvent, String.empty_append]

end Session
end LoxTokenizer
