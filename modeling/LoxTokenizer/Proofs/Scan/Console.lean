import LoxTokenizer.Proofs.Log.Quiet
import LoxTokenizer.Proofs.Scan.Report
import LoxTokenizer.Proofs.Scan.Stream

namespace LoxTokenizer

open Scan

/-!
# Scanning to a console

A scan never looks at the sink that it reports to.  So it finds the same tokens and the same errors
whether the errors are printed as they are met or are kept in a log, and the reporter that was there
during the scan ends up just like one that is told of the logged errors afterwards.
-/

/-- Whatever the sink, a source is scanned in the same way. -/
theorem drain_ofSource {σ : Type} [ErrorSink σ] (sink : σ) (source : String) :
    (TokenStream.ofSource source sink).drain.tokens = (scan source).tokens ∧
      (TokenStream.ofSource source sink).drain.stream.sink = reportAll sink (scan source).errors ∧
      (TokenStream.ofSource source sink).drain.events = (scan source).events := by
  have unfinished : (TokenStream.ofSource source sink).finished = false := rfl
  have stands := Cursor.standsAt_ofText source.toList
  rcases TokenStream.drain_eq unfinished stands with ⟨tokens, behind, events⟩
  rw [scan, scanText_eq]
  refine ⟨tokens, behind, ?_⟩
  rw [events]
  simp [placedPieces, TokenStream.ofSource, TokenStream.ofText]

/-- To report errors to a sink while scanning is to scan first and report the logged errors then. -/
theorem scanInto_eq {σ : Type} [ErrorSink σ] (sink : σ) (source : String) :
    scanInto sink source = ((scan source).tokens, reportAll sink (scan source).errors) := by
  rcases drain_ofSource sink source with ⟨tokens, behind, _⟩
  rw [scanInto, tokens, behind]

/-- A scan tells of each of its errors, and then of the end. -/
theorem exists_events_eq (source : String) :
    ∃ tokens lines, (scan source).events =
      (scan source).errors.map .scanError ++ [.scanComplete tokens lines] := by
  rw [scan, scanText_eq]
  exact ⟨_, _, rfl⟩

/-- What is said of one event. -/
def ScanEvent.messages (sourceName : Option String) (event : ScanEvent) : List Message :=
  .record (.ofScanEvent event) ::
    match event with
    | .scanError error => [.line (error.reportLine sourceName)]
    | .scanComplete _ _ => []

theorem scanMessages_errors (sourceName : Option String) (errors : List ScanError)
    (tokens lines : Nat) :
    scanMessages (errors.map .scanError ++ [.scanComplete tokens lines])
        (errors.map (ScanError.reportLine sourceName)) =
      (errors.map ScanEvent.scanError ++ [ScanEvent.scanComplete tokens lines]).flatMap
        (ScanEvent.messages sourceName) := by
  induction errors with
  | nil => rfl
  | cons error later ih =>
      rw [List.map_cons, List.map_cons, List.cons_append, List.flatMap_cons, ← ih]
      rfl

/-- What a scan to a console amounts to.  Of the reporter only its source name shows. -/
theorem scanToConsole_eq (reporter : ConsoleReporter) (source : String) :
    scanToConsole reporter source =
      { tokens := (scan source).tokens
        messages := (scan source).events.flatMap (ScanEvent.messages reporter.sourceName)
        reporter := reportAll reporter (scan source).errors } := by
  rcases drain_ofSource reporter source with ⟨tokens, behind, events⟩
  rcases exists_events_eq source with ⟨count, lines, told⟩
  have printed : (reportAll reporter (scan source).errors).printed.drop reporter.printed.length =
      (scan source).errors.map (ScanError.reportLine reporter.sourceName) := by
    rw [ConsoleReporter.reportAll_reportLine]
    exact List.drop_left
  rw [scanToConsole, tokens, behind, events, printed, told, scanMessages_errors]

/-- A scan logs for debugging only. -/
theorem isModest_events (sourceName : Option String) (events : List ScanEvent) :
    ∀ message ∈ events.flatMap (ScanEvent.messages sourceName), message.IsModest := by
  intro message among
  rcases List.mem_flatMap.mp among with ⟨event, _, said⟩
  rcases List.mem_cons.mp said with logged | line
  · subst logged
    exact Log.Record.severity_ofScanEvent event
  · cases event with
    | scanError error =>
        cases List.mem_singleton.mp line
        trivial
    | scanComplete tokens lines => cases line

/-- Of what a scan says, the error lines are for the reader. -/
theorem filterMap_line_events (sourceName : Option String) (source : String) :
    ((scan source).events.flatMap (ScanEvent.messages sourceName)).filterMap Message.line? =
      (scan source).errors.map (ScanError.reportLine sourceName) := by
  rcases exists_events_eq source with ⟨tokens, lines, told⟩
  rw [told]
  generalize (scan source).errors = errors
  induction errors with
  | nil => rfl
  | cons error later ih =>
      rw [List.map_cons, List.map_cons, ← ih]
      rfl

namespace ConsoleReporter

theorem hadError_reportAll (sourceName : Option String) (errors : List ScanError) :
    (reportAll (ofSource sourceName) errors).hadError = !errors.isEmpty := by
  rw [reportAll_eq]
  cases errors with
  | nil => rfl
  | cons error later => simp [hadError, ofSource]

theorem printed_reportAll (sourceName : Option String) (errors : List ScanError) :
    (reportAll (ofSource sourceName) errors).printed =
      errors.map (ScanError.reportLine sourceName) := by
  rw [reportAll_reportLine]
  rfl

end ConsoleReporter

end LoxTokenizer
