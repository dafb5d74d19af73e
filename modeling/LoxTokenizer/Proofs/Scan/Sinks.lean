import LoxTokenizer.Proofs.Scan.Console

namespace LoxTokenizer

/-!
# Where errors go

A scan hands each error to whatever sink it was given and never asks the sink anything.  So all sinks
are told of the same errors in the same order, each makes of them what it makes of any errors, and no
sink changes the tokens.

A sink may be used for many scans, be told of errors that come from elsewhere, and be made to forget.
What it knows then is what was reported since it last forgot: this is kept by each use, and so it
holds after any number of them.  A console does not keep errors, but it counts just as many as a log
would keep.
-/

/-! ## One scan -/

/-- A listener is told of the errors one by one. -/
theorem reportAll_listener {α : Type} (listener : Listener α) (errors : List ScanError) :
    reportAll listener errors =
      { listener with
        state := (errors.map fun error => (error.line, error.message)).foldl
          (fun state notice => listener.hear state notice.1 notice.2) listener.state } := by
  induction errors generalizing listener with
  | nil => rfl
  | cons error later ih => exact ih (ErrorSink.report listener error)

theorem told_reportAll (notices : Notices) (errors : List ScanError) :
    (reportAll notices errors).told =
      notices.told ++ errors.map fun error => (error.line, error.message) := by
  induction errors generalizing notices with
  | nil => exact (List.append_nil _).symm
  | cons error later ih =>
      have behind := ih (ErrorSink.report notices error)
      rw [reportAll_cons, behind]
      exact List.append_assoc notices.told [(error.line, error.message)] _

/-- Whoever holds a sink only hands errors on. -/
theorem reportAll_handle {σ : Type} [ErrorSink σ] (handle : Handle σ) (errors : List ScanError) :
    reportAll handle errors = ⟨reportAll handle.held errors⟩ := by
  induction errors generalizing handle with
  | nil => rfl
  | cons error later ih => exact ih (ErrorSink.report handle error)

/-! ## Many uses -/

/-- What can be done with a sink that can be made to forget. -/
inductive Use where
  | scan (source : String)
  | report (error : ScanError)
  | clear
  deriving DecidableEq

/-- A sink that can be made to forget what it was told. -/
class Clearable (σ : Type) where
  clear : σ → σ

instance : Clearable ErrorLog := ⟨ErrorLog.clear⟩

instance : Clearable ConsoleReporter := ⟨ConsoleReporter.reset⟩

namespace Use

/-- The errors that a use reports. -/
def errors : Use → List ScanError
  | .scan source => (LoxTokenizer.scan source).errors
  | .report error => [error]
  | .clear => []

section

variable {σ : Type} [ErrorSink σ] [Clearable σ]

def apply (sink : σ) : Use → σ
  | .scan source => (scanInto sink source).2
  | .report error => ErrorSink.report sink error
  | .clear => Clearable.clear sink

/-- The sink behind any number of uses. -/
def applyAll (sink : σ) (uses : List Use) : σ := uses.foldl apply sink

/-- A use reports its errors, unless it makes the sink forget. -/
theorem apply_of_ne_clear {use : Use} (kept : use ≠ .clear) (sink : σ) :
    use.apply sink = reportAll sink use.errors := by
  cases use with
  | scan source => rw [apply, scanInto_eq, errors]
  | report error => rfl
  | clear => exact absurd rfl kept

end

/-- The uses behind the last one that made the sink forget; all of them, if none did. -/
def sinceClear (uses : List Use) : List Use := (uses.reverse.takeWhile (· ≠ .clear)).reverse

/-- The errors that the uses since then have reported. -/
def errorsSince (uses : List Use) : List ScanError := (sinceClear uses).flatMap errors

theorem sinceClear_append {earlier later : List Use} (never : .clear ∉ later)
    (last : ∀ use ∈ earlier.getLast?, use = .clear) : sinceClear (earlier ++ later) = later := by
  have kept : ∀ use ∈ later.reverse, decide (use ≠ .clear) = true := by
    intro use member
    apply decide_eq_true
    rintro rfl
    exact never (List.mem_reverse.mp member)
  have stopped : earlier.reverse.takeWhile (· ≠ .clear) = [] := by
    cases behind : earlier.reverse with
    | nil => rfl
    | cons use more =>
        have isLast : earlier.getLast? = some use := by
          rw [← List.head?_reverse, behind, List.head?_cons]
        exact List.takeWhile_cons_of_neg (by simp [last use isLast])
  rw [sinceClear, List.reverse_append, List.takeWhile_append_of_pos kept, stopped,
    List.append_nil, List.reverse_reverse]

/-- Where something made the sink forget, there is a last time that it did. -/
theorem exists_last_clear {uses : List Use} (forgets : .clear ∈ uses) :
    ∃ earlier later, uses = earlier ++ .clear :: later ∧ .clear ∉ later := by
  rcases List.eq_append_cons_of_mem (List.mem_reverse.mpr forgets) with
    ⟨later, earlier, divided, never⟩
  refine ⟨earlier.reverse, later.reverse, ?_, ?_⟩
  · rw [← List.reverse_reverse uses, divided]
    simp
  · rwa [List.mem_reverse]

section

variable {σ : Type} [ErrorSink σ] [Clearable σ]

/-- Uses of which none makes the sink forget report their errors one after another. -/
theorem applyAll_of_not_mem {uses : List Use} (never : .clear ∉ uses) (sink : σ) :
    applyAll sink uses = reportAll sink (uses.flatMap errors) := by
  induction uses generalizing sink with
  | nil => rfl
  | cons use later ih =>
      have notHere : use ≠ .clear := by
        rintro rfl
        exact never List.mem_cons_self
      have notLater : .clear ∉ later := fun behind => never (List.mem_cons_of_mem _ behind)
      have here := apply_of_ne_clear notHere sink
      rw [applyAll, List.foldl_cons, here, List.flatMap_cons, reportAll_append]
      exact ih notLater _

/-- A sink that was never made to forget has been told of all errors. -/
theorem applyAll_unforgotten {uses : List Use} (never : .clear ∉ uses) (sink : σ) :
    applyAll sink uses = reportAll sink (errorsSince uses) := by
  have all : sinceClear uses = uses := @sinceClear_append [] uses never (by simp)
  rw [errorsSince, all, applyAll_of_not_mem never]

/-- A sink that was made to forget has since been told of the errors since then. -/
theorem exists_applyAll_forgotten {uses : List Use} (forgets : .clear ∈ uses) (sink : σ) :
    ∃ before : σ, applyAll sink uses = reportAll (Clearable.clear before) (errorsSince uses) := by
  rcases exists_last_clear forgets with ⟨earlier, later, rfl, never⟩
  have since : sinceClear (earlier ++ .clear :: later) = later := by
    rw [List.append_cons]
    exact sinceClear_append never (by simp)
  refine ⟨applyAll sink earlier, ?_⟩
  rw [errorsSince, since, ← applyAll_of_not_mem never, applyAll, List.foldl_append]
  rfl

end

end Use

/-- A log knows of the errors since it was last cleared, and of what it knew before if it never
was. -/
theorem ErrorLog.errors_applyAll (log : ErrorLog) (uses : List Use) :
    (Use.applyAll log uses).errors =
      (if .clear ∈ uses then [] else log.errors) ++ Use.errorsSince uses := by
  by_cases forgets : .clear ∈ uses
  · rcases Use.exists_applyAll_forgotten forgets log with ⟨before, same⟩
    rw [same, if_pos forgets, errors_reportAll]
    rfl
  · rw [if_neg forgets, Use.applyAll_unforgotten forgets, errors_reportAll]

namespace ConsoleReporter

/-- A console counts the errors since it was last reset. -/
theorem reported_applyAll (reporter : ConsoleReporter) (uses : List Use) :
    (Use.applyAll reporter uses).reported =
      (if .clear ∈ uses then 0 else reporter.reported) + (Use.errorsSince uses).length := by
  by_cases forgets : .clear ∈ uses
  · rcases Use.exists_applyAll_forgotten forgets reporter with ⟨before, same⟩
    rw [same, if_pos forgets, reportAll_eq]
    rfl
  · rw [if_neg forgets, Use.applyAll_unforgotten forgets, reportAll_eq]

/-- What a console has printed stays printed: a line for each error, whatever is forgotten. -/
theorem printed_applyAll (reporter : ConsoleReporter) (uses : List Use) :
    (Use.applyAll reporter uses).printed =
      reporter.printed ++ (uses.flatMap Use.errors).map (ScanError.reportLine reporter.sourceName) := by
  induction uses generalizing reporter with
  | nil => exact (List.append_nil _).symm
  | cons use later ih =>
      have behind := ih (use.apply reporter)
      rw [List.flatMap_cons, List.map_append, ← List.append_assoc]
      by_cases forgets : use = .clear
      · subst forgets
        rw [Use.errors, List.map_nil, List.append_nil]
        exact behind
      · rw [Use.apply_of_ne_clear forgets, reportAll_reportLine] at behind
        rw [← behind, ← reportAll_reportLine, ← Use.apply_of_ne_clear forgets]
        rfl

end ConsoleReporter

/-! ## All sinks -/

theorem scanInto_handle {σ : Type} [ErrorSink σ] (sink : σ) (source : String) :
    scanInto (Handle.mk sink) source = ((scanInto sink source).1, ⟨(scanInto sink source).2⟩) := by
  rw [scanInto_eq, scanInto_eq, reportAll_handle]

/-- No sink changes what is scanned, and all are told of the same errors in the same order: a log
keeps them behind what it kept before, a listener hears the line and the message of each, a console
prints a line for each and counts them, and a sink that is lent or boxed is told just what it would be
told otherwise.  However often a log or a console is used and made to forget, it knows of the errors
since it last forgot, or since the beginning if it never did, and it had an error exactly if there is
one among those. -/
theorem scanInto_any_sink :
    (∀ (σ : Type) [ErrorSink σ] (sink : σ) (source : String),
      (scanInto sink source).1 = (scan source).tokens ∧
        scanInto (Handle.mk sink) source =
          ((scan source).tokens, ⟨(scanInto sink source).2⟩)) ∧
    (∀ (known : List ScanError) (source : String),
      (scanInto (ErrorLog.mk known) source).2.errors = known ++ (scan source).errors) ∧
    (∀ (α : Type) (listener : Listener α) (source : String),
      (scanInto listener source).2.state =
        ((scan source).errors.map fun error => (error.line, error.message)).foldl
          (fun state notice => listener.hear state notice.1 notice.2) listener.state) ∧
    (∀ (notices : Notices) (source : String),
      (scanInto notices source).2.told =
        notices.told ++ (scan source).errors.map fun error => (error.line, error.message)) ∧
    (∀ (reporter : ConsoleReporter) (source : String),
      (scanInto reporter source).2 =
        { reporter with
          reported := reporter.reported + (scan source).errors.length
          printed := reporter.printed ++
            (scan source).errors.map (ScanError.reportLine reporter.sourceName) }) ∧
    (∀ (known : List ScanError) (uses : List Use),
      let expected := (if .clear ∈ uses then [] else known) ++ Use.errorsSince uses
      (Use.applyAll (ErrorLog.mk known) uses).errors = expected ∧
        ((Use.applyAll (ErrorLog.mk known) uses).hadError = true ↔ expected ≠ [])) ∧
    (∀ (reporter : ConsoleReporter) (uses : List Use),
      let expected :=
        (if .clear ∈ uses then 0 else reporter.reported) + (Use.errorsSince uses).length
      (Use.applyAll reporter uses).reported = expected ∧
        ((Use.applyAll reporter uses).hadError = true ↔ 0 < expected) ∧
        (Use.applyAll reporter uses).printed = reporter.printed ++
          (uses.flatMap Use.errors).map (ScanError.reportLine reporter.sourceName)) := by
  refine ⟨?_, ?_, ?_, ?_, ?_, ?_, ?_⟩
  · intro σ _ sink source
    rw [scanInto_handle, scanInto_eq]
    exact ⟨rfl, rfl⟩
  · intro known source
    rw [scanInto_eq, ErrorLog.errors_reportAll]
  · intro α listener source
    rw [scanInto_eq, reportAll_listener]
  · intro notices source
    rw [scanInto_eq, told_reportAll]
  · intro reporter source
    rw [scanInto_eq, ConsoleReporter.reportAll_reportLine]
  · intro known uses expected
    have knows : (Use.applyAll (ErrorLog.mk known) uses).errors = expected :=
      ErrorLog.errors_applyAll (ErrorLog.mk known) uses
    refine ⟨knows, ?_⟩
    rw [ErrorLog.hadError, knows]
    simp
  · intro reporter uses expected
    have counts : (Use.applyAll reporter uses).reported = expected :=
      ConsoleReporter.reported_applyAll reporter uses
    refine ⟨counts, ?_, ConsoleReporter.printed_applyAll reporter uses⟩
    rw [ConsoleReporter.hadError, counts]
    exact decide_eq_true_iff

end LoxTokenizer
