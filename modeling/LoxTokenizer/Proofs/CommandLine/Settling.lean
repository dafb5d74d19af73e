import LoxTokenizer.Proofs.CommandLine.Spelling

namespace LoxTokenizer
namespace CommandLine

/-!
# Settling what was said

The reader of a command line keeps something pending, so what it has taken in shows only when that is
looked at.  The invariant of reading therefore speaks of the progress that is settled so: `Owes` says
that what is settled and what is still to be said make up the settings together.  At the start
everything is owed, each way to take in a saying keeps the invariant, and when nothing is owed the
settings are there.
-/

@[simp]
theorem ok_bind {α β : Type} (value : α) (next : α → Except Refusal β) :
    (Except.ok value >>= next) = next value :=
  rfl

/-- The names of formats are told apart. -/
theorem format?_spelling (wanted : DumpFormat) : format? wanted.spelling = some wanted := by
  cases wanted <;> rfl

def Switch.flag : Switch → Flag
  | .interactive => .interactive
  | .verbose => .verbose

def Choice.option : Choice → ValueOption
  | .eval _ => .eval
  | .format _ => .format

/-- A settled progress and what is still to be said make up settings. -/
structure Owes (settings : Settings) (settled : Progress) (sayings : List Saying) : Prop where
  files : settled.files ++ sayings.filterMap Saying.file? = settings.files
  eval : settled.eval.toList ++ sayings.filterMap Saying.code? = settings.eval.toList
  interactive : settled.interactive.toNat + sayings.count (.switch .interactive) =
    settings.interactive.toNat
  format : settled.format.toList ++ sayings.filterMap Saying.format? = settings.format.toList
  verbose : settled.verbose.toNat + sayings.count (.switch .verbose) = settings.verbose.toNat

/-- Reading stands where some sayings are still to come. -/
def Stands (settings : Settings) (progress : Progress) (sayings : List Saying) : Prop :=
  ∃ settled, progress.settle = .ok settled ∧ Owes settings settled sayings

namespace Progress

/-- A settled progress that a saying is added to. -/
@[simp]
def heed (settled : Progress) : Saying → Progress
  | .file path => { settled with files := settled.files ++ [path] }
  | .switch .interactive => { settled with interactive := true }
  | .switch .verbose => { settled with verbose := true }
  | .choice (.eval code) => { settled with eval := some code }
  | .choice (.format wanted) => { settled with format := some wanted }

@[simp]
theorem heed_pending (settled : Progress) (saying : Saying) :
    (settled.heed saying).pending = settled.pending := by
  fun_cases heed settled saying <;> rfl

theorem settle_of_nothing {progress : Progress} (nothing : progress.pending = .nothing) :
    progress.settle = .ok progress := by
  rw [settle, nothing]

/-- Nothing is pending any more once it has been looked at. -/
theorem pending_of_settle {progress settled : Progress} (found : progress.settle = .ok settled) :
    settled.pending = .nothing := by
  revert found
  fun_cases settle progress with
  | case1 nothing =>
      rintro ⟨⟩
      exact nothing
  | case2 | case3 | case4 | case6 | case8 | case9 => rintro ⟨⟩
  | case5 | case7 | case10 =>
      rintro ⟨⟩
      rfl

/-- Something settled stays so when a saying is added. -/
theorem settle_heed {progress settled : Progress} (found : progress.settle = .ok settled)
    (saying : Saying) : (settled.heed saying).settle = .ok (settled.heed saying) :=
  settle_of_nothing (by rw [heed_pending, pending_of_settle found])

end Progress

theorem eq_of_toList_eq {α : Type} {first second : Option α} (same : first.toList = second.toList) :
    first = second := by
  cases first <;> cases second <;> cases same <;> rfl

theorem eq_of_toNat_eq {first second : Bool} (same : first.toNat = second.toNat) :
    first = second := by
  cases first <;> cases second <;> cases same <;> rfl

/-- An option that a list with more members fits behind is empty. -/
theorem eq_none_of_toList_append_cons {α : Type} {taken whole : Option α} {member : α}
    {later : List α} (together : taken.toList ++ member :: later = whole.toList) : taken = none := by
  cases taken with
  | none => rfl
  | some first => cases whole <;> cases together

theorem eq_false_of_toNat_add {taken whole : Bool} {more : Nat}
    (together : taken.toNat + (more + 1) = whole.toNat) : taken = false := by
  cases taken with
  | false => rfl
  | true =>
      have atMost := whole.toNat_le
      rw [Bool.toNat_true] at together
      omega

namespace Owes

variable {settings : Settings} {settled : Progress} {later : List Saying}

theorem interactive_eq_false
    (owes : Owes settings settled (.switch .interactive :: later)) : settled.interactive = false := by
  have together := owes.interactive
  rw [List.count_cons_self] at together
  exact eq_false_of_toNat_add together

theorem verbose_eq_false
    (owes : Owes settings settled (.switch .verbose :: later)) : settled.verbose = false := by
  have together := owes.verbose
  rw [List.count_cons_self] at together
  exact eq_false_of_toNat_add together

theorem eval_eq_none {code : String}
    (owes : Owes settings settled (.choice (.eval code) :: later)) : settled.eval = none :=
  eq_none_of_toList_append_cons owes.eval

theorem format_eq_none {wanted : DumpFormat}
    (owes : Owes settings settled (.choice (.format wanted) :: later)) : settled.format = none :=
  eq_none_of_toList_append_cons owes.format

/-- What is said moves from what is owed to what is settled. -/
theorem heed {saying : Saying} (owes : Owes settings settled (saying :: later)) :
    Owes settings (settled.heed saying) later := by
  -- Of what a saying is about, the account is moved on; the others are as they were.
  cases saying with
  | file path =>
      exact ⟨by simpa using owes.files, owes.eval, by simpa using owes.interactive, owes.format,
        by simpa using owes.verbose⟩
  | switch switch =>
      cases switch with
      | interactive =>
          have together := owes.interactive
          rw [owes.interactive_eq_false, List.count_cons_self] at together
          exact ⟨owes.files, owes.eval, by simpa [Nat.add_comm] using together, owes.format,
            by simpa using owes.verbose⟩
      | verbose =>
          have together := owes.verbose
          rw [owes.verbose_eq_false, List.count_cons_self] at together
          exact ⟨owes.files, owes.eval, by simpa using owes.interactive, owes.format,
            by simpa [Nat.add_comm] using together⟩
  | choice choice =>
      cases choice with
      | eval code =>
          have together := owes.eval
          rw [owes.eval_eq_none] at together
          exact ⟨owes.files, together, by simpa using owes.interactive, owes.format,
            by simpa using owes.verbose⟩
      | format wanted =>
          have together := owes.format
          rw [owes.format_eq_none] at together
          exact ⟨owes.files, owes.eval, by simpa using owes.interactive, together,
            by simpa using owes.verbose⟩

end Owes

/-! ## Taking in one saying -/

namespace Progress

variable {settings : Settings} {progress settled : Progress} {later : List Saying}

/-- A value that is looked at is heeded. -/
theorem settle_held {choice : Choice} (found : progress.settle = .ok settled)
    (owes : Owes settings settled (.choice choice :: later)) :
    { settled with pending := Pending.ofOption (some choice.text) choice.option }.settle =
      .ok (settled.heed (.choice choice)) := by
  have nothing := pending_of_settle found
  rcases settled with ⟨files, eval, interactive, format, verbose, pending⟩
  cases nothing
  cases choice with
  | eval code =>
      have free := owes.eval_eq_none
      dsimp only at free
      subst free
      rfl
  | format wanted =>
      have free := owes.format_eq_none
      dsimp only at free
      subst free
      simp [settle, Pending.ofOption, Choice.option, Choice.text, format?_spelling]

/-- With no value waited for, an argument that is no option is a file. -/
theorem addPlain_eq_addFile (found : progress.settle = .ok settled) (text : String) :
    progress.addPlain text = progress.addFile text := by
  unfold addPlain
  split
  · rename_i waiting
    rw [settle, waiting] at found
    cases found
  · rename_i waiting
    rw [settle, waiting] at found
    cases found
  · rfl

/-- Settling what a run of files has grown to is settling the run and then the file. -/
theorem exists_addFile {path : String} (found : progress.settle = .ok settled) (named : path ≠ "") :
    ∃ added, progress.addFile path = .ok added ∧
      added.settle = .ok (settled.heed (.file path)) := by
  unfold addFile
  split
  · -- The run of files is only made longer, and its names are looked at together.
    rename_i paths waiting
    refine ⟨_, rfl, ?_⟩
    rw [settle, waiting] at found
    dsimp only at found
    split at found
    · cases found
    · rename_i othersNamed
      cases found
      have noneEmpty : ¬ (paths ++ [path]).contains "" := by simpa [named.symm] using othersNamed
      simp only [settle, if_neg noneEmpty, heed, List.append_assoc]
  · rw [found]
    refine ⟨_, rfl, ?_⟩
    have nothing := pending_of_settle found
    rcases settled with ⟨files, eval, interactive, format, verbose, pending⟩
    cases nothing
    simp [settle, named.symm]

end Progress

namespace Stands

variable {settings : Settings} {progress : Progress} {later : List Saying}

theorem raise {switch : Switch} (stands : Stands settings progress (.switch switch :: later)) :
    ∃ raised, progress.raise switch.flag = .ok raised ∧ Stands settings raised later := by
  rcases stands with ⟨settled, found, owes⟩
  refine ⟨settled.heed (.switch switch), ?_, _, Progress.settle_heed found _, owes.heed⟩
  rw [Progress.raise, found]
  cases switch with
  | interactive => simp [Switch.flag, owes.interactive_eq_false]
  | verbose => simp [Switch.flag, owes.verbose_eq_false]

theorem attach {choice : Choice} (stands : Stands settings progress (.choice choice :: later)) :
    ∃ attached, progress.attach choice.option choice.text = .ok attached ∧
      Stands settings attached later := by
  rcases stands with ⟨settled, found, owes⟩
  refine ⟨settled.heed (.choice choice), ?_, _, Progress.settle_heed found _, owes.heed⟩
  rw [Progress.attach, found]
  exact Progress.settle_held found owes

theorem expect_addPlain {choice : Choice}
    (stands : Stands settings progress (.choice choice :: later)) :
    ∃ waiting held, progress.expect choice.option = .ok waiting ∧
      waiting.addPlain choice.text = .ok held ∧ Stands settings held later := by
  rcases stands with ⟨settled, found, owes⟩
  refine ⟨{ settled with pending := Pending.ofOption none choice.option },
    { settled with pending := Pending.ofOption (some choice.text) choice.option }, ?_, ?_,
    _, Progress.settle_held found owes, owes.heed⟩
  · rw [Progress.expect, found]
    rfl
  · cases choice <;> rfl

theorem addFile {path : String} (named : path ≠ "")
    (stands : Stands settings progress (.file path :: later)) :
    ∃ added, progress.addFile path = .ok added ∧ Stands settings added later := by
  rcases stands with ⟨settled, found, owes⟩
  rcases Progress.exists_addFile found named with ⟨added, isAdded, foundLater⟩
  exact ⟨added, isAdded, _, foundLater, owes.heed⟩

theorem addPlain {path : String} (named : path ≠ "")
    (stands : Stands settings progress (.file path :: later)) :
    ∃ added, progress.addPlain path = .ok added ∧ Stands settings added later := by
  have noValue : progress.addPlain path = progress.addFile path := by
    rcases stands with ⟨settled, found, owes⟩
    exact Progress.addPlain_eq_addFile found path
  rw [noValue]
  exact stands.addFile named

end Stands

/-! ## The start and the end -/

/-- At the start everything is owed. -/
theorem AmountTo.stands {sayings : List Saying} {settings : Settings} (amount : AmountTo sayings settings) :
    Stands settings Progress.start sayings :=
  ⟨Progress.start, rfl,
    { files := amount.files
      eval := amount.eval
      interactive := by rw [← amount.interactive]; exact Nat.zero_add _
      format := amount.format
      verbose := by rw [← amount.verbose]; exact Nat.zero_add _ }⟩

/-- With nothing owed, what is settled are the settings. -/
theorem Owes.finish_eq {settings : Settings} {settled : Progress} (owes : Owes settings settled [])
    (exclusive : settings.eval = none ∨ settings.files = []) (variableFormat : Option DumpFormat) :
    settled.finish (variableFormat.map DumpFormat.spelling) =
      .ok (settings.options variableFormat) := by
  have files : settled.files = settings.files := by simpa using owes.files
  have eval : settled.eval = settings.eval := eq_of_toList_eq (by simpa using owes.eval)
  have interactive : settled.interactive = settings.interactive :=
    eq_of_toNat_eq (by simpa using owes.interactive)
  have format : settled.format = settings.format :=
    eq_of_toList_eq (by simpa using owes.format)
  have verbose : settled.verbose = settings.verbose :=
    eq_of_toNat_eq (by simpa using owes.verbose)
  have compatible : (settings.eval.isSome && !settings.files.isEmpty) = false := by
    rcases exclusive with noCode | noFiles
    · simp [noCode]
    · simp [noFiles]
  unfold Progress.finish
  rw [files, eval, interactive, format, verbose]
  cases given : settings.format with
  | some wanted => simp [Settings.options, given, compatible]
  | none =>
      cases variableFormat with
      | some wanted => simp [Settings.options, given, compatible, format?_spelling]
      | none => simp [Settings.options, given, compatible]

end CommandLine
end LoxTokenizer
