import LoxTokenizer.Proofs.CommandLine.Settling
import LoxTokenizer.Proofs.Text.Run

namespace LoxTokenizer
namespace CommandLine

open Text (IsRun)

/-!
# Reading what was spelled

Each form of argument is read by one of the ways to take in what it says.  So a phrase is read from
wherever what it says is still to come, whatever arguments are behind it, and by induction a whole
command line is.
-/

/-! ## Names and letters -/

theorem Switch.knownLong?_of_mem_names {switch : Switch} {name : String}
    (known : name ∈ switch.names) : knownLong? name = some (.flag switch.flag) := by
  have all : ∀ name ∈ switch.names, knownLong? name = some (.flag switch.flag) := by
    cases switch <;> decide
  exact all name known

theorem Switch.knownShort?_letter (switch : Switch) :
    knownShort? switch.letter = some (.flag switch.flag) := by
  cases switch <;> rfl

theorem Choice.knownLong?_name (choice : Choice) :
    knownLong? choice.name = some (.value choice.option) := by
  cases choice <;> rfl

theorem Choice.knownShort?_letter (choice : Choice) :
    knownShort? choice.letter = some (.value choice.option) := by
  cases choice <;> rfl

/-- No name of an option is cut short at an equals sign. -/
theorem equals_not_mem_of_knownLong? {name : String} {known : Known}
    (found : knownLong? name = some known) : '=' ∉ name.toList := by
  unfold knownLong? at found
  split at found
  all_goals first | decide | cases found

theorem toList_ne_nil_of_knownLong? {name : String} {known : Known}
    (found : knownLong? name = some known) : name.toList ≠ [] := by
  unfold knownLong? at found
  split at found
  all_goals first | decide | cases found

/-- A cluster is not taken for a name. -/
theorem ne_dash_of_knownShort? {letter : Char} {known : Known}
    (found : knownShort? letter = some known) : letter ≠ '-' := by
  rintro rfl
  cases found

/-! ## Reading arguments -/

namespace Progress

variable {progress : Progress}

theorem addAll_plain {argument : String} (plain : IsPlain argument) (rest : List String) :
    progress.addAll (argument :: rest) = progress.addPlain argument >>= (·.addAll rest) := by
  have noDashes (letter : Char) (letters : List Char) : argument.toList ≠ '-' :: letter :: letters := by
    intro spelled
    rcases plain with rfl | single
    · cases spelled
    · rw [spelled] at single
      exact single rfl
  rw [addAll]
  split
  · rename_i spelled
    exact absurd spelled (noDashes _ _)
  · rename_i spelled
    exact absurd spelled (noDashes _ _)
  · rename_i spelled
    exact absurd spelled (noDashes _ _)
  · rfl

theorem addAll_long {argument : String} {long : List Char}
    (spelled : argument.toList = '-' :: '-' :: long) (given : long ≠ []) (rest : List String) :
    progress.addAll (argument :: rest) = progress.addLong long >>= (·.addAll rest) := by
  rw [addAll, spelled]
  cases long with
  | nil => exact absurd rfl given
  | cons char more => rfl

theorem addAll_short {argument : String} {letter : Char} {letters : List Char}
    (spelled : argument.toList = '-' :: letter :: letters) (single : letter ≠ '-')
    (rest : List String) :
    progress.addAll (argument :: rest) =
      progress.addShort (letter :: letters) >>= (·.addAll rest) := by
  rw [addAll, spelled]
  split
  · rename_i dashes
    cases dashes
    exact absurd rfl single
  · rename_i dashes
    cases dashes
    exact absurd rfl single
  · rename_i same
    cases same
    rfl
  · rename_i noDash
    exact absurd rfl (noDash _ _)

theorem addAll_dashes (rest : List String) : progress.addAll ("--" :: rest) = progress.addFiles rest :=
  rfl

/-- A name alone behind two dashes: a flag, or an option whose value is to come. -/
theorem addLong_known {name : String} {known : Known} (found : knownLong? name = some known) :
    progress.addLong name.toList =
      match known with
      | .value option => progress.expect option
      | .flag flag => progress.raise flag := by
  have run : IsRun (· != '=') name.toList [] :=
    IsRun.ne_of_not_mem (equals_not_mem_of_knownLong? found) (by simp)
  have taken := run.takeWhile_eq
  have dropped := run.dropWhile_eq
  rw [List.append_nil] at taken dropped
  simp only [addLong, taken, dropped, String.ofList_toList, found]
  cases known <;> rfl

theorem addLong_flag {name : String} {flag : Flag}
    (found : knownLong? name = some (.flag flag)) :
    progress.addLong name.toList = progress.raise flag :=
  addLong_known found

theorem addLong_value {name : String} {option : ValueOption}
    (found : knownLong? name = some (.value option)) :
    progress.addLong name.toList = progress.expect option :=
  addLong_known found

theorem addLong_assigned {name : String} {option : ValueOption}
    (found : knownLong? name = some (.value option)) (text : String) :
    progress.addLong (name.toList ++ '=' :: text.toList) = progress.attach option text := by
  have run : IsRun (· != '=') name.toList ('=' :: text.toList) :=
    IsRun.ne_of_not_mem (equals_not_mem_of_knownLong? found) (by simp)
  simp only [addLong, run.takeWhile_eq, run.dropWhile_eq, String.ofList_toList, found]

theorem addShort_flag {letter : Char} {flag : Flag}
    (found : knownShort? letter = some (.flag flag)) (letters : List Char) :
    progress.addShort (letter :: letters) = progress.raise flag >>= (·.addShort letters) := by
  simp only [addShort, found]

theorem addShort_value {letter : Char} {option : ValueOption}
    (found : knownShort? letter = some (.value option)) :
    progress.addShort [letter] = progress.expect option := by
  simp only [addShort, found]

theorem addShort_assigned {letter : Char} {option : ValueOption}
    (found : knownShort? letter = some (.value option)) (text : String) :
    progress.addShort (letter :: '=' :: text.toList) = progress.attach option text := by
  simp only [addShort, found, String.ofList_toList]

theorem addShort_attached {letter : Char} {option : ValueOption} {text : String}
    (found : knownShort? letter = some (.value option)) (given : text ≠ "")
    (unmistakable : text.toList.head? ≠ some '=') :
    progress.addShort (letter :: text.toList) = progress.attach option text := by
  have empty : text.toList = [] → False := by simpa using given
  have equals : ∀ value, text.toList = '=' :: value → False := by
    intro value same
    exact unmistakable (by rw [same]; rfl)
  rw [addShort.eq_def]
  simp only [found, String.ofList_toList]

end Progress

/-! ## Reading phrases -/

section Phrases

variable {settings : Settings} {progress : Progress} {later : List Saying}

/-- Switches are taken in letter by letter, whatever letters are behind them. -/
theorem Stands.addShort_switches {switches : List Switch}
    (stands : Stands settings progress (switches.map Saying.switch ++ later)) (letters : List Char) :
    ∃ raised, progress.addShort (switches.map Switch.letter ++ letters) = raised.addShort letters ∧
      Stands settings raised later := by
  induction switches generalizing progress with
  | nil => exact ⟨progress, rfl, stands⟩
  | cons switch others ih =>
      rcases Stands.raise stands with ⟨raised, isRaised, standsBehind⟩
      rcases ih standsBehind with ⟨last, same, standsLast⟩
      refine ⟨last, ?_, standsLast⟩
      rw [List.map_cons, List.cons_append, Progress.addShort_flag switch.knownShort?_letter, isRaised,
        ok_bind, same]

/-- The end of a cluster is read together with the arguments that belong to it. -/
theorem ClusterEnd.read {letters : List Char} {values : List String} {sayings : List Saying}
    (ending : ClusterEnd letters values sayings)
    (stands : Stands settings progress (sayings ++ later)) (rest : List String) :
    ∃ passed, (progress.addShort letters >>= (·.addAll (values ++ rest))) = passed.addAll rest ∧
      Stands settings passed later := by
  cases ending with
  | bare => exact ⟨progress, rfl, stands⟩
  | assigned choice =>
      rcases stands.attach with ⟨attached, isAttached, standsBehind⟩
      refine ⟨attached, ?_, standsBehind⟩
      rw [Progress.addShort_assigned choice.knownShort?_letter, isAttached, ok_bind]
      rfl
  | attached choice given unmistakable =>
      rcases stands.attach with ⟨attached, isAttached, standsBehind⟩
      refine ⟨attached, ?_, standsBehind⟩
      rw [Progress.addShort_attached choice.knownShort?_letter given unmistakable, isAttached, ok_bind]
      rfl
  | apart choice plain =>
      rcases stands.expect_addPlain with ⟨waiting, held, isWaiting, isHeld, standsBehind⟩
      refine ⟨held, ?_, standsBehind⟩
      rw [Progress.addShort_value choice.knownShort?_letter, isWaiting, ok_bind, List.cons_append,
        Progress.addAll_plain plain, isHeld, ok_bind]
      rfl

/-- The first letter of a cluster is no dash. -/
theorem ClusterEnd.exists_cons {letters : List Char} {values : List String} {sayings : List Saying}
    (ending : ClusterEnd letters values sayings) (switches : List Switch)
    (lettered : switches.map Switch.letter ++ letters ≠ []) :
    ∃ letter others, switches.map Switch.letter ++ letters = letter :: others ∧ letter ≠ '-' := by
  cases switches with
  | nil =>
      cases ending with
      | bare => exact absurd rfl lettered
      | assigned choice => exact ⟨_, _, rfl, ne_dash_of_knownShort? choice.knownShort?_letter⟩
      | attached choice given unmistakable =>
          exact ⟨_, _, rfl, ne_dash_of_knownShort? choice.knownShort?_letter⟩
      | apart choice plain => exact ⟨_, _, rfl, ne_dash_of_knownShort? choice.knownShort?_letter⟩
  | cons switch others => exact ⟨_, _, rfl, ne_dash_of_knownShort? switch.knownShort?_letter⟩

/-- A phrase is read from wherever what it says is still to come. -/
theorem Phrase.read {arguments : List String} {sayings : List Saying}
    (phrase : Phrase arguments sayings) (stands : Stands settings progress (sayings ++ later))
    (rest : List String) :
    ∃ passed, progress.addAll (arguments ++ rest) = passed.addAll rest ∧
      Stands settings passed later := by
  cases phrase with
  | file path named plain =>
      rcases stands.addPlain named with ⟨added, isAdded, standsBehind⟩
      refine ⟨added, ?_, standsBehind⟩
      rw [List.cons_append, Progress.addAll_plain plain, isAdded, ok_bind]
      rfl
  | switch switch name known =>
      rcases stands.raise with ⟨raised, isRaised, standsBehind⟩
      refine ⟨raised, ?_, standsBehind⟩
      have found := Switch.knownLong?_of_mem_names known
      rw [List.cons_append, Progress.addAll_long (by simp) (toList_ne_nil_of_knownLong? found),
        Progress.addLong_flag found, isRaised, ok_bind]
      rfl
  | assigned choice =>
      rcases stands.attach with ⟨attached, isAttached, standsBehind⟩
      refine ⟨attached, ?_, standsBehind⟩
      have spelled : ("--" ++ choice.name ++ "=" ++ choice.text).toList =
          '-' :: '-' :: (choice.name.toList ++ '=' :: choice.text.toList) := by simp
      rw [List.cons_append, Progress.addAll_long spelled (by simp),
        Progress.addLong_assigned choice.knownLong?_name, isAttached, ok_bind]
      rfl
  | apart choice plain =>
      rcases stands.expect_addPlain with ⟨waiting, held, isWaiting, isHeld, standsBehind⟩
      refine ⟨held, ?_, standsBehind⟩
      have found := choice.knownLong?_name
      rw [List.cons_append, Progress.addAll_long (by simp) (toList_ne_nil_of_knownLong? found),
        Progress.addLong_value found, isWaiting, ok_bind, List.cons_append,
        Progress.addAll_plain plain, isHeld, ok_bind]
      rfl
  | @cluster switches letters values sayings ending lettered =>
      rw [List.append_assoc] at stands
      rcases stands.addShort_switches letters with ⟨raised, same, standsBehind⟩
      rcases ending.read standsBehind rest with ⟨passed, read, standsLast⟩
      refine ⟨passed, ?_, standsLast⟩
      rcases ending.exists_cons switches lettered with ⟨letter, others, spelled, single⟩
      have dashed : (String.ofList ('-' :: (switches.map Switch.letter ++ letters))).toList =
          '-' :: letter :: others := by rw [String.toList_ofList, spelled]
      rw [List.cons_append, Progress.addAll_short dashed single, ← spelled, same, read]

theorem Stands.addFiles {paths : List String} (named : ∀ path ∈ paths, path ≠ "")
    (stands : Stands settings progress (paths.map Saying.file)) :
    ∃ settled, progress.addFiles paths = .ok settled ∧ Owes settings settled [] := by
  induction paths generalizing progress with
  | nil => exact stands
  | cons path others ih =>
      rcases List.forall_mem_cons.mp named with ⟨first, others⟩
      rcases Stands.addFile first stands with ⟨added, isAdded, standsBehind⟩
      rcases ih others standsBehind with ⟨settled, found, owes⟩
      refine ⟨settled, ?_, owes⟩
      rw [Progress.addFiles, isAdded]
      exact found

/-- A command line is read to its end from wherever what it says is still to come, and then nothing is
owed. -/
theorem Spelling.read {arguments : List String} {sayings : List Saying}
    (spelling : Spelling arguments sayings) (stands : Stands settings progress sayings) :
    ∃ settled, progress.addAll arguments = .ok settled ∧ Owes settings settled [] := by
  induction spelling generalizing progress with
  | nothing => exact stands
  | onward phrase behind ih =>
      rcases phrase.read stands _ with ⟨passed, same, standsBehind⟩
      rw [same]
      exact ih standsBehind
  | files paths named =>
      rw [Progress.addAll_dashes]
      exact Stands.addFiles named stands

end Phrases

/-- Whatever way settings are spelled, reading gives them back, with the format of the variable where
none is spelled and text where there is neither.  What is to be done goes by the code, else by the wish
for a session, else by the files, else by where the input comes from. -/
theorem parse_of_spells {arguments : List String} {settings : Settings}
    (spells : Spells arguments settings) (exclusive : settings.eval = none ∨ settings.files = [])
    (variableFormat : Option DumpFormat) :
    parse arguments (variableFormat.map DumpFormat.spelling) =
        .ok (settings.options variableFormat) ∧
      ∀ inputIsTerminal,
        (∀ code, settings.eval = some code →
          (settings.options variableFormat).mode inputIsTerminal = .eval code) ∧
        (settings.eval = none → settings.interactive = true →
          (settings.options variableFormat).mode inputIsTerminal = .session) ∧
        (settings.eval = none → settings.interactive = false → settings.files ≠ [] →
          (settings.options variableFormat).mode inputIsTerminal = .files settings.files) ∧
        (settings.eval = none → settings.interactive = false → settings.files = [] →
          (settings.options variableFormat).mode inputIsTerminal =
            if inputIsTerminal then .session else .input) := by
  rcases spells with ⟨sayings, spelling, amount⟩
  rcases spelling.read amount.stands with ⟨settled, found, owes⟩
  constructor
  · rw [parse, found]
    exact owes.finish_eq exclusive variableFormat
  · intro inputIsTerminal
    refine ⟨?_, ?_, ?_, ?_⟩
    · intro code isCode
      simp [Options.mode, Settings.options, isCode]
    · intro noCode wished
      simp [Options.mode, Settings.options, noCode, wished]
    · intro noCode unwished someFiles
      simp [Options.mode, Settings.options, noCode, unwished, someFiles]
    · intro noCode unwished noFiles
      simp [Options.mode, Settings.options, noCode, unwished, noFiles]

theorem parse_of_spells_cluster :
    Spells ["a.lox", "-vifjson", "-", "--", "-b"]
        ⟨["a.lox", "-", "-b"], none, true, some .json, true⟩ ∧
      parse ["a.lox", "-vifjson", "-", "--", "-b"] (some "text") =
        .ok ⟨["a.lox", "-", "-b"], none, true, .json, true⟩ := by
  have file : Phrase ["a.lox"] [.file "a.lox"] := .file _ (by decide) (by decide)
  have ending : ClusterEnd ['f', 'j', 's', 'o', 'n'] [] [.choice (.format .json)] :=
    .attached (.format .json) (by decide) (by decide)
  have cluster : Phrase ["-vifjson"]
      [.switch .verbose, .switch .interactive, .choice (.format .json)] :=
    .cluster [.verbose, .interactive] ending (by decide)
  have dash : Phrase ["-"] [.file "-"] := .file _ (by decide) (by decide)
  have behind : Spelling ["--", "-b"] [.file "-b"] := .files ["-b"] (by decide)
  have spelling := Spelling.onward file (.onward cluster (.onward dash behind))
  have spells : Spells ["a.lox", "-vifjson", "-", "--", "-b"]
      ⟨["a.lox", "-", "-b"], none, true, some .json, true⟩ :=
    ⟨_, spelling, ⟨rfl, rfl, rfl, rfl, rfl⟩⟩
  exact ⟨spells, (parse_of_spells spells (.inl rfl) (some .text)).1⟩

end CommandLine
end LoxTokenizer
