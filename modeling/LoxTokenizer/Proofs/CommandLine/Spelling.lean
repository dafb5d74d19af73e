import LoxTokenizer.CommandLine

namespace LoxTokenizer

/-- The name of a format on a command line. -/
def DumpFormat.spelling : DumpFormat → String
  | .text => "text"
  | .json => "json"

namespace CommandLine

/-!
# How settings are spelled

The same settings can be given by many command lines.  Here that is told without reading any: a
command line is a row of phrases, and a phrase is one to two arguments that belong together and say
something.  The order of phrases is free, and so is the choice among the forms that a phrase has.

A command line spells settings when what it says amounts to them: the files as they stand in order,
everything else at most once.
-/

/-- What a command line can ask for.  With no format given, the format is not settled here. -/
structure Settings where
  files : List String
  eval : Option String
  interactive : Bool
  format : Option DumpFormat
  verbose : Bool

/-- A setting that is on or off. -/
inductive Switch where
  | interactive
  | verbose
  deriving DecidableEq

/-- A setting with a value. -/
inductive Choice where
  | eval (code : String)
  | format (wanted : DumpFormat)
  deriving DecidableEq

/-- One thing that arguments say. -/
inductive Saying where
  | file (path : String)
  | switch (switch : Switch)
  | choice (choice : Choice)
  deriving DecidableEq

namespace Switch

def names : Switch → List String
  | .interactive => ["interactive", "repl"]
  | .verbose => ["verbose"]

def letter : Switch → Char
  | .interactive => 'i'
  | .verbose => 'v'

end Switch

namespace Choice

def name : Choice → String
  | .eval _ => "eval"
  | .format _ => "format"

def letter : Choice → Char
  | .eval _ => 'e'
  | .format _ => 'f'

/-- The value as it is written. -/
def text : Choice → String
  | .eval code => code
  | .format wanted => wanted.spelling

end Choice

namespace Saying

@[simp]
def file? : Saying → Option String
  | .file path => some path
  | _ => none

@[simp]
def code? : Saying → Option String
  | .choice (.eval code) => some code
  | _ => none

@[simp]
def format? : Saying → Option DumpFormat
  | .choice (.format wanted) => some wanted
  | _ => none

end Saying

/-- An argument that does not look like an option.  A lone dash does not. -/
def IsPlain (argument : String) : Prop := argument = "-" ∨ argument.toList.head? ≠ some '-'

instance (argument : String) : Decidable (IsPlain argument) :=
  inferInstanceAs (Decidable (_ ∨ _))

/-- How a cluster of letters ends: the letters, the arguments behind them and what they say.  A value
stands behind its letter, with an equals sign in between or without, or is an argument of its own. -/
inductive ClusterEnd : List Char → List String → List Saying → Prop where
  | bare : ClusterEnd [] [] []
  | assigned (choice : Choice) :
      ClusterEnd (choice.letter :: '=' :: choice.text.toList) [] [.choice choice]
  | attached (choice : Choice) (given : choice.text ≠ "")
      (unmistakable : choice.text.toList.head? ≠ some '=') :
      ClusterEnd (choice.letter :: choice.text.toList) [] [.choice choice]
  | apart (choice : Choice) (plain : IsPlain choice.text) :
      ClusterEnd [choice.letter] [choice.text] [.choice choice]

/-- Arguments that belong together and what they say. -/
inductive Phrase : List String → List Saying → Prop where
  | file (path : String) (named : path ≠ "") (plain : IsPlain path) : Phrase [path] [.file path]
  | switch (switch : Switch) (name : String) (known : name ∈ switch.names) :
      Phrase ["--" ++ name] [.switch switch]
  | assigned (choice : Choice) :
      Phrase ["--" ++ choice.name ++ "=" ++ choice.text] [.choice choice]
  | apart (choice : Choice) (plain : IsPlain choice.text) :
      Phrase ["--" ++ choice.name, choice.text] [.choice choice]
  | cluster (switches : List Switch) {letters : List Char} {values : List String}
      {sayings : List Saying} (ending : ClusterEnd letters values sayings)
      (lettered : switches.map Switch.letter ++ letters ≠ []) :
      Phrase (String.ofList ('-' :: (switches.map Switch.letter ++ letters)) :: values)
        (switches.map Saying.switch ++ sayings)

/-- A whole command line and what it says.  Behind a lone pair of dashes any name is that of a
file. -/
inductive Spelling : List String → List Saying → Prop where
  | nothing : Spelling [] []
  | onward {arguments later : List String} {sayings others : List Saying}
      (phrase : Phrase arguments sayings) (behind : Spelling later others) :
      Spelling (arguments ++ later) (sayings ++ others)
  | files (paths : List String) (named : ∀ path ∈ paths, path ≠ "") :
      Spelling ("--" :: paths) (paths.map Saying.file)

/-- What is said amounts to some settings. -/
structure AmountTo (sayings : List Saying) (settings : Settings) : Prop where
  files : sayings.filterMap Saying.file? = settings.files
  eval : sayings.filterMap Saying.code? = settings.eval.toList
  interactive : sayings.count (.switch .interactive) = settings.interactive.toNat
  format : sayings.filterMap Saying.format? = settings.format.toList
  verbose : sayings.count (.switch .verbose) = settings.verbose.toNat

/-- A command line spells settings. -/
def Spells (arguments : List String) (settings : Settings) : Prop :=
  ∃ sayings, Spelling arguments sayings ∧ AmountTo sayings settings

namespace Settings

/-- The settings, with the format from the variable where none is given, and text with neither. -/
def options (settings : Settings) (variableFormat : Option DumpFormat) : Options where
  files := settings.files
  eval := settings.eval
  interactive := settings.interactive
  format := settings.format.getD (variableFormat.getD .text)
  verbose := settings.verbose

/-- What is said for settings but for their files, each thing in one phrase. -/
def optionSayings (settings : Settings) : List Saying :=
  settings.eval.toList.map (fun code => Saying.choice (.eval code)) ++
    settings.format.toList.map (fun wanted => Saying.choice (.format wanted)) ++
    (if settings.interactive then [Saying.switch .interactive] else []) ++
    (if settings.verbose then [Saying.switch .verbose] else [])

end Settings

/-- What is said can be spelled in front of anything, if no file is among it. -/
theorem Spelling.exists_append {later : List String} {others sayings : List Saying}
    (behind : Spelling later others) (noFiles : sayings.filterMap Saying.file? = []) :
    ∃ arguments, Spelling arguments (sayings ++ others) := by
  induction sayings with
  | nil => exact ⟨later, behind⟩
  | cons saying more ih =>
      have spelled : ∃ argument, Phrase [argument] [saying] := by
        cases saying with
        | file path => cases noFiles
        | switch switch =>
            cases switch with
            | interactive => exact ⟨_, .switch _ "interactive" (by decide)⟩
            | verbose => exact ⟨_, .switch _ "verbose" (by decide)⟩
        | choice choice => exact ⟨_, .assigned choice⟩
      have fewer : more.filterMap Saying.file? = [] := by
        rw [List.filterMap_cons] at noFiles
        split at noFiles
        · exact noFiles
        · cases noFiles
      rcases spelled with ⟨argument, phrase⟩
      rcases ih fewer with ⟨arguments, spelling⟩
      have longer : Spelling ([argument] ++ arguments) ([saying] ++ (more ++ others)) :=
        .onward phrase spelling
      exact ⟨_, longer⟩

/-- Settings are said by their options and their files. -/
theorem Settings.amountTo_optionSayings (settings : Settings) :
    AmountTo (settings.optionSayings ++ settings.files.map Saying.file) settings := by
  have noSwitch (switch : Switch) : (settings.files.map Saying.file).count (.switch switch) = 0 := by
    simp [List.count_eq_zero]
  rcases settings with ⟨files, eval, interactive, format, verbose⟩
  -- Each option is there or not, and each account sees its own sayings only.
  constructor <;> cases eval <;> cases interactive <;> cases format <;> cases verbose <;>
    simp [optionSayings, List.filterMap_cons, Function.comp_def, noSwitch]

/-- All settings can be spelled, if their files have names. -/
theorem exists_spells (settings : Settings) (named : ∀ path ∈ settings.files, path ≠ "") :
    ∃ arguments, Spells arguments settings := by
  have noFiles : settings.optionSayings.filterMap Saying.file? = [] := by
    simp [Settings.optionSayings]
  rcases (Spelling.files settings.files named).exists_append noFiles with ⟨arguments, spelling⟩
  exact ⟨arguments, _, spelling, settings.amountTo_optionSayings⟩

end CommandLine
end LoxTokenizer
