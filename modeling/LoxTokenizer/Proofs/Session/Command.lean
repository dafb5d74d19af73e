import LoxTokenizer.Proofs.Text.Trim
import LoxTokenizer.Session.Command
import Mathlib.Data.List.Basic

namespace LoxTokenizer
namespace Session

open Text (AllWhiteSpace IsRun IsTrimmed)

/-!
# How commands are written

A command is written in two ways: without an argument, as a dot and a name, or with one, which stands
behind the name and some white space.  White space may surround either.  Every entry that has a dot
as its first character but white space is worded in one of the two ways and in one way only; whether
it is a command is then up to the name alone.

The wording is stated by its parts, so nothing here says how they are looked for.
-/

/-! ## Names -/

namespace Command

/-- The names of a command, in lower case. -/
def spellings : Command → List String
  | .help => ["help", "h", "?"]
  | .exit => ["exit", "quit", "q"]
  | .clear => ["clear", "cls"]
  | .version => ["version", "v"]
  | .load => ["load", "l"]

theorem ofName?_eq_some_iff (name : String) (command : Command) :
    ofName? name = some command ↔ name ∈ command.spellings := by
  constructor
  · intro named
    unfold ofName? at named
    split at named <;> cases named <;> decide
  · intro spelled
    cases command <;> simp only [spellings, List.mem_cons, List.not_mem_nil, or_false] at spelled <;>
      rcases spelled with rfl | rfl | rfl <;> rfl

/-- A name stands for a command when it is one of its spellings, but for the case of its letters. -/
def IsNamed (command : Command) (name : List Char) : Prop :=
  String.ofList (Text.lowerCase name) ∈ command.spellings

theorem IsNamed.ne_nil {command : Command} {name : List Char} (named : command.IsNamed name) :
    name ≠ [] := by
  rintro rfl
  have none : ofName? (String.ofList (Text.lowerCase [])) = none := by decide
  rw [(ofName?_eq_some_iff _ command).mpr named] at none
  cases none

end Command

namespace Invocation

/-- The part of a text that is between the white space, if a dot is in front. -/
theorem ofText?_of_dotted {text rest : List Char} (dotted : Text.trim text = '.' :: rest) :
    ofText? text =
      (Command.ofName? (String.ofList (Text.lowerCase
          (rest.takeWhile fun char => !Text.isWhiteSpace char)))).map fun command =>
        let argument := Text.trim (rest.dropWhile fun char => !Text.isWhiteSpace char)
        ⟨command, if argument.isEmpty then none else some (String.ofList argument)⟩ := by
  rw [ofText?, dotted]
  rfl

theorem exists_dotted {text : List Char} {invocation : Invocation}
    (isCommand : ofText? text = some invocation) : ∃ rest, Text.trim text = '.' :: rest := by
  unfold ofText? at isCommand
  split at isCommand
  · rename_i rest dotted
    exact ⟨rest, dotted⟩
  · cases isCommand

end Invocation

/-! ## Wordings -/

/-- The parts that an entry is written in, but for the dot in front of the name. -/
inductive Wording where
  | bare (before name after : List Char)
  | applied (before name gap argument after : List Char)

namespace Wording

def text : Wording → List Char
  | bare before name after => before ++ '.' :: (name ++ after)
  | applied before name gap argument after =>
      before ++ '.' :: (name ++ (gap ++ (argument ++ after)))

def name : Wording → List Char
  | bare _ name _ => name
  | applied _ name _ _ _ => name

def argument : Wording → Option String
  | bare _ _ _ => none
  | applied _ _ _ argument _ => some (String.ofList argument)

/-- White space is what the parts are told apart by, so only an argument may have some inside. -/
inductive IsParted : Wording → Prop
  | bare {before name after : List Char} (white : AllWhiteSpace before)
      (unbroken : ∀ char ∈ name, Text.isWhiteSpace char = false)
      (whiteBehind : AllWhiteSpace after) : IsParted (.bare before name after)
  | applied {before name gap argument after : List Char} (white : AllWhiteSpace before)
      (unbroken : ∀ char ∈ name, Text.isWhiteSpace char = false)
      (someGap : gap ≠ []) (whiteGap : AllWhiteSpace gap)
      (someArgument : argument ≠ []) (trimmed : IsTrimmed argument)
      (whiteBehind : AllWhiteSpace after) : IsParted (.applied before name gap argument after)

/-- What an entry in this wording asks for. -/
structure Invokes (wording : Wording) (invocation : Invocation) : Prop where
  parted : wording.IsParted
  someName : wording.name ≠ []
  named : invocation.command.IsNamed wording.name
  argument : wording.argument = invocation.argument

/-! ## Between the white space -/

def before : Wording → List Char
  | bare before _ _ => before
  | applied before _ _ _ _ => before

/-- What is written behind the name, but for the white space at the end. -/
def behind : Wording → List Char
  | bare _ _ _ => []
  | applied _ _ gap argument _ => gap ++ argument

def after : Wording → List Char
  | bare _ _ after => after
  | applied _ _ _ _ after => after

def core (wording : Wording) : List Char := '.' :: (wording.name ++ wording.behind)

theorem text_eq (wording : Wording) :
    wording.text = wording.before ++ (wording.core ++ wording.after) := by
  cases wording <;> simp [text, before, core, name, behind, after]

namespace IsParted

variable {wording : Wording}

theorem white (parted : wording.IsParted) : AllWhiteSpace wording.before := by
  cases parted <;> assumption

theorem whiteBehind (parted : wording.IsParted) : AllWhiteSpace wording.after := by
  cases parted <;> assumption

theorem unbroken (parted : wording.IsParted) :
    ∀ char ∈ wording.name, Text.isWhiteSpace char = false := by
  cases parted <;> assumption

theorem trimmed_core (parted : wording.IsParted) : IsTrimmed wording.core where
  starts := by
    intro char first
    cases first
    decide
  ends := by
    cases parted with
    | bare _ unbroken _ =>
        intro char last
        rw [core, behind, List.append_nil] at last
        rcases List.mem_cons.mp (List.mem_of_getLast? last) with rfl | inName
        · decide
        · exact unbroken char inName
    | applied _ _ _ _ someArgument trimmed _ =>
        rw [core, behind, ← List.append_assoc, ← List.cons_append,
          List.getLast?_append_of_ne_nil _ someArgument]
        exact trimmed.ends

/-- The name goes on up to the first white space. -/
theorem isRun_name (parted : wording.IsParted) :
    IsRun (fun char => !Text.isWhiteSpace char) wording.name wording.behind where
  all := by
    intro char inName
    rw [parted.unbroken char inName]
    rfl
  stops := by
    intro char first
    cases parted with
    | bare => cases first
    | @applied before name gap argument after _ _ someGap whiteGap =>
        rw [behind, List.head?_append_of_ne_nil gap someGap] at first
        rw [whiteGap char (List.mem_of_head? first)]
        rfl

/-- What is left of the rest, without the white space in front of it, is the argument. -/
theorem argument_eq (parted : wording.IsParted) :
    wording.argument = if (Text.trim wording.behind).isEmpty then none
      else some (String.ofList (Text.trim wording.behind)) := by
  cases parted with
  | bare => rfl
  | applied _ _ _ whiteGap someArgument trimmed _ =>
      have nothing : AllWhiteSpace [] := fun _ impossible => absurd impossible List.not_mem_nil
      have left := Text.trim_append whiteGap trimmed nothing
      rw [List.append_nil] at left
      rw [argument, behind, left, List.isEmpty_eq_false_iff.mpr someArgument]
      rfl

/-- The name alone decides whether an entry is a command, and which. -/
theorem ofText?_text (parted : wording.IsParted) :
    Invocation.ofText? wording.text =
      (Command.ofName? (String.ofList (Text.lowerCase wording.name))).map fun command =>
        ⟨command, wording.argument⟩ := by
  have trimmed : Text.trim wording.text = wording.core := by
    rw [text_eq, Text.trim_append parted.white parted.trimmed_core parted.whiteBehind]
  rw [Invocation.ofText?_of_dotted trimmed, parted.isRun_name.takeWhile_eq,
    parted.isRun_name.dropWhile_eq, parted.argument_eq]

/-- A text is worded in one way only. -/
theorem unique {other : Wording} (parted : wording.IsParted) (otherParted : other.IsParted)
    (same : wording.text = other.text) : wording = other := by
  rw [text_eq, text_eq] at same
  rcases parted.trimmed_core.unique (List.cons_ne_nil _ _) parted.white parted.whiteBehind
    otherParted.trimmed_core otherParted.white otherParted.whiteBehind same with
    ⟨sameBefore, sameCore, sameAfter⟩
  rcases parted.isRun_name.unique otherParted.isRun_name (List.cons.inj sameCore).2 with
    ⟨sameName, sameBehind⟩
  cases parted with
  | bare =>
      cases otherParted with
      | bare =>
          cases sameBefore
          cases sameName
          cases sameAfter
          rfl
      | applied _ _ someGap => exact absurd (List.append_eq_nil_iff.mp sameBehind.symm).1 someGap
  | applied _ _ someGap whiteGap _ trimmed =>
      cases otherParted with
      | bare => exact absurd (List.append_eq_nil_iff.mp sameBehind).1 someGap
      | applied _ _ _ otherWhiteGap _ otherTrimmed =>
          have run : IsRun Text.isWhiteSpace _ _ := ⟨whiteGap, trimmed.starts⟩
          rcases run.unique ⟨otherWhiteGap, otherTrimmed.starts⟩ sameBehind with
            ⟨sameGap, sameArgument⟩
          cases sameBefore
          cases sameName
          cases sameGap
          cases sameArgument
          cases sameAfter
          rfl

end IsParted

/-- A dot, a name that goes on up to the first white space, and anything behind it. -/
theorem exists_parted {before name tail : List Char} (white : AllWhiteSpace before)
    (run : IsRun (fun char => !Text.isWhiteSpace char) name tail) :
    ∃ wording : Wording, wording.IsParted ∧ wording.text = before ++ '.' :: (name ++ tail) ∧
      wording.name = name := by
  have unbroken : ∀ char ∈ name, Text.isWhiteSpace char = false := by
    intro char inName
    simpa using run.all char inName
  rcases Text.exists_trim tail with ⟨gap, after, parts, whiteGap, whiteBehind, trimmed⟩
  by_cases none : Text.trim tail = []
  · have whiteTail : AllWhiteSpace tail := by
      rw [parts, none]
      exact whiteGap.append whiteBehind
    exact ⟨.bare before name tail, .bare white unbroken whiteTail, rfl, rfl⟩
  · have someGap : gap ≠ [] := by
      rintro rfl
      rcases List.exists_cons_of_ne_nil none with ⟨first, more, starts⟩
      have isWhite := run.stops first (by rw [parts, starts]; rfl)
      rw [trimmed.starts first (by rw [starts]; rfl)] at isWhite
      cases isWhite
    refine ⟨.applied before name gap (Text.trim tail) after,
      .applied white unbroken someGap whiteGap none trimmed whiteBehind, ?_, rfl⟩
    rw [text, ← parts]

end Wording

/-! ## Commands -/

namespace Invocation

/-- Every command starts with a dot and goes on with a name. -/
theorem exists_name {text : List Char} {invocation : Invocation}
    (isCommand : ofText? text = some invocation) :
    ∃ before name tail, text = before ++ '.' :: (name ++ tail) ∧ AllWhiteSpace before ∧
      IsRun (fun char => !Text.isWhiteSpace char) name tail := by
  rcases exists_dotted isCommand with ⟨rest, dotted⟩
  rcases Text.exists_trim text with ⟨before, after, parts, white, _, _⟩
  rcases IsRun.exists_eq_append (fun char => !Text.isWhiteSpace char) (rest ++ after) with
    ⟨name, tail, divided, run⟩
  refine ⟨before, name, tail, ?_, white, run⟩
  rw [← divided, ← List.cons_append, ← dotted, ← parts]

theorem ofText?_eq_some_iff (text : List Char) (invocation : Invocation) :
    ofText? text = some invocation ↔
      ∃ wording : Wording, wording.text = text ∧ wording.Invokes invocation := by
  constructor
  · intro isCommand
    rcases exists_name isCommand with ⟨before, name, tail, divided, white, run⟩
    rcases Wording.exists_parted white run with ⟨wording, parted, isText, _⟩
    rw [divided, ← isText, parted.ofText?_text] at isCommand
    rcases Option.map_eq_some_iff.mp isCommand with ⟨command, found, rfl⟩
    have named := (Command.ofName?_eq_some_iff _ command).mp found
    exact ⟨wording, isText.trans divided.symm, parted, Command.IsNamed.ne_nil named, named, rfl⟩
  · rintro ⟨wording, rfl, invokes⟩
    rw [invokes.parted.ofText?_text, (Command.ofName?_eq_some_iff _ _).mpr invokes.named,
      Option.map_some, invokes.argument]

/-- Behind the name of a command anything may stand, and behind another name nothing makes a command. -/
theorem isSome_ofText?_iff {before name tail : List Char} (white : AllWhiteSpace before)
    (run : IsRun (fun char => !Text.isWhiteSpace char) name tail) :
    (ofText? (before ++ '.' :: (name ++ tail))).isSome = true ↔
      ∃ command : Command, command.IsNamed name := by
  rcases Wording.exists_parted white run with ⟨wording, parted, isText, isName⟩
  rw [← isText, parted.ofText?_text, Option.isSome_map, isName, Option.isSome_iff_exists]
  exact exists_congr fun command => Command.ofName?_eq_some_iff _ command

/-- An entry is a command exactly when it is worded as one, and it is worded as one command in one
way only.  The name may be in any case; the argument is taken as it is written. -/
theorem parse?_eq_some_iff_invokes (input : String) :
    (∀ invocation, parse? input = some invocation ↔
      ∃ wording : Wording, wording.text = input.toList ∧ wording.Invokes invocation) ∧
    (∀ wording other : Wording, ∀ invocation otherInvocation,
      wording.text = input.toList → other.text = input.toList →
      wording.Invokes invocation → other.Invokes otherInvocation →
      wording = other ∧ invocation = otherInvocation) ∧
    (parse? input = none ↔
      ∀ wording : Wording, ∀ invocation, wording.text = input.toList →
        ¬ wording.Invokes invocation) := by
  have accepts := ofText?_eq_some_iff input.toList
  refine ⟨accepts, ?_, ?_⟩
  · intro wording other invocation otherInvocation isText otherText invokes otherInvokes
    have one := (accepts invocation).mpr ⟨wording, isText, invokes⟩
    have another := (accepts otherInvocation).mpr ⟨other, otherText, otherInvokes⟩
    rw [one] at another
    exact ⟨invokes.parted.unique otherInvokes.parted (isText.trans otherText.symm),
      Option.some.inj another⟩
  · rw [parse?, Option.eq_none_iff_forall_ne_some]
    constructor
    · intro none wording invocation isText invokes
      exact none invocation ((accepts invocation).mpr ⟨wording, isText, invokes⟩)
    · intro unworded invocation isCommand
      rcases (accepts invocation).mp isCommand with ⟨wording, isText, invokes⟩
      exact unworded wording invocation isText invokes

/-- A no-break space in front, and blanks within the argument. -/
example : parse? "\u00a0.LoAd\t My  File.lox\n" = some ⟨.load, some "My  File.lox"⟩ := by
  decide +kernel

/-- A dot that has no name behind it. -/
example : parse? ". exit" = none := by decide +kernel

end Invocation
end Session
end LoxTokenizer
