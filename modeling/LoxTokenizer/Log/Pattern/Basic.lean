import LoxTokenizer.Log.Pattern.Set

namespace LoxTokenizer
namespace Log
namespace Pattern

/-!
Which texts are search patterns: regular expressions that an automaton can search for.  A filter
can ask for the value of a field by a pattern; only spans have such values, and the program opens
none, so it is enough to know whether a text is a pattern at all.
-/

/-- A part of a pattern: how deep it is nested, and whether it can be repeated. -/
structure Item where
  depth : Nat
  repeatable : Bool

/-- A group that has not been closed: how to read on behind it, the depths of its finished
alternatives, and the parts of the one being read, the last first. -/
structure OpenGroup where
  outer : Modes
  alternatives : List Nat
  items : List Item

namespace OpenGroup

def add (group : OpenGroup) (item : Item) : OpenGroup :=
  { group with items := item :: group.items }

/-- The depth of the alternative being read. -/
def alternative (group : OpenGroup) : Nat := nesting (group.items.map Item.depth)

/-- The group behind the sign for another alternative. -/
def nextAlternative (group : OpenGroup) : OpenGroup :=
  ⟨group.outer, group.alternative :: group.alternatives, []⟩

/-- Everything read so far, as one part. -/
def depth (group : OpenGroup) : Nat := nesting (group.alternative :: group.alternatives)

/-- The group with its last part repeated, if there is one that can be. -/
def repeated? (group : OpenGroup) : Option OpenGroup :=
  match group.items with
  | ⟨depth, true⟩ :: others => some { group with items := ⟨depth + 1, true⟩ :: others }
  | _ => none

end OpenGroup

/-- How far a pattern has been read.  The whole pattern counts as a group. -/
structure Progress where
  modes : Modes
  group : OpenGroup
  enclosing : List OpenGroup
  names : List (List Char)

namespace Progress

def start : Progress := ⟨.standard, ⟨.standard, [], []⟩, [], []⟩

def add (progress : Progress) (item : Item) : Progress :=
  { progress with group := progress.group.add item }

/-- One more part without parts of its own, if it may stand there. -/
def single? (progress : Progress) (allowed : Bool) (rest : List Char) :
    Option (Progress × List Char) :=
  if allowed then some (progress.add ⟨0, true⟩, rest) else none

/-- A group opens. -/
def openGroup (progress : Progress) (flags : List Char) : Progress :=
  { progress with
    modes := progress.modes.set flags
    group := ⟨progress.modes, [], []⟩
    enclosing := progress.group :: progress.enclosing }

/-- The innermost group is closed, if one is open. -/
def closeGroup? (progress : Progress) : Option Progress :=
  match progress.enclosing with
  | [] => none
  | group :: others =>
      some
        { progress with
          modes := progress.group.outer
          group := group.add ⟨progress.group.depth + 1, true⟩
          enclosing := others }

/-- What a parenthesis opens.  Two groups cannot have one name. -/
def enter? (progress : Progress) : Opening → Option Progress
  | .flags flags =>
      some { progress.add ⟨0, false⟩ with modes := progress.modes.set flags }
  | .group flags => some (progress.openGroup flags)
  | .namedGroup name =>
      if progress.names.contains name then none
      else some { progress.openGroup [] with names := name :: progress.names }

/-- Whether what a backslash stands for may stand on its own. -/
def allows (modes : Modes) : Escape → Bool
  | .literal char asByte => modes.allowsLiteral char asByte
  | .shorthand negated => modes.allowsShorthand negated
  | .anchor => true
  | .wordBoundary => modes.allowsWordBoundary

/-- The text behind the sign that makes a repetition prefer few. -/
def skipQuestionMark : List Char → List Char
  | '?' :: rest => rest
  | text => text

/-- Reads one more part of a pattern, of which neither white space nor comments come first. -/
def next? (progress : Progress) : List Char → Option (Progress × List Char)
  | [] => none
  | '(' :: rest =>
      match opening? (progress.modes.skip rest) with
      | some (opening, behind) => (progress.enter? opening).map (·, behind)
      | none => none
  | ')' :: rest => progress.closeGroup?.map (·, rest)
  | '|' :: rest => some ({ progress with group := progress.group.nextAlternative }, rest)
  | '[' :: rest =>
      (set? progress.modes rest).map fun (depth, behind) => (progress.add ⟨depth, true⟩, behind)
  | '?' :: rest | '*' :: rest | '+' :: rest =>
      progress.group.repeated?.map fun group =>
        ({ progress with group }, skipQuestionMark rest)
  | '\x7b' :: _ => none
  | '.' :: rest => progress.single? progress.modes.allowsComplement rest
  | '^' :: rest | '$' :: rest => progress.single? true rest
  | '\\' :: rest =>
      match escape? progress.modes rest with
      | some (escape, behind) => progress.single? (allows progress.modes escape) behind
      | none => none
  | char :: rest => progress.single? (progress.modes.allowsLiteral char false) rest

end Progress

/-- How deep a pattern may be nested. -/
def deepest : Nat := 250

/-- Whether the rest of a pattern completes it.  Every part takes something off the text, so it is
no matter that the reading would stop otherwise. -/
def completes (progress : Progress) (text : List Char) : Bool :=
  match progress.modes.skip text with
  | [] => progress.enclosing.isEmpty && progress.group.depth ≤ deepest
  | start =>
      match progress.next? start with
      | some (further, rest) => if rest.length < text.length then completes further rest else false
      | none => false
termination_by text.length

end Pattern

def isPattern (text : List Char) : Bool := Pattern.completes .start text

end Log
end LoxTokenizer
