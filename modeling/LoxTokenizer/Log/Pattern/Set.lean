import LoxTokenizer.Log.Pattern.Part

namespace LoxTokenizer
namespace Log
namespace Pattern

/-!
Sets of characters in square brackets.  A set lists members, sets can stand in sets, and the
operators for what sets share, for what one has and the other has not, and for what only one of
them has join what stands on their sides.  Of all that only the depth of nesting is kept, since
nothing is ever searched for here.
-/

/-- The depth of several parts in a row.  One part alone is not a level of its own. -/
def nesting : List Nat → Nat
  | [] => 0
  | [depth] => depth
  | depths => depths.foldl max 0 + 1

/-- A set that has not been closed: the depths of what stands before its last operator and of the
members read since. -/
structure OpenSet where
  /-- At the start of a set, hyphens and then a closing bracket stand for themselves. -/
  begun : Bool
  operand : Option Nat
  members : List Nat

namespace OpenSet

def fresh : OpenSet := ⟨false, none, []⟩

def depth (set : OpenSet) : Nat :=
  match set.operand with
  | none => nesting set.members
  | some operand => nesting [operand, nesting set.members]

def add (set : OpenSet) (depth : Nat) : OpenSet :=
  { set with begun := true, members := depth :: set.members }

/-- The set with one more of the hyphens that it starts with. -/
def addHyphen (set : OpenSet) : OpenSet := { set with members := 0 :: set.members }

/-- The set behind an operator. -/
def operate (set : OpenSet) : OpenSet := ⟨true, some set.depth, []⟩

end OpenSet

/-- Reads a character of a set, or what a backslash stands for. -/
def element? (modes : Modes) : List Char → Option (Escape × List Char)
  | [] => none
  | '\\' :: rest => escape? modes rest
  | char :: rest => some (.literal char false, rest)

def isMember (modes : Modes) : Escape → Bool
  | .literal char _ => modes.allowsMember char
  | .shorthand negated => modes.allowsShorthand negated
  | .anchor | .wordBoundary => false

/-- Whether two elements are the ends of a range. -/
def isRange (modes : Modes) : Escape → Escape → Bool
  | .literal first _, .literal last _ =>
      first ≤ last && modes.allowsMember first && modes.allowsMember last
  | _, _ => false

/-- Reads a member of a set: one element, or a range of them.  A hyphen before a closing bracket or
before another hyphen makes no range. -/
def member? (modes : Modes) (text : List Char) : Option (List Char) :=
  match element? modes text with
  | none => none
  | some (first, behind) =>
      let alone := if isMember modes first then some (modes.skip behind) else none
      match modes.skip behind with
      | '-' :: rest =>
          if modes.peek rest = some ']' ∨ modes.peek rest = some '-' then alone
          else
            match element? modes (modes.skip rest) with
            | some (last, after) => if isRange modes first last then some after else none
            | none => none
      | _ => alone

/-- Reading sets goes on, or the outermost has been closed. -/
inductive SetProgress where
  | reading (inner : OpenSet) (outer : List OpenSet) (rest : List Char)
  | closed (depth : Nat) (rest : List Char)

namespace SetProgress

def nested? (modes : Modes) (inner : OpenSet) (outer : List OpenSet) (text : List Char) :
    Option SetProgress :=
  match modes.skip text with
  | '^' :: rest =>
      if modes.allowsComplement then some (.reading .fresh (inner :: outer) rest) else none
  | rest => some (.reading .fresh (inner :: outer) rest)

def close (inner : OpenSet) (outer : List OpenSet) (rest : List Char) : SetProgress :=
  match outer with
  | [] => .closed (inner.depth + 1) rest
  | set :: others => .reading (set.add (inner.depth + 1)) others rest

/-- Reads one more part of a set. -/
def next? (modes : Modes) (inner : OpenSet) (outer : List OpenSet) (text : List Char) :
    Option SetProgress :=
  match modes.skip text with
  | [] => none
  | '[' :: rest =>
      match namedClass? rest with
      | some (negated, behind) =>
          if modes.allowsNamedClass negated then some (.reading (inner.add 0) outer behind)
          else none
      | none => nested? modes { inner with begun := true } outer rest
  | '&' :: '&' :: rest | '~' :: '~' :: rest => some (.reading inner.operate outer rest)
  | ']' :: rest =>
      if inner.begun || !inner.members.isEmpty then some (close inner outer rest)
      else if modes.allowsMember ']' then some (.reading (inner.add 0) outer rest)
      else none
  | '-' :: rest =>
      if !inner.begun then
        if modes.allowsMember '-' then some (.reading inner.addHyphen outer rest) else none
      else
        match rest with
        | '-' :: behind => some (.reading inner.operate outer behind)
        | _ => (member? modes ('-' :: rest)).map (.reading (inner.add 0) outer)
  | start => (member? modes start).map (.reading (inner.add 0) outer)

end SetProgress

/-- Reads sets to the end of the outermost, and tells its depth.  Every part takes something off the
text, so it is no matter that the reading would stop otherwise. -/
def readSets? (modes : Modes) (inner : OpenSet) (outer : List OpenSet) (text : List Char) :
    Option (Nat × List Char) :=
  match SetProgress.next? modes inner outer text with
  | none => none
  | some (.closed depth rest) => some (depth, rest)
  | some (.reading inner outer rest) =>
      if rest.length < text.length then readSets? modes inner outer rest else none
termination_by text.length

/-- Reads a set behind its bracket, and tells its depth. -/
def set? (modes : Modes) (text : List Char) : Option (Nat × List Char) :=
  match modes.skip text with
  | '^' :: rest => if modes.allowsComplement then readSets? modes .fresh [] rest else none
  | rest => readSets? modes .fresh [] rest

end Pattern
end Log
end LoxTokenizer
