namespace LoxTokenizer
namespace Text

/-!
# Runs of characters

A run is a stretch of characters of one kind that goes on for as long as it can: behind it the text
ends, or a character of another kind follows.  Everything in a source that is read by looking one
character ahead is a run, and a text divides into a run and its rest in one way only.
-/

/-- The characters of `run` are of a kind, and `rest` does not start with that kind. -/
structure IsRun (kind : Char → Bool) (run rest : List Char) : Prop where
  all : ∀ char ∈ run, kind char = true
  stops : ∀ char ∈ rest.head?, kind char = false

namespace IsRun

variable {kind : Char → Bool} {run rest : List Char}

theorem takeWhile_eq (divided : IsRun kind run rest) : (run ++ rest).takeWhile kind = run := by
  rw [List.takeWhile_append_of_pos divided.all]
  cases rest with
  | nil => simp
  | cons char more => simp [divided.stops char rfl]

theorem dropWhile_eq (divided : IsRun kind run rest) : (run ++ rest).dropWhile kind = rest := by
  rw [List.dropWhile_append_of_pos divided.all]
  cases rest with
  | nil => rfl
  | cons char more => simp [divided.stops char rfl]

/-- A text divides into a run and its rest in one way only. -/
theorem unique {otherRun otherRest : List Char} (divided : IsRun kind run rest)
    (other : IsRun kind otherRun otherRest) (same : run ++ rest = otherRun ++ otherRest) :
    run = otherRun ∧ rest = otherRest := by
  constructor
  · rw [← divided.takeWhile_eq, same, other.takeWhile_eq]
  · rw [← divided.dropWhile_eq, same, other.dropWhile_eq]

/-- The longest run at the start of a text. -/
theorem takeWhile_dropWhile (kind : Char → Bool) (text : List Char) :
    IsRun kind (text.takeWhile kind) (text.dropWhile kind) where
  all := List.all_eq_true.mp List.all_takeWhile
  stops := by
    intro char starts
    have failed := List.head?_dropWhile_not kind text
    rw [Option.mem_def.mp starts] at failed
    exact failed

/-- Every text starts with a run, though perhaps an empty one. -/
theorem exists_eq_append (kind : Char → Bool) (text : List Char) :
    ∃ run rest, text = run ++ rest ∧ IsRun kind run rest :=
  ⟨text.takeWhile kind, text.dropWhile kind, List.takeWhile_append_dropWhile.symm,
    takeWhile_dropWhile kind text⟩

/-- A run stays one when the text behind it goes on with a character of another kind. -/
theorem append_cons (divided : IsRun kind run rest) (char : Char) (other : kind char = false)
    (more : List Char) : IsRun kind run (rest ++ char :: more) where
  all := divided.all
  stops := by
    intro head starts
    cases rest with
    | nil =>
        cases starts
        exact other
    | cons first behind => exact divided.stops head starts

/-- A run stays one when the text behind it is broken off. -/
theorem of_append {more : List Char} (divided : IsRun kind run (rest ++ more)) :
    IsRun kind run rest where
  all := divided.all
  stops := by
    intro char starts
    apply divided.stops
    rw [List.head?_append, Option.mem_def.mp starts]
    rfl

/-- A character of another kind is not in a run. -/
theorem not_mem (divided : IsRun kind run rest) {char : Char} (other : kind char = false) :
    char ∉ run := by
  intro member
  have same := divided.all char member
  rw [other] at same
  cases same

/-- What goes on up to a character that does not occur in it is a run of all other characters. -/
theorem ne_of_not_mem {stop : Char} (absent : stop ∉ run)
    (stops : ∀ char ∈ rest.head?, char = stop) : IsRun (· != stop) run rest where
  all := by
    intro char member
    have different : char ≠ stop := by
      rintro rfl
      exact absent member
    simpa using different
  stops := by
    intro char starts
    simpa using stops char starts

/-- Characters of a kind at the start of a text belong to its run. -/
theorem isPrefix_of_all {start behind : List Char} (divided : IsRun kind run rest)
    (all : ∀ char ∈ start, kind char = true) (same : start ++ behind = run ++ rest) :
    start <+: run := by
  rw [← divided.takeWhile_eq, ← same, List.takeWhile_append_of_pos all]
  exact List.prefix_append _ _

end IsRun

end Text
end LoxTokenizer
