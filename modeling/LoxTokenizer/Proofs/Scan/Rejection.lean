import LoxTokenizer.Proofs.Scan.Grammar

namespace LoxTokenizer
namespace Scan

/-!
# What a scan rejects

The errors of a scan are those of the stray characters, in their places and in their order, and
behind them the error of a string that the source leaves open.  There is at most one such string,
because it takes up all that remains; so its error comes last, and the line of that error is the line
on which the source ends.
-/

/-- A character that starts nothing, and the text before it. -/
structure Rejection where
  before : List Char
  character : Char

/-- The error that a rejected character is reported with. -/
def Rejection.error (rejection : Rejection) : ScanError :=
  .unexpectedCharacter (lineBehind rejection.before) rejection.character

/-- The character that a piece rejects, if it does. -/
def Placed.rejection? (placed : Placed) : Option Rejection :=
  match placed.piece.role, placed.piece.text with
  | .stray, character :: _ => some ⟨placed.before, character⟩
  | _, _ => none

def rejectionsOf (placed : List Placed) : List Rejection := placed.filterMap Placed.rejection?

/-- The rejected characters of a text. -/
def rejections (text : List Char) : List Rejection := rejectionsOf (placedPieces text)

/-- Whether a text ends inside a string. -/
def leavesOpen (text : List Char) : Bool :=
  (pieces text).any fun piece => decide (piece.role = .openString)

@[simp] theorem rejectionsOf_append (first second : List Placed) :
    rejectionsOf (first ++ second) = rejectionsOf first ++ rejectionsOf second :=
  List.filterMap_append

theorem Placed.rejection?_eq_some {placed : Placed} {rejection : Rejection}
    (rejected : placed.rejection? = some rejection) :
    placed.piece.role = .stray ∧ placed.before = rejection.before ∧
      ∃ behind, placed.piece.text = rejection.character :: behind := by
  rcases placed with ⟨before, role, text⟩
  cases role with
  | stray =>
      cases text with
      | nil => cases rejected
      | cons character behind =>
          cases rejected
          exact ⟨rfl, rfl, behind, rfl⟩
  | token kind => cases rejected
  | blank => cases rejected
  | comment => cases rejected
  | openString => cases rejected

/-- Only an open string gives rise to another error than a rejection. -/
theorem Placed.error?_of_ne_openString {placed : Placed}
    (closed : placed.piece.role ≠ .openString) :
    placed.error? = placed.rejection?.map Rejection.error := by
  rcases placed with ⟨before, role, text⟩
  cases role with
  | stray => cases text <;> rfl
  | openString => exact absurd rfl closed
  | token kind => rfl
  | blank => rfl
  | comment => rfl

theorem errorsOf_singleton {placed : Placed} (closed : placed.piece.role ≠ .openString) :
    errorsOf [placed] = (rejectionsOf [placed]).map Rejection.error := by
  cases rejected : placed.rejection? <;>
    simp [errorsOf, rejectionsOf, Placed.error?_of_ne_openString closed, rejected]

/-- An open string takes up all that remains. -/
theorem rest_of_openString {first : Char} {following : List Char}
    (isOpen : (cutAt first following).role = .openString) : (cutAt first following).rest = [] := by
  rcases spells_cutAt first following with isStray | spells
  · rw [isStray] at isOpen
    cases isOpen
  · rw [isOpen] at spells
    generalize (cutAt first following).rest = rest at spells
    cases spells
    rfl

/-- The errors of the pieces of a text: its rejections, and then its open string. -/
theorem errorsOf_layOut_pieces (before text : List Char) :
    errorsOf (layOut before (pieces text)) =
      (rejectionsOf (layOut before (pieces text))).map Rejection.error ++
        if leavesOpen text then [.unterminatedString (lineBehind (before ++ text))] else [] := by
  induction text using pieces.induct generalizing before with
  | case1 => simp [errorsOf, rejectionsOf, leavesOpen]
  | case2 first following ih =>
      have whole : first :: (cutAt first following).more ++ (cutAt first following).rest =
          first :: following := by rw [List.cons_append, cutAt_append]
      by_cases isOpen : (cutAt first following).role = .openString
      · have text : first :: (cutAt first following).more = first :: following := by
          rw [← whole, rest_of_openString isOpen, List.append_nil]
        simp [pieces_cons, rest_of_openString isOpen, errorsOf, rejectionsOf, leavesOpen, layOut,
          isOpen, Placed.error?, Placed.rejection?, text]
      · have later := ih (before ++ first :: (cutAt first following).more)
        rw [List.append_assoc, whole] at later
        have sameEnd : leavesOpen (first :: following) =
            leavesOpen (cutAt first following).rest := by
          simp [leavesOpen, pieces_cons, isOpen]
        rw [pieces_cons, layOut_cons, errorsOf_append, rejectionsOf_append, later, sameEnd,
          List.map_append, List.append_assoc, errorsOf_singleton isOpen]

/-- A piece with another behind it is no open string. -/
theorem ne_openString_of_append {text : List Char} {earlier later : List Piece}
    (divided : pieces text = earlier ++ later) (some : later ≠ []) :
    ∀ piece ∈ earlier, piece.role ≠ .openString := by
  induction text using pieces.induct generalizing earlier with
  | case1 =>
      rw [pieces_nil] at divided
      exact absurd (List.append_eq_nil_iff.mp divided.symm).2 some
  | case2 first following ih =>
      cases earlier with
      | nil =>
          intro piece member
          cases member
      | cons next earlier =>
          rw [pieces_cons, List.cons_append] at divided
          rcases List.cons.inj divided with ⟨isNext, dividedLater⟩
          refine List.forall_mem_cons.mpr ⟨?_, ih dividedLater⟩
          intro isOpen
          rw [← isNext] at isOpen
          rw [rest_of_openString isOpen, pieces_nil] at dividedLater
          exact some (List.append_eq_nil_iff.mp dividedLater.symm).2

/-- Where no string is open, the errors are the rejections. -/
theorem errorsOf_of_ne_openString {before : List Char} {parts : List Piece}
    (closed : ∀ piece ∈ parts, piece.role ≠ .openString) :
    errorsOf (layOut before parts) = (rejectionsOf (layOut before parts)).map Rejection.error := by
  induction parts generalizing before with
  | nil => rfl
  | cons piece rest ih =>
      rcases List.forall_mem_cons.mp closed with ⟨closedHere, closedLater⟩
      rw [layOut_cons, errorsOf_append, rejectionsOf_append, List.map_append,
        ih closedLater, errorsOf_singleton closedHere]

/-- A rejection among the pieces laid out behind a text stands behind it. -/
theorem isPrefix_of_mem_rejectionsOf {before : List Char} {parts : List Piece}
    {rejection : Rejection} (member : rejection ∈ rejectionsOf (layOut before parts)) :
    before <+: rejection.before ∧
      rejection.before ++ [rejection.character] <+: before ++ textOf parts := by
  rcases List.mem_filterMap.mp member with ⟨placed, memberPlaced, rejected⟩
  rcases Placed.rejection?_eq_some rejected with ⟨_, stands, behind, spelled⟩
  have inside := text_isPrefix_of_mem_layOut memberPlaced
  have start : rejection.before ++ [rejection.character] <+:
      rejection.before ++ rejection.character :: behind := ⟨behind, by simp⟩
  rw [stands, spelled] at inside
  exact ⟨stands ▸ isPrefix_of_mem_layOut memberPlaced, start.trans inside⟩

/-- The rejections in front of a byte offset at which one piece ends and another starts. -/
theorem filter_rejectionsOf (earlier later : List Piece) :
    (rejectionsOf (layOut [] (earlier ++ later))).filter (fun rejection =>
        decide (Text.byteLength rejection.before < Text.byteLength (textOf earlier))) =
      rejectionsOf (layOut [] earlier) := by
  rw [layOut_append, rejectionsOf_append, List.filter_append, List.nil_append]
  have front : (rejectionsOf (layOut [] earlier)).filter (fun rejection =>
      decide (Text.byteLength rejection.before < Text.byteLength (textOf earlier))) =
        rejectionsOf (layOut [] earlier) := by
    rw [List.filter_eq_self]
    intro rejection member
    rcases (isPrefix_of_mem_rejectionsOf member).2 with ⟨behind, divided⟩
    rw [List.nil_append] at divided
    rw [decide_eq_true_eq, ← divided]
    have positive := rejection.character.utf8Size_pos
    simp only [Text.byteLength_append, Text.byteLength_cons, Text.byteLength_nil]
    omega
  have back : (rejectionsOf (layOut (textOf earlier) later)).filter (fun rejection =>
      decide (Text.byteLength rejection.before < Text.byteLength (textOf earlier))) = [] := by
    rw [List.filter_eq_nil_iff]
    intro rejection member
    rcases (isPrefix_of_mem_rejectionsOf member).1 with ⟨between, divided⟩
    rw [decide_eq_true_eq, ← divided, Text.byteLength_append]
    omega
  rw [front, back, List.append_nil]

/-- What a scan reports: the rejections of the source, and then its open string. -/
theorem scanText_errors (text : List Char) :
    (scanText text).errors =
      (rejections text).map Rejection.error ++
        if leavesOpen text then [.unterminatedString (lineBehind text)] else [] := by
  rw [scanText_eq, placedPieces, errorsOf_layOut_pieces, rejections, placedPieces, List.nil_append]

/-- A string is reported to be open exactly when the source leaves one open. -/
theorem leavesOpen_iff (text : List Char) :
    leavesOpen text = true ↔ ∃ line, .unterminatedString line ∈ (scanText text).errors := by
  rw [scanText_errors]
  constructor
  · intro isOpen
    refine ⟨lineBehind text, List.mem_append_right _ ?_⟩
    rw [if_pos isOpen]
    exact List.mem_singleton.mpr rfl
  · rintro ⟨line, reported⟩
    rcases List.mem_append.mp reported with rejected | unended
    · rcases List.mem_map.mp rejected with ⟨rejection, _, impossible⟩
      cases impossible
    · by_cases isOpen : leavesOpen text = true
      · exact isOpen
      · rw [if_neg isOpen] at unended
        cases unended

end Scan
end LoxTokenizer
