import LoxTokenizer.Proofs.Scan.Lookahead
import LoxTokenizer.Proofs.Scan.Rejection
import LoxTokenizer.Proofs.Session.Highlight

namespace LoxTokenizer
namespace Session

open Scan

/-!
# Faint print

Comments are shown faint.  A gap between two tokens is not cut into its pieces for that; it is
searched for its first pair of slashes, and all from there on is faint.  A blank or a stray character
has no slash in it, so nothing is faint in front of the first comment of a gap, save in an open
string.  But what stands behind that comment in the same gap is as faint as the comment: the line feed
that ends it, the blanks and the stray characters of the lines that follow, and an open string.

So the pen of a character depends on whether a comment has come up since the last token (`penned`).
It is the pen of the character's own piece throughout just when nothing follows a comment and no two
slashes stand next to each other in an open string.
-/

/-! ## The division of a gap -/

theorem splitAtSlashes_cons {char : Char} {rest : List Char}
    (notHere : ¬ ['/', '/'] <+: char :: rest) :
    splitAtSlashes (char :: rest) =
      (char :: (splitAtSlashes rest).1, (splitAtSlashes rest).2) := by
  rw [splitAtSlashes]
  rintro more rfl rfl
  exact notHere ⟨more, rfl⟩

theorem splitAtSlashes_append_of_not_mem {front : List Char} (noSlash : '/' ∉ front)
    (text : List Char) :
    splitAtSlashes (front ++ text) =
      (front ++ (splitAtSlashes text).1, (splitAtSlashes text).2) := by
  induction front with
  | nil => rfl
  | cons char front ih =>
      rw [List.mem_cons, not_or] at noSlash
      have notHere : ¬ ['/', '/'] <+: char :: (front ++ text) := by
        intro starts
        exact noSlash.1 (List.cons_prefix_cons.mp starts).1
      rw [List.cons_append, splitAtSlashes_cons notHere, ih noSlash.2]
      rfl

/-- The first pair of slashes stays the first one, whatever follows. -/
theorem splitAtSlashes_append_of_slashes {front : List Char} (slashes : ['/', '/'] <:+: front)
    (text : List Char) :
    splitAtSlashes (front ++ text) =
      ((splitAtSlashes front).1, (splitAtSlashes front).2 ++ text) := by
  induction front with
  | nil => exact absurd slashes (by decide)
  | cons char front ih =>
      by_cases here : ['/', '/'] <+: char :: front
      · rcases here with ⟨more, divided⟩
        rw [← divided]
        rfl
      · have later := (List.infix_cons_iff.mp slashes).resolve_left here
        have notHere : ¬ ['/', '/'] <+: char :: (front ++ text) := by
          intro starts
          have longer : ['/', '/'].length ≤ (char :: front).length :=
            Nat.le_succ_of_le later.length_le
          exact here (List.prefix_of_prefix_length_le starts (List.prefix_append _ text) longer)
        rw [List.cons_append, splitAtSlashes_cons notHere, splitAtSlashes_cons here, ih later]

theorem splitAtSlashes_snd_eq_nil_iff (text : List Char) :
    (splitAtSlashes text).2 = [] ↔ ¬ ['/', '/'] <:+: text := by
  induction text with
  | nil => exact iff_of_true rfl (by decide)
  | cons char rest ih =>
      by_cases here : ['/', '/'] <+: char :: rest
      · rcases here with ⟨more, divided⟩
        rw [← divided]
        exact iff_of_false (by simp [splitAtSlashes]) (not_not_intro ⟨[], more, rfl⟩)
      · rw [splitAtSlashes_cons here, ih, List.infix_cons_iff, or_iff_right here]

theorem gapWritten_of_not_mem {gap : List Char} (noSlash : '/' ∉ gap) :
    gapWritten gap = gap.map (·, .plain) := by
  have divided := splitAtSlashes_append_of_not_mem noSlash []
  rw [List.append_nil] at divided
  simp [gapWritten, divided, splitAtSlashes]

/-- A gap, and whether a comment has come up in it. -/
inductive GapWith : Bool → List Char → Prop
  | noComment {gap : List Char} (noSlash : '/' ∉ gap) : GapWith false gap
  | comment {gap : List Char} (slashes : ['/', '/'] <:+: gap) : GapWith true gap

theorem GapWith.append {commented : Bool} {gap text : List Char} (before : GapWith commented gap)
    (noSlash : '/' ∉ text) : GapWith commented (gap ++ text) := by
  cases before with
  | noComment clean =>
      refine .noComment ?_
      rw [List.mem_append, not_or]
      exact ⟨clean, noSlash⟩
  | comment slashes => exact .comment (slashes.trans (List.prefix_append gap text).isInfix)

/-- Behind a comment all of a text is faint; else it is searched for slashes by itself. -/
theorem gapWritten_append {commented : Bool} {gap : List Char} (before : GapWith commented gap)
    (text : List Char) :
    gapWritten (gap ++ text) =
      gapWritten gap ++ if commented then text.map (·, faintPen) else gapWritten text := by
  cases before with
  | noComment noSlash =>
      rw [gapWritten_of_not_mem noSlash, gapWritten, splitAtSlashes_append_of_not_mem noSlash]
      simp [gapWritten]
  | comment slashes =>
      rw [gapWritten, splitAtSlashes_append_of_slashes slashes]
      simp [gapWritten]

/-! ## Pieces and their pens -/

/-- What is written for a piece of a source, if a comment has come up since the last token or not. -/
def pieceWritten (commented : Bool) (piece : Piece) : List (Char × Pen) :=
  match piece.role with
  | .token kind => piece.text.map (·, tokenPen kind.tag)
  | .comment => piece.text.map (·, faintPen)
  | .blank | .stray => piece.text.map (·, if commented then faintPen else .plain)
  | .openString =>
      if commented then piece.text.map (·, faintPen) else gapWritten piece.text

/-- Whether a comment has come up behind a piece: a token starts another gap. -/
def commentedBehind (commented : Bool) : Role → Bool
  | .token _ => false
  | .comment => true
  | _ => commented

/-- What is written for the pieces of a source. -/
def penned (commented : Bool) : List Piece → List (Char × Pen)
  | [] => []
  | piece :: later =>
      pieceWritten commented piece ++ penned (commentedBehind commented piece.role) later

/-- No blank is a slash, and no stray character is one. -/
theorem slash_not_mem {first : Char} {following : List Char}
    (between : (cutAt first following).role = .blank ∨ (cutAt first following).role = .stray) :
    '/' ∉ first :: (cutAt first following).more := by
  have noSlash : first ≠ '/' := by
    rintro rfl
    rw [cutAt_slash] at between
    rcases head_shapes '/' following with ⟨line, rfl⟩ | other
    · simp [cutSlash] at between
    · simp [cutSlash_of_ne other] at between
  have alone : (cutAt first following).more = [] := by
    rcases spells_cutAt first following with isStray | spells
    · rw [isStray]
    · generalize (cutAt first following).role = role at between spells
      generalize (cutAt first following).rest = rest at spells
      generalize whole : first :: (cutAt first following).more = text at spells
      rcases between with rfl | rfl
      · cases spells
        exact (List.cons.inj whole).2
      · cases spells
  rw [alone, List.mem_singleton]
  exact Ne.symm noSlash

theorem exists_of_comment {first : Char} {following : List Char}
    (comment : (cutAt first following).role = .comment) :
    ∃ body, first :: (cutAt first following).more = '/' :: '/' :: body := by
  rcases spells_cutAt first following with isStray | spells
  · rw [isStray] at comment
    cases comment
  · rw [comment] at spells
    generalize first :: (cutAt first following).more = text at spells ⊢
    cases spells with
    | comment oneLine ended => exact ⟨_, rfl⟩

/-- What is written for the pieces of a source behind a gap is the gap, and then each piece in turn. -/
theorem piecesWritten_pieces (text : List Char) {commented : Bool} {gap : List Char}
    (before : GapWith commented gap) :
    piecesWritten gap (pieces text) = gapWritten gap ++ penned commented (pieces text) := by
  induction text using pieces.induct generalizing commented gap with
  | case1 => rw [pieces_nil, piecesWritten, penned, List.append_nil]
  | case2 first following ih =>
      rw [pieces_cons]
      have noSlash := @slash_not_mem first following
      have slashes := @exists_of_comment first following
      have isLast := @rest_of_openString first following
      generalize first :: (cutAt first following).more = text at noSlash slashes ⊢
      generalize (cutAt first following).role = role at noSlash slashes isLast ⊢
      -- A blank or a stray character is searched in vain and leaves the gap as it was.
      have searched : '/' ∉ text →
          piecesWritten (gap ++ text) (pieces (cutAt first following).rest) =
            gapWritten gap ++ (text.map (·, if commented then faintPen else .plain) ++
              penned commented (pieces (cutAt first following).rest)) := by
        intro clean
        rw [ih (before.append clean), gapWritten_append before, gapWritten_of_not_mem clean,
          List.append_assoc]
        cases commented <;> rfl
      cases role with
      | token kind =>
          have behind := ih (.noComment (List.not_mem_nil (a := '/')))
          simp only [piecesWritten, penned, pieceWritten, commentedBehind, behind,
            List.append_assoc]
          rfl
      | blank => exact searched (noSlash (Or.inl rfl))
      | stray => exact searched (noSlash (Or.inr rfl))
      | comment =>
          rcases slashes rfl with ⟨body, rfl⟩
          have found : ['/', '/'] <:+: gap ++ '/' :: '/' :: body := ⟨gap, body, by simp⟩
          have faint : gapWritten (gap ++ '/' :: '/' :: body) =
              gapWritten gap ++ ('/' :: '/' :: body).map (·, faintPen) := by
            rw [gapWritten_append before]
            cases commented <;> rfl
          change piecesWritten (gap ++ '/' :: '/' :: body) _ = _
          rw [ih (.comment found), faint, List.append_assoc]
          rfl
      | openString =>
          rw [isLast rfl, pieces_nil]
          change gapWritten (gap ++ text) = gapWritten gap ++ (_ ++ [])
          rw [gapWritten_append before, List.append_nil]
          rfl

/-! ## Pens by the role alone -/

/-- The pen of a piece that is shown for what it is. -/
def rolePen : Role → Pen
  | .token kind => tokenPen kind.tag
  | .comment => faintPen
  | _ => .plain

/-- Comments are all that is shown faint. -/
theorem faint_rolePen_iff (role : Role) : (rolePen role).faint = true ↔ role = .comment := by
  cases role with
  | token kind =>
      refine iff_of_false ?_ (fun impossible => by cases impossible)
      change ¬ (tokenPen kind.tag).faint = true
      cases kind.tag with
      | punctuator mark => cases mark <;> decide
      | keyword word => cases word <;> decide
      | _ => decide
  | _ => decide

/-- Text between tokens that is no comment is shown as it is. -/
theorem rolePen_eq_plain {role : Role} (noToken : ∀ kind, role ≠ .token kind)
    (noComment : role ≠ .comment) : rolePen role = .plain := by
  cases role with
  | token kind => exact absurd rfl (noToken kind)
  | comment => exact absurd rfl noComment
  | _ => rfl

/-- The characters of pieces, each with the pen of the piece that it belongs to. -/
def byRole (parts : List Piece) : List (Char × Pen) :=
  parts.flatMap fun piece => piece.text.map (·, rolePen piece.role)

theorem byRole_cons (piece : Piece) (later : List Piece) :
    byRole (piece :: later) = piece.text.map (·, rolePen piece.role) ++ byRole later :=
  List.flatMap_cons

/-- Nothing follows a comment, and no two slashes stand next to each other in an open string. -/
structure IsUnmixed (parts : List Piece) : Prop where
  comments : ∀ piece ∈ parts.dropLast, piece.role ≠ .comment
  strings : ∀ piece ∈ parts, piece.role = .openString → ¬ ['/', '/'] <:+: piece.text

theorem isUnmixed_nil : IsUnmixed [] where
  comments := by simp
  strings := by simp

theorem isUnmixed_cons_iff (piece : Piece) (later : List Piece) :
    IsUnmixed (piece :: later) ↔
      (piece.role = .comment → later = []) ∧
        (piece.role = .openString → ¬ ['/', '/'] <:+: piece.text) ∧ IsUnmixed later := by
  constructor
  · rintro ⟨comments, strings⟩
    rcases List.forall_mem_cons.mp strings with ⟨stringHere, stringsLater⟩
    cases later with
    | nil => exact ⟨fun _ => rfl, stringHere, isUnmixed_nil⟩
    | cons next more =>
        rw [List.dropLast_cons_of_ne_nil (List.cons_ne_nil next more)] at comments
        rcases List.forall_mem_cons.mp comments with ⟨noComment, commentsLater⟩
        exact ⟨fun comment => absurd comment noComment, stringHere, commentsLater, stringsLater⟩
  · rintro ⟨isLast, stringHere, unmixed⟩
    refine ⟨?_, List.forall_mem_cons.mpr ⟨stringHere, unmixed.strings⟩⟩
    cases later with
    | nil => simp
    | cons next more =>
        rw [List.dropLast_cons_of_ne_nil (List.cons_ne_nil next more)]
        refine List.forall_mem_cons.mpr ⟨?_, unmixed.comments⟩
        intro comment
        cases isLast comment

/-- The line feed behind a comment is not written as a blank is. -/
theorem penned_ne_byRole {rest : List Char} (some : rest ≠ [])
    (ended : ∀ char ∈ rest.head?, char = '\n') :
    penned true (pieces rest) ≠ byRole (pieces rest) := by
  cases rest with
  | nil => exact absurd rfl some
  | cons char more =>
      cases ended char rfl
      rw [pieces_cons, cutAt_of_isBlank more (by decide), byRole_cons]
      intro same
      have pens : (('\n', faintPen) : Char × Pen) = ('\n', Pen.plain) := (List.cons.inj same).1
      exact absurd pens (by decide)

theorem gapWritten_eq_plain_iff (gap : List Char) :
    gapWritten gap = gap.map (·, .plain) ↔ ¬ ['/', '/'] <:+: gap := by
  rw [← splitAtSlashes_snd_eq_nil_iff]
  have whole := splitAtSlashes_append gap
  rw [gapWritten]
  generalize splitAtSlashes gap = parts at whole ⊢
  rcases parts with ⟨front, slashed⟩
  rw [← whole, List.map_append, List.append_right_inj]
  cases slashed with
  | nil => simp
  | cons slash more => simp [show faintPen ≠ .plain by decide]

/-- The pieces of a source are written with the pens of their roles just when they are unmixed. -/
theorem penned_eq_byRole_iff (text : List Char) :
    penned false (pieces text) = byRole (pieces text) ↔ IsUnmixed (pieces text) := by
  induction text using pieces.induct with
  | case1 =>
      rw [pieces_nil]
      exact iff_of_true rfl isUnmixed_nil
  | case2 first following ih =>
      rw [pieces_cons, byRole_cons, isUnmixed_cons_iff, penned]
      have ofComment := @of_comment first following
      have isLast := @rest_of_openString first following
      generalize first :: (cutAt first following).more = text at ofComment ⊢
      generalize (cutAt first following).role = role at ofComment isLast ⊢
      generalize (cutAt first following).rest = rest at ih ofComment isLast ⊢
      cases role with
      | token kind => simpa [pieceWritten, rolePen, commentedBehind] using ih
      | blank => simpa [pieceWritten, rolePen, commentedBehind] using ih
      | stray => simpa [pieceWritten, rolePen, commentedBehind] using ih
      | comment =>
          simp only [pieceWritten, rolePen, commentedBehind, List.append_right_inj]
          by_cases ends : rest = []
          · rw [ends, pieces_nil]
            exact iff_of_true rfl ⟨fun _ => rfl, by simp, isUnmixed_nil⟩
          · refine iff_of_false (penned_ne_byRole ends (ofComment rfl).2) ?_
            rintro ⟨nothingBehind, _⟩
            have whole := flatten_pieces rest
            rw [nothingBehind trivial] at whole
            exact ends whole.symm
      | openString =>
          rw [isLast rfl, pieces_nil]
          have written := gapWritten_eq_plain_iff text
          simpa [pieceWritten, rolePen, penned, byRole, isUnmixed_nil] using written

/-- How a source without escape characters is written that is highlighted: its one longest cut gives
its pieces, and `penned` their pens.  These are the pens that go by the role of a piece alone, which
make faint the comments and nothing else and leave all other text between tokens plain, just when
nothing follows a comment and no two slashes stand next to each other in an open string. -/
theorem written_highlighted (source : String) (clean : '\x1b' ∉ source.toList) :
    ∃ parts,
      (∀ others, LongestCut source.toList others ↔ others = parts) ∧
      Pen.plain.written (highlightSource source).toList = penned false parts ∧
      (∀ role, (rolePen role).faint = true ↔ role = .comment) ∧
      (∀ role, (∀ kind, role ≠ .token kind) → role ≠ .comment → rolePen role = .plain) ∧
      (Pen.plain.written (highlightSource source).toList = byRole parts ↔ IsUnmixed parts) := by
  have written : Pen.plain.written (highlightSource source).toList =
      penned false (pieces source.toList) := by
    rw [written_highlightSource clean,
      piecesWritten_pieces source.toList (.noComment List.not_mem_nil)]
    rfl
  refine ⟨pieces source.toList, longestCut_iff source.toList, written, faint_rolePen_iff,
    fun _ => rolePen_eq_plain, ?_⟩
  rw [written]
  exact penned_eq_byRole_iff source.toList

/-- A comment at the end of a source. -/
theorem written_highlighted_lastComment :
    '\x1b' ∉ "1 // one".toList ∧
      Pen.plain.written (highlightSource "1 // one").toList = byRole (pieces "1 // one".toList) := by
  have clean : '\x1b' ∉ "1 // one".toList := by decide
  have unmixed : IsUnmixed (pieces "1 // one".toList) := by
    constructor <;> decide +kernel
  rcases written_highlighted "1 // one" clean with ⟨parts, isCut, _, _, _, told⟩
  have same := (isCut _).mp (longestCut_pieces "1 // one".toList)
  rw [← same] at told
  exact ⟨clean, told.mpr unmixed⟩

/-- A stray character on the line behind a comment is as faint as the comment, and so is the line feed
between them. -/
theorem written_highlighted_behindComment :
    LongestCut "//\n@".toList [⟨.comment, ['/', '/']⟩, ⟨.blank, ['\n']⟩, ⟨.stray, ['@']⟩] ∧
      Pen.plain.written (highlightSource "//\n@").toList =
        [('/', faintPen), ('/', faintPen), ('\n', faintPen), ('@', faintPen)] := by
  have cut : pieces "//\n@".toList =
      [⟨.comment, ['/', '/']⟩, ⟨.blank, ['\n']⟩, ⟨.stray, ['@']⟩] := by decide +kernel
  refine ⟨?_, by decide +kernel⟩
  rw [← cut]
  exact longestCut_pieces "//\n@".toList

end Session
end LoxTokenizer
