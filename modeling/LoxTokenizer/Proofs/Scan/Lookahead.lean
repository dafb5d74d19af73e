import LoxTokenizer.Proofs.Scan.Grammar

namespace LoxTokenizer
namespace Scan

open Text (IsRun)

/-!
# What a cut looks at

A piece is told by its own characters and by at most two behind them.  The next character ends a run,
or keeps a mark from being extended; together with the one after it, it may start a fraction.  So a
piece stays what it is in front of any other text that stops it as well: a text that starts with a
blank or like the one that stood there, and that starts a fraction only if that one did.

Two roles are told by more.  A comment goes on over blanks, and only a line feed stops it; an open
string goes on over everything, and nothing may follow it.
-/

/-- Whatever stops in front of `rest` stops in front of `other`, comments and open strings apart. -/
structure StopsLike (rest other : List Char) : Prop where
  next : ∀ char ∈ other.head?, isBlank char = true ∨ rest.head? = some char
  fraction : StartsFraction other → StartsFraction rest

theorem isNamePart_of_isBlank {char : Char} (blank : isBlank char = true) :
    isNamePart char = false := by
  cases part : isNamePart char with
  | false => rfl
  | true =>
      have noBlank := (plain_of_isNamePart part).2.2.2.2
      rw [blank] at noBlank
      cases noBlank

theorem isDigit_of_isBlank {char : Char} (blank : isBlank char = true) : char.isDigit = false := by
  cases digit : char.isDigit with
  | false => rfl
  | true =>
      have noPart := isNamePart_of_isBlank blank
      rw [isNamePart_of_isDigit digit] at noPart
      cases noPart

theorem not_startsFraction_of_isBlank {text : List Char}
    (blank : ∀ char ∈ text.head?, isBlank char = true) : ¬ StartsFraction text := by
  rintro ⟨place, more, rfl, digit⟩
  have point : isBlank '.' = true := blank '.' rfl
  exact absurd point (by decide)

/-- Blanks stop everything, and so does the end of the text. -/
theorem stopsLike_of_isBlank (rest : List Char) {other : List Char}
    (blank : ∀ char ∈ other.head?, isBlank char = true) : StopsLike rest other where
  next := by
    intro char starts
    exact Or.inl (blank char starts)
  fraction := by
    intro starts
    exact absurd starts (not_startsFraction_of_isBlank blank)

namespace StopsLike

variable {rest other : List Char}

theorem isRun (stops : StopsLike rest other) {kind : Char → Bool} {run : List Char}
    (divided : IsRun kind run rest) (noBlank : ∀ {char}, isBlank char = true → kind char = false) :
    IsRun kind run other where
  all := divided.all
  stops := by
    intro char starts
    rcases stops.next char starts with blank | same
    · exact noBlank blank
    · exact divided.stops char same

theorem head?_ne (stops : StopsLike rest other) {char : Char} (different : rest.head? ≠ some char)
    (noBlank : isBlank char = false) : other.head? ≠ some char := by
  intro starts
  rcases stops.next char starts with blank | same
  · rw [noBlank] at blank
    cases blank
  · exact different same

end StopsLike

/-- A cut takes off the same piece when the text behind the piece is exchanged for one that stops it
as well. -/
theorem cutAt_more_append {first : Char} {following other : List Char}
    (closed : (cutAt first following).role ≠ .openString)
    (oneLine : (cutAt first following).role = .comment → ∀ char ∈ other.head?, char = '\n')
    (stops : StopsLike (cutAt first following).rest other) :
    cutAt first ((cutAt first following).more ++ other) =
      { cutAt first following with rest := other } := by
  rcases first_shapes first with ⟨mark, sole⟩ | ⟨alone, extended, extensible⟩ | rfl | rfl | blank |
    digit | starts | stray
  · rw [cutAt_of_soleMark following sole, cutAt_of_soleMark _ sole]
    rfl
  · rw [cutAt_of_equalMarks following extensible] at stops ⊢
    rw [cutAt_of_equalMarks _ extensible]
    rcases head_shapes '=' following with ⟨rest, rfl⟩ | notEqual
    · rfl
    · rw [cutMark_of_ne alone extended notEqual] at stops ⊢
      exact cutMark_of_ne alone extended (stops.head?_ne notEqual (by decide))
  · rw [cutAt_slash] at oneLine stops ⊢
    rw [cutAt_slash]
    rcases head_shapes '/' following with ⟨line, rfl⟩ | slash
    · rcases IsRun.exists_eq_append (· != '\n') line with ⟨body, rest, rfl, run⟩
      rw [cutSlash_comment run] at oneLine ⊢
      apply cutSlash_comment
      exact IsRun.ne_of_not_mem (run.not_mem (by decide)) (oneLine rfl)
    · rw [cutSlash_of_ne slash] at stops ⊢
      exact cutSlash_of_ne (stops.head?_ne slash (by decide))
  · rw [cutAt_quote] at closed ⊢
    rw [cutAt_quote]
    rcases string_shapes following with ⟨body, rest, rfl, inside⟩ | never
    · rw [cutString_closed inside rest, List.append_assoc]
      exact cutString_closed inside other
    · rw [cutString_open never] at closed
      exact absurd rfl closed
  · rw [cutAt_of_isBlank following blank, cutAt_of_isBlank _ blank]
    rfl
  · rw [cutAt_of_isDigit following digit] at stops ⊢
    rw [cutAt_of_isDigit _ digit]
    rcases number_shapes following with ⟨digits, rest, rfl, whole, noFraction⟩ |
      ⟨digits, places, rest, rfl, whole, some, fraction⟩
    · rw [cutNumber_whole first whole noFraction] at stops ⊢
      apply cutNumber_whole first (stops.isRun whole isDigit_of_isBlank)
      intro startsFraction
      exact noFraction (stops.fraction startsFraction)
    · rw [cutNumber_fraction first whole some fraction] at stops ⊢
      rw [List.append_assoc, List.cons_append]
      exact cutNumber_fraction first whole some (stops.isRun fraction isDigit_of_isBlank)
  · rw [cutAt_of_isNameStart following starts] at stops ⊢
    rw [cutAt_of_isNameStart _ starts]
    rcases IsRun.exists_eq_append isNamePart following with ⟨more, rest, rfl, run⟩
    rw [cutName_run first run] at stops ⊢
    exact cutName_run first (stops.isRun run isNamePart_of_isBlank)
  · rw [cutAt_of_isStray following stray, cutAt_of_isStray _ stray]
    rfl

/-- A comment has no line feed in it, and is followed by one or by nothing. -/
theorem of_comment {first : Char} {following : List Char}
    (comment : (cutAt first following).role = .comment) :
    '\n' ∉ first :: (cutAt first following).more ∧
      ∀ char ∈ (cutAt first following).rest.head?, char = '\n' := by
  rcases spells_cutAt first following with isStray | spells
  · rw [isStray] at comment
    cases comment
  · rw [comment] at spells
    generalize first :: (cutAt first following).more = text at spells ⊢
    generalize (cutAt first following).rest = rest at spells ⊢
    cases spells with
    | comment oneLine ended =>
        refine ⟨?_, ended⟩
        intro member
        simp only [List.mem_cons] at member
        rcases member with slash | slash | inside
        · exact absurd slash (by decide)
        · exact absurd slash (by decide)
        · exact oneLine inside

/-- A piece comes from a cut. -/
theorem exists_cutAt_of_mem_pieces {text : List Char} {piece : Piece}
    (member : piece ∈ pieces text) :
    ∃ first following, piece = (cutAt first following).piece first := by
  induction text using pieces.induct with
  | case1 => simp at member
  | case2 first following ih =>
      rw [pieces_cons] at member
      rcases List.mem_cons.mp member with here | later
      · exact ⟨first, following, here⟩
      · exact ih later

/-! ## Blanks -/

def AllBlank (text : List Char) : Prop := ∀ char ∈ text, char ∈ [' ', '\t', '\r', '\n']

instance (text : List Char) : Decidable (AllBlank text) :=
  List.decidableBAll (· ∈ [' ', '\t', '\r', '\n']) text

def blankPieces (gap : List Char) : List Piece := gap.map fun char => ⟨.blank, [char]⟩

theorem AllBlank.head? {gap : List Char} (blank : AllBlank gap) :
    ∀ char ∈ gap.head?, isBlank char = true := by
  intro char starts
  rw [isBlank_iff]
  exact blank char (List.mem_of_head? starts)

/-- Each blank is a piece of its own. -/
theorem pieces_blank_append {gap : List Char} (blank : AllBlank gap) (text : List Char) :
    pieces (gap ++ text) = blankPieces gap ++ pieces text := by
  induction gap with
  | nil => rfl
  | cons char gap ih =>
      rcases List.forall_mem_cons.mp blank with ⟨blankHere, blankLater⟩
      have isBlankHere := (isBlank_iff char).mpr blankHere
      rw [List.cons_append, pieces_cons, cutAt_of_isBlank _ isBlankHere, ih blankLater]
      rfl

end Scan
end LoxTokenizer
