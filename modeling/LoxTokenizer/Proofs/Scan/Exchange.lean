import LoxTokenizer.Proofs.Scan.Composition
import LoxTokenizer.Proofs.Scan.Genuine

namespace LoxTokenizer
namespace Scan

/-!
# What follows some pieces, exchanged

A scan has not seen the end of its text when it cuts off a piece at the start of it.  What it has seen
of the text behind a piece is at most one character, or two where a fraction might start.  So the
pieces at the start of a text stay what they are when the text behind them is exchanged for another
one that begins alike, however that goes on and wherever it ends.

Two exchanges are of use.  The text behind may be broken off, even completely; and it may go on
further, provided that two characters of it were there already.  Nothing is assumed here about the
pieces, blanks, comments and stray characters included, but that no open string is among them.
-/

/-! ## Texts that begin alike -/

/-- Whatever `other` begins with, as far as a cut looks, `rest` begins with as well. -/
structure BeginsLike (rest other : List Char) : Prop where
  next : ∀ char ∈ other.head?, rest.head? = some char
  fraction : StartsFraction other → StartsFraction rest

namespace BeginsLike

variable {rest other : List Char}

/-- A text that is broken off begins as it did before. -/
theorem of_isPrefix (front : other <+: rest) : BeginsLike rest other := by
  rcases front with ⟨behind, rfl⟩
  constructor
  · intro char starts
    rw [List.head?_append, Option.mem_def.mp starts]
    rfl
  · rintro ⟨place, more, rfl, digit⟩
    exact ⟨place, more ++ behind, rfl, digit⟩

/-- A text of two characters begins as it will when it goes on.  One would not be enough, since it
may be a point. -/
theorem append (two : 2 ≤ rest.length) (more : List Char) : BeginsLike rest (rest ++ more) := by
  rcases rest with _ | ⟨first, _ | ⟨second, later⟩⟩
  · exact absurd two (by decide)
  · exact absurd two (by simp)
  · constructor
    · intro char starts
      exact starts
    · rintro ⟨place, behind, divided, digit⟩
      cases divided
      exact ⟨second, later, rfl, digit⟩

/-- The same text in front keeps them alike. -/
theorem behind (alike : BeginsLike rest other) (text : List Char) :
    BeginsLike (text ++ rest) (text ++ other) := by
  rcases text with _ | ⟨first, _ | ⟨second, later⟩⟩
  · exact alike
  · constructor
    · intro char starts
      exact starts
    · rintro ⟨place, more, divided, digit⟩
      rcases List.cons.inj divided with ⟨rfl, behindPoint⟩
      have goesOn : other = place :: more := behindPoint
      have starts : rest.head? = some place := alike.next place (by rw [goesOn]; rfl)
      rcases List.head?_eq_some_iff.mp starts with ⟨digits, rfl⟩
      exact ⟨place, digits, rfl, digit⟩
  · constructor
    · intro char starts
      exact starts
    · rintro ⟨place, more, divided, digit⟩
      cases divided
      exact ⟨second, later ++ rest, rfl, digit⟩

theorem stopsLike (alike : BeginsLike rest other) : StopsLike rest other where
  next := by
    intro char starts
    exact Or.inr (alike.next char starts)
  fraction := alike.fraction

end BeginsLike

/-! ## Pieces in front of a text -/

/-- Where `rest` follows, the pieces are those that their text is cut into. -/
def HoldBefore (done : List Piece) (rest : List Char) : Prop :=
  pieces (textOf done ++ rest) = done ++ pieces rest

namespace HoldBefore

variable {done : List Piece} {rest : List Char}

theorem nil (rest : List Char) : HoldBefore [] rest := rfl

/-- The first of some pieces is what is cut off, and the others hold as before. -/
theorem exists_cutAt {piece : Piece} (hold : HoldBefore (piece :: done) rest) :
    ∃ first following, piece = (cutAt first following).piece first ∧
      (cutAt first following).rest = textOf done ++ rest ∧ HoldBefore done rest := by
  rw [HoldBefore, textOf_cons, List.append_assoc] at hold
  cases text : piece.text ++ (textOf done ++ rest) with
  | nil =>
      rw [text, pieces_nil] at hold
      cases hold
  | cons first following =>
      rw [text, pieces_cons, List.cons_append] at hold
      rcases List.cons.inj hold with ⟨rfl, later⟩
      have parts := cutAt_append first following
      have remaining : (cutAt first following).rest = textOf done ++ rest :=
        List.append_cancel_left (parts.trans (List.cons.inj text).2.symm)
      rw [remaining] at later
      exact ⟨first, following, rfl, remaining, later⟩

/-- What follows some pieces may be exchanged for a text that begins alike. -/
theorem exchange (hold : HoldBefore done rest) (closed : ∀ piece ∈ done, piece.role ≠ .openString)
    {other : List Char} (alike : BeginsLike rest other) : HoldBefore done other := by
  induction done with
  | nil => exact nil other
  | cons piece later ih =>
      rcases List.forall_mem_cons.mp closed with ⟨closedHere, closedLater⟩
      rcases hold.exists_cutAt with ⟨first, following, rfl, remaining, holdLater⟩
      have alikeHere := alike.behind (textOf later)
      rw [← remaining] at alikeHere
      have oneLine : (cutAt first following).role = .comment →
          ∀ char ∈ (textOf later ++ other).head?, char = '\n' := by
        intro comment char starts
        exact (of_comment comment).2 char (alikeHere.next char starts)
      have cut := cutAt_more_append closedHere oneLine alikeHere.stopsLike
      rw [HoldBefore, textOf_cons, List.append_assoc, Cut.piece, List.cons_append, pieces_cons, cut,
        ih holdLater closedLater]
      rfl

/-- Some pieces hold by themselves. -/
theorem pieces_textOf (hold : HoldBefore done rest)
    (closed : ∀ piece ∈ done, piece.role ≠ .openString) : pieces (textOf done) = done := by
  have alone := hold.exchange closed (BeginsLike.of_isPrefix List.nil_prefix)
  rwa [HoldBefore, List.append_nil, pieces_nil, List.append_nil] at alone

/-- The last pieces of a text are the pieces of their own text. -/
theorem pieces_textOf_left {text : List Char} {left : List Piece}
    (divided : pieces text = done ++ left) : pieces (textOf left) = left := by
  induction text using pieces.induct generalizing done with
  | case1 =>
      rw [pieces_nil] at divided
      rw [(List.append_eq_nil_iff.mp divided.symm).2, textOf_nil, pieces_nil]
  | case2 first following ih =>
      cases done with
      | nil =>
          rw [List.nil_append] at divided
          rw [← divided, textOf_pieces]
      | cons piece later =>
          rw [pieces_cons, List.cons_append] at divided
          exact ih (List.cons.inj divided).2

/-- The first pieces of a text hold in front of the others. -/
theorem of_divided {text : List Char} {left : List Piece} (divided : pieces text = done ++ left) :
    HoldBefore done (textOf left) := by
  rw [HoldBefore, ← textOf_append, ← divided, textOf_pieces, pieces_textOf_left divided]
  exact divided

/-- Where some pieces hold, a scan divides: what is behind them is scanned as if it stood alone and
then moved. -/
theorem scan_append {behind : String} (hold : HoldBefore done behind.toList)
    (closed : ∀ piece ∈ done, piece.role ≠ .openString) {front : String}
    (text : front.toList = textOf done) :
    (scan (front ++ behind)).tokens =
      (scan front).tokens.dropLast ++ (scan behind).tokens.map
        (Token.moved front.utf8ByteSize (front.toList.count '\n')) ∧
    (scan (front ++ behind)).errors =
      (scan front).errors ++ (scan behind).errors.map
        (ScanError.moved (front.toList.count '\n')) := by
  have alone : pieces front.toList = done := by rw [text, hold.pieces_textOf closed]
  have laidOut : placedPieces (front ++ behind).toList =
      placedPieces front.toList ++ layOut front.toList (pieces behind.toList) := by
    rw [HoldBefore, ← text] at hold
    rw [placedPieces, String.toList_append, hold, layOut_append, placedPieces, alone,
      List.nil_append, text]
  constructor
  · simp only [scan, scanText_eq]
    rw [laidOut, tokensOf_append, tokensOf_behind, String.toList_append, finalToken_behind,
      List.dropLast_concat, List.map_append, List.append_assoc, Text.byteLength_toList]
    rfl
  · simp only [scan, scanText_eq]
    rw [laidOut, errorsOf_append, errorsOf_behind]
    rfl

end HoldBefore

/-! ## The pieces up to a token -/

/-- A token comes from a piece, and its number is that of the tokens before it. -/
theorem exists_of_getElem?_tokensOf {before : List Char} {parts : List Piece} {index : Nat}
    {token : Token} (here : (tokensOf (layOut before parts))[index]? = some token) :
    ∃ earlier piece later, parts = earlier ++ piece :: later ∧
      Placed.token? ⟨before ++ textOf earlier, piece⟩ = some token ∧
      (tokensOf (layOut before earlier)).length = index := by
  induction parts generalizing before index with
  | nil => cases here
  | cons piece rest ih =>
      rw [layOut_cons, tokensOf_append] at here
      cases found : Placed.token? ⟨before, piece⟩ with
      | none =>
          have noToken : tokensOf [⟨before, piece⟩] = [] := by simp [tokensOf, found]
          rw [noToken, List.nil_append] at here
          rcases ih here with ⟨earlier, next, later, rfl, isToken, count⟩
          refine ⟨piece :: earlier, next, later, rfl, ?_, ?_⟩
          · rw [textOf_cons, ← List.append_assoc]
            exact isToken
          · rw [layOut_cons, tokensOf_append, noToken, List.nil_append]
            exact count
      | some first =>
          have oneToken : tokensOf [⟨before, piece⟩] = [first] := by simp [tokensOf, found]
          rw [oneToken] at here
          cases index with
          | zero =>
              cases here
              refine ⟨[], piece, rest, rfl, ?_, rfl⟩
              rw [textOf_nil, List.append_nil]
              exact found
          | succ index =>
              rcases ih here with ⟨earlier, next, later, rfl, isToken, count⟩
              refine ⟨piece :: earlier, next, later, rfl, ?_, ?_⟩
              · rw [textOf_cons, ← List.append_assoc]
                exact isToken
              · rw [layOut_cons, tokensOf_append, oneToken, List.length_append, count,
                  Nat.add_comm]
                rfl

/-- Some pieces, the last of which is the token of a number. -/
structure EndWith (done : List Piece) (index : Nat) (token : Token) : Prop where
  closed : ∀ piece ∈ done, piece.role ≠ .openString
  tokens : ∃ earlier, tokensOf (layOut [] done) = earlier ++ [token] ∧ earlier.length = index
  stop : Text.byteLength (textOf done) = token.span.stop

/-- Every token of a scan but the last one ends some pieces of the source. -/
theorem exists_endWith {source : String} {index : Nat} {token : Token}
    (here : (scan source).tokens[index]? = some token) (notLast : token.isEndOfInput = false) :
    ∃ done left, pieces source.toList = done ++ left ∧ EndWith done index token := by
  rw [scan, scanText_eq] at here
  have among : index < (tokensOf (placedPieces source.toList)).length := by
    apply Nat.lt_of_not_le
    intro behind
    rw [List.getElem?_append_right behind] at here
    have isFinal := List.mem_singleton.mp (List.mem_of_getElem? here)
    rw [isFinal] at notLast
    cases notLast
  rw [List.getElem?_append_left among] at here
  rcases exists_of_getElem?_tokensOf here with ⟨earlier, piece, later, divided, isToken, count⟩
  rw [List.nil_append] at isToken
  refine ⟨earlier ++ [piece], later, by rw [divided, List.append_assoc]; rfl, ?_, ?_, ?_⟩
  · refine List.forall_mem_append.mpr ⟨ne_openString_of_append divided (List.cons_ne_nil _ _), ?_⟩
    intro last isLast isOpen
    rw [List.mem_singleton.mp isLast, (Placed.token?_eq_some isToken).2] at isOpen
    cases isOpen
  · refine ⟨tokensOf (layOut [] earlier), ?_, count⟩
    rw [layOut_append, tokensOf_append, List.nil_append]
    simp [layOut, tokensOf, isToken]
  · rw [(Placed.token?_eq_some isToken).1]
    simp [Placed.span]

theorem EndWith.getElem?_tokens {source : String} {done left : List Piece} {index : Nat}
    {token : Token} (front : EndWith done index token) (divided : pieces source.toList = done ++ left) :
    (scan source).tokens[index]? = some token := by
  rcases front.tokens with ⟨earlier, tokens, rfl⟩
  rw [scan, scanText_eq, placedPieces, divided, layOut_append, tokensOf_append, tokens,
    List.append_assoc, List.append_assoc, List.getElem?_append_right (Nat.le_refl _), Nat.sub_self]
  rfl

end Scan
end LoxTokenizer
