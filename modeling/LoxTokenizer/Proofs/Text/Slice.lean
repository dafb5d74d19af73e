import LoxTokenizer.Text.Bytes

namespace LoxTokenizer
namespace Text

/-!
# Ranges of bytes that can be cut out

A range of bytes has a text only if it is in order, ends inside the whole text, and both of its ends
lie between two characters.  `IsSlice` states these conditions one by one, and `betweenBytes?` answers
under exactly these conditions; then it answers what the range leaves when it is cut free on both sides.
-/

/-- A place in front of a character of a text, or at its end. -/
def IsBoundary (text : List Char) (position : Nat) : Prop :=
  ∃ before behind, before ++ behind = text ∧ byteLength before = position

/-- A range of bytes that is a piece of a text. -/
structure IsSlice (text : List Char) (start stop : Nat) : Prop where
  ordered : start ≤ stop
  inside : stop ≤ byteLength text
  startBoundary : IsBoundary text start
  stopBoundary : IsBoundary text stop

theorem eq_nil_of_byteLength_eq_zero {text : List Char} (empty : byteLength text = 0) :
    text = [] := by
  cases text with
  | nil => rfl
  | cons char rest =>
      have := char.utf8Size_pos
      rw [byteLength_cons] at empty
      omega

/-- Of two cuts of a text the one with fewer bytes in front comes first. -/
theorem isPrefix_of_byteLength_le {before behind other rest : List Char}
    (same : before ++ behind = other ++ rest) (fewer : byteLength before ≤ byteLength other) :
    before <+: other := by
  rcases List.append_eq_append_iff.mp same with ⟨more, divided, _⟩ | ⟨more, divided, _⟩
  · exact ⟨more, divided.symm⟩
  · rw [divided, byteLength_append] at fewer
    have nothing : more = [] := eq_nil_of_byteLength_eq_zero (by omega)
    have whole : before = other := by rw [divided, nothing, List.append_nil]
    exact whole ▸ List.prefix_rfl

theorem fromByte?_append (before behind : List Char) :
    fromByte? (byteLength before) (before ++ behind) = some behind := by
  rw [fromByte?, splitAtByte?_append, Option.map_some]

/-- A part of a text is cut out between its two ends. -/
theorem betweenBytes?_append (before slice behind : List Char) :
    betweenBytes? (byteLength before) (byteLength (before ++ slice)) (before ++ slice ++ behind) =
      some slice := by
  rw [betweenBytes?, splitAtByte?_append, Option.bind_some]
  exact fromByte?_append before slice

/-- What is cut out of a text lies in it where the two places say. -/
theorem betweenBytes?_eq_some_iff {start stop : Nat} {text slice : List Char} :
    betweenBytes? start stop text = some slice ↔
      ∃ before behind, before ++ slice ++ behind = text ∧ byteLength before = start ∧
        byteLength (before ++ slice) = stop := by
  constructor
  · intro cut
    rcases Option.bind_eq_some_iff.mp cut with ⟨⟨front, behind⟩, cutBehind, cutFront⟩
    rcases Option.map_eq_some_iff.mp cutFront with ⟨⟨before, same⟩, cutBefore, rfl⟩
    rcases splitAtByte?_eq_some cutBehind with ⟨whole, stops⟩
    rcases splitAtByte?_eq_some cutBefore with ⟨divided, starts⟩
    exact ⟨before, behind, by rw [divided, whole], starts, by rw [divided, stops]⟩
  · rintro ⟨before, behind, rfl, rfl, rfl⟩
    exact betweenBytes?_append before slice behind

theorem isSlice_append (before slice behind : List Char) :
    IsSlice (before ++ slice ++ behind) (byteLength before) (byteLength (before ++ slice)) where
  ordered := by
    rw [byteLength_append]
    exact Nat.le_add_right _ _
  inside := by
    rw [byteLength_append (before ++ slice)]
    exact Nat.le_add_right _ _
  startBoundary := ⟨before, slice ++ behind, (List.append_assoc _ _ _).symm, rfl⟩
  stopBoundary := ⟨before ++ slice, behind, rfl, rfl⟩

/-- A range can be cut out exactly when it is a piece of the text. -/
theorem isSlice_iff {start stop : Nat} {text : List Char} :
    IsSlice text start stop ↔ ∃ slice, betweenBytes? start stop text = some slice := by
  constructor
  · rintro ⟨ordered, _, ⟨before, rest, whole, rfl⟩, ⟨other, behind, otherWhole, rfl⟩⟩
    rcases isPrefix_of_byteLength_le (whole.trans otherWhole.symm) ordered with ⟨slice, divided⟩
    exact ⟨slice, betweenBytes?_eq_some_iff.mpr
      ⟨before, behind, by rw [divided, otherWhole], rfl, by rw [divided]⟩⟩
  · rintro ⟨slice, cut⟩
    rcases betweenBytes?_eq_some_iff.mp cut with ⟨before, behind, rfl, rfl, rfl⟩
    exact isSlice_append before slice behind

end Text
end LoxTokenizer
