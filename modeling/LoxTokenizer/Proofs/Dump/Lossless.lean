import LoxTokenizer.Dump.Reading
import LoxTokenizer.Proofs.Json.RoundTrip
import LoxTokenizer.Proofs.Scan.Genuine

namespace LoxTokenizer

open Json (written writtenItems)

/-!
# Dumps can be read back

The JSON dump of a scan reads back to the tokens of the scan.  What JSON loses are the numbers that are
not finite, and of these a scan knows only one: a numeral spells no negative number and is always a
number, so a null in a dump stands for the number that is too large.
-/

namespace Number

/-- A number that is neither negative nor finite is infinity. -/
theorem Double.eq_infinity {value : Double} (number : value.isNaN = false)
    (positive : value.negative = false) (notFinite : value.isFinite = false) :
    value = .infinity := by
  rcases value with ⟨negative, magnitude, bounded⟩
  have notAbove : ¬ infinityMagnitude < magnitude := of_decide_eq_false number
  have notBelow : ¬ magnitude < infinityMagnitude := of_decide_eq_false notFinite
  have same : magnitude = infinityMagnitude :=
    Nat.le_antisymm (Nat.le_of_not_lt notAbove) (Nat.le_of_not_lt notBelow)
  subst same
  cases positive
  rfl

end Number

namespace Token

namespace Kind

theorem ofJson?_name (tag : Tag) : ofJson? (.string tag.name) = tag.kind? := by
  rw [ofJson?, Tag.ofName?_name, Option.bind_some]

theorem ofJson?_field (tag : Tag) (value : Json) :
    ofJson? (.object [(tag.name, value)]) = tag.kindWith? value := by
  rw [ofJson?, Tag.ofName?_name, Option.bind_some]

/-- A number that is not finite is read from the null in its place. -/
theorem ofJson?_number {value : Number.Double} (number : value.isNaN = false)
    (positive : value.negative = false) :
    ofJson? (Kind.number value).toJson.written = some (.number value) := by
  have field : ofJson? (Kind.number value).toJson.written =
      Tag.number.kindWith? (if value.isFinite then .double value else .null) :=
    ofJson?_field .number _
  rw [field]
  split
  · rfl
  · rename_i notFinite
    rw [Number.Double.eq_infinity number positive (Bool.eq_false_iff.mpr notFinite)]
    rfl

end Kind

/-- The data of a kind is read as that kind. -/
theorem Genuine.ofJson?_kind {token : Token} (genuine : token.Genuine) :
    Kind.ofJson? token.kind.toJson.written = some token.kind := by
  cases isKind : token.kind with
  | punctuator mark => exact Kind.ofJson?_name (.punctuator mark)
  | keyword word => exact Kind.ofJson?_name (.keyword word)
  | identifier => exact Kind.ofJson?_name .identifier
  | string text => exact Kind.ofJson?_field .string (.string text)
  | number value =>
      rcases genuine.number isKind with ⟨number, positive⟩
      exact Kind.ofJson?_number number positive
  | endOfInput => exact Kind.ofJson?_name .endOfInput

theorem Genuine.ofJson?_toJson {token : Token} (genuine : token.Genuine) :
    ofJson? token.toJson.written = some token := by
  change (Kind.ofJson? token.kind.toJson.written).map _ = _
  rw [genuine.ofJson?_kind]
  rfl

end Token

namespace Dump

theorem writtenItems_map (tokens : List Token) :
    writtenItems (tokens.map Token.toJson) = tokens.map fun token => token.toJson.written := by
  induction tokens with
  | nil => rfl
  | cons token tokens ih => rw [List.map_cons, writtenItems, ih, List.map_cons]

theorem read?_render (tokens : List Token) :
    Json.read? (render tokens .json) = some (.array (tokens.map fun token => token.toJson.written)) := by
  rw [render, Json.read?_pretty, data, written, writtenItems_map]

theorem mapM_ofJson?_toJson {tokens : List Token} (genuine : ∀ token ∈ tokens, token.Genuine) :
    (tokens.map fun token => token.toJson.written).mapM Token.ofJson? = some tokens := by
  induction tokens with
  | nil => rfl
  | cons token tokens ih =>
      rw [List.forall_mem_cons] at genuine
      rw [List.map_cons, List.mapM_cons, genuine.1.ofJson?_toJson, ih genuine.2]
      rfl

theorem readTokens?_render {tokens : List Token} (genuine : ∀ token ∈ tokens, token.Genuine) :
    readTokens? (render tokens .json) = some tokens := by
  rw [readTokens?, read?_render]
  exact mapM_ofJson?_toJson genuine

/-- The JSON dump of a source is an array that reads back to the tokens of the source.  Their numbers
are not negative and are numbers, so nothing is lost where JSON has no word for a number; and sources
with different tokens have different dumps. -/
theorem readTokens?_render_scan (source : String) :
    (∃ items, Json.read? (render (scan source).tokens .json) = some (.array items)) ∧
      readTokens? (render (scan source).tokens .json) = some (scan source).tokens ∧
      (∀ token ∈ (scan source).tokens, ∀ value, token.kind = .number value →
        value.isNaN = false ∧ value.negative = false) ∧
      ∀ other, render (scan source).tokens .json = render (scan other).tokens .json ↔
        (scan source).tokens = (scan other).tokens := by
  have readsBack : ∀ source, readTokens? (render (scan source).tokens .json) =
      some (scan source).tokens :=
    fun _ => readTokens?_render fun _ => Token.genuine_of_mem_scan
  refine ⟨⟨_, read?_render _⟩, readsBack source, ?_, ?_⟩
  · intro token member value isNumber
    exact (Token.genuine_of_mem_scan member).number isNumber
  · intro other
    constructor
    · intro same
      have read := readsBack source
      rw [same, readsBack other] at read
      exact (Option.some.inj read).symm
    · intro same
      rw [same]

end Dump
end LoxTokenizer
