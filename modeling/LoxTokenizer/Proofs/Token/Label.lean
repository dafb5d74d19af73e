import LoxTokenizer.Token.Kind

namespace LoxTokenizer
namespace Token
namespace Tag

/-!
# Labels

A label is a word of capital letters and underscores, and no two tags share one.
-/

theorem label_inj {first second : Tag} (same : first.label = second.label) : first = second := by
  have apart : ∀ first ∈ all, ∀ second ∈ all, first.label = second.label → first = second := by
    decide +kernel
  exact apart first first.mem_all second second.mem_all same

theorem label_parts (tag : Tag) :
    ∀ char ∈ tag.label.toList, (char.isUpper || char == '_') = true := by
  have every : ∀ tag ∈ all, tag.label.toList.all (fun char => char.isUpper || char == '_') = true := by
    decide
  exact List.all_eq_true.mp (every tag tag.mem_all)

end Tag
end Token
end LoxTokenizer
