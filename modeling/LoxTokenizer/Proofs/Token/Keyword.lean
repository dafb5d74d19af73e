import LoxTokenizer.Token.Keyword

namespace LoxTokenizer
namespace Token
namespace Keyword

/-!
# Searching the reserved words

The table is sorted by spelling, so halving it finds a spelling exactly where going through all of
it would.  The invariant is that an entry with the wanted spelling lies between the two bounds, if
there is one: the table is sorted, so a comparison with the middle entry rules out everything on the
other side of it.
-/

/-- Earlier spellings are smaller. -/
theorem table_sorted :
    (table.toList.map Prod.fst).Pairwise (fun first second => compare first second = .lt) := by
  decide

theorem compare_of_lt {low high : Nat} {first second : String × Keyword} (less : low < high)
    (isFirst : table[low]? = some first) (isSecond : table[high]? = some second) :
    compare first.1 second.1 = .lt := by
  have inBounds := (Array.getElem?_eq_some_iff.mp isSecond).1
  have sorted := List.pairwise_iff_getElem.mp table_sorted low high
    (by simpa using Nat.lt_trans less inBounds) (by simpa using inBounds) less
  rw [Array.getElem?_eq_some_iff] at isFirst isSecond
  rcases isFirst with ⟨_, rfl⟩
  rcases isSecond with ⟨_, rfl⟩
  simpa using sorted

/-- Entries compare by their spellings as they do by their places in the table. -/
theorem compare_spelling {low high : Nat} {first second : String × Keyword}
    (isFirst : table[low]? = some first) (isSecond : table[high]? = some second) :
    compare first.1 second.1 = compare low high := by
  rcases Nat.lt_trichotomy low high with less | rfl | greater
  · rw [compare_of_lt less isFirst isSecond, Nat.compare_eq_lt.mpr less]
  · rw [isFirst] at isSecond
    cases isSecond
    rw [Std.ReflOrd.compare_self, Std.ReflOrd.compare_self]
  · rw [Std.OrientedCmp.gt_of_lt (compare_of_lt greater isSecond isFirst),
      Nat.compare_eq_gt.mpr greater]

/-- The search finds what lies between its bounds. -/
theorem searchBetween_eq_some_iff (text : String) (word : Keyword) (low high : Nat)
    (bounded : high ≤ table.size) :
    searchBetween text low high = some word ↔
      ∃ index, low ≤ index ∧ index < high ∧ table[index]? = some (text, word) := by
  fun_induction searchBetween text low high with
  | case1 low high unfinished middle missing =>
      have inBounds : middle < table.size := by omega
      rw [Array.getElem?_eq_getElem inBounds] at missing
      cases missing
  | case2 low high unfinished middle spelling entry found less ih =>
      rw [ih (by omega)]
      constructor
      · rintro ⟨index, above, below, here⟩
        exact ⟨index, above, by omega, here⟩
      · rintro ⟨index, above, below, here⟩
        have placed : compare index middle = .lt := (compare_spelling here found).symm.trans less
        exact ⟨index, above, Nat.compare_eq_lt.mp placed, here⟩
  | case3 low high unfinished middle spelling entry found same =>
      have spelled : text = spelling := Std.LawfulEqOrd.eq_of_compare same
      subst spelled
      constructor
      · intro sameWord
        cases sameWord
        exact ⟨middle, by omega, by omega, found⟩
      · rintro ⟨index, above, below, here⟩
        have placed : compare index middle = .eq := (compare_spelling here found).symm.trans same
        rw [Nat.compare_eq_eq.mp placed, found] at here
        cases here
        rfl
  | case4 low high unfinished middle spelling entry found greater ih =>
      rw [ih bounded]
      constructor
      · rintro ⟨index, above, below, here⟩
        exact ⟨index, by omega, below, here⟩
      · rintro ⟨index, above, below, here⟩
        have placed : compare index middle = .gt :=
          (compare_spelling here found).symm.trans greater
        exact ⟨index, Nat.compare_eq_gt.mp placed, below, here⟩
  | case5 low high closed =>
      constructor
      · intro impossible
        cases impossible
      · rintro ⟨index, above, below, here⟩
        omega

/-- A word is found for a text exactly when the table lists it with that spelling. -/
theorem ofSpelling?_eq_some_iff (text : String) (word : Keyword) :
    ofSpelling? text = some word ↔ (text, word) ∈ table := by
  rw [ofSpelling?, searchBetween_eq_some_iff text word 0 table.size (Nat.le_refl _),
    Array.mem_iff_getElem?]
  constructor
  · rintro ⟨index, _, _, here⟩
    exact ⟨index, here⟩
  · rintro ⟨index, here⟩
    exact ⟨index, Nat.zero_le _, (Array.getElem?_eq_some_iff.mp here).1, here⟩

end Keyword

/-- A name is the word that the table lists with its spelling, or else an identifier. -/
theorem Kind.ofName_eq_keyword_iff (spelling : String) (word : Keyword) :
    Kind.ofName spelling = .keyword word ↔ (spelling, word) ∈ Keyword.table := by
  rw [← Keyword.ofSpelling?_eq_some_iff, Kind.ofName]
  cases Keyword.ofSpelling? spelling with
  | none => simp
  | some found => simp

theorem Kind.ofName_eq_identifier_iff (spelling : String) :
    Kind.ofName spelling = .identifier ↔ ∀ word, (spelling, word) ∉ Keyword.table := by
  simp only [← Keyword.ofSpelling?_eq_some_iff, Kind.ofName]
  cases Keyword.ofSpelling? spelling with
  | none => simp
  | some found => simp

end Token
end LoxTokenizer
