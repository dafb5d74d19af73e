import LoxTokenizer.Token.Kind

namespace LoxTokenizer
namespace Token
namespace Keyword

/-!
The table of reserved words, in the order of their spellings, and the search for a spelling by
halving the part of the table that can still hold it.
-/

/-- The reserved words with their spellings, sorted by spelling. -/
def table : Array (String × Keyword) :=
  #[("and", .andWord),
    ("class", .classWord),
    ("else", .elseWord),
    ("false", .falseWord),
    ("for", .forWord),
    ("fun", .funWord),
    ("if", .ifWord),
    ("nil", .nilWord),
    ("or", .orWord),
    ("print", .printWord),
    ("return", .returnWord),
    ("super", .superWord),
    ("this", .thisWord),
    ("true", .trueWord),
    ("var", .varWord),
    ("while", .whileWord)]

/-- Looks for a spelling among the entries from `low` up to, but not including, `high`. -/
def searchBetween (text : String) (low high : Nat) : Option Keyword :=
  if low < high then
    let middle := (low + high) / 2
    match table[middle]? with
    | none => none
    | some (spelling, word) =>
        match compare text spelling with
        | .lt => searchBetween text low middle
        | .eq => some word
        | .gt => searchBetween text (middle + 1) high
  else none
termination_by high - low

/-- The reserved word with exactly this spelling, if there is one. -/
def ofSpelling? (text : String) : Option Keyword := searchBetween text 0 table.size

/-- Each entry of the table carries the spelling of its word. -/
theorem spelling_of_mem_table {entry : String × Keyword} (listed : entry ∈ table) :
    entry.2.spelling = entry.1 := by
  simp only [table, List.mem_toArray, List.mem_cons, List.not_mem_nil, or_false] at listed
  rcases listed with rfl | rfl | rfl | rfl | rfl | rfl | rfl | rfl | rfl | rfl | rfl | rfl | rfl |
    rfl | rfl | rfl <;> rfl

end Keyword

/-- What a name is: a reserved word, or else an identifier. -/
def Kind.ofName (spelling : String) : Kind :=
  match Keyword.ofSpelling? spelling with
  | some word => .keyword word
  | none => .identifier

end Token
end LoxTokenizer
