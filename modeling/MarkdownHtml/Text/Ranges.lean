/-! Look-up in a table of disjoint code point ranges, sorted upwards, by halving. -/

namespace MarkdownHtml.Text

/-- The entry at positions `low` to `high` of the table whose range holds the number. -/
def findBetween (range : α → Nat × Nat) (table : Array α) (n low high : Nat) : Option α :=
  if low < high then
    let middle := (low + high) / 2
    match table[middle]? with
    | none => none
    | some entry =>
      if n < (range entry).1 then findBetween range table n low middle
      else if (range entry).2 < n then findBetween range table n (middle + 1) high
      else some entry
  else none
termination_by high - low

def inRanges (table : Array (Nat × Nat)) (c : Char) : Bool :=
  (findBetween id table c.toNat 0 table.size).isSome

end MarkdownHtml.Text
