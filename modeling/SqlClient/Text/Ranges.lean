namespace SqlClient

/-- Whether a code point lies in one of the ranges, which ascend, so the search ends at the first
range beyond it. -/
def inRanges : List (Nat × Nat) → Nat → Bool
  | [], _ => false
  | (low, high) :: rest, n =>
    if n < low then false else if n ≤ high then true else inRanges rest n

end SqlClient
