namespace EnergyReport.Text

/-! Sets of characters given by sorted, disjoint ranges of code points. -/

/-- Whether the character's code point lies in one of the ranges, which are
sorted, so that the search ends at the first range beyond it. -/
def inRanges : List (Nat × Nat) → Char → Bool
  | [], _ => false
  | (low, high) :: rest, c =>
      if c.toNat < low then false
      else if c.toNat ≤ high then true
      else inRanges rest c

end EnergyReport.Text
