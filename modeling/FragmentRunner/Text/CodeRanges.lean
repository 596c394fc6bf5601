/-!
# Sets of code points

A set of characters given by intervals of code points, which is how a property of the Unicode
character database is written down. Main statement: `CodeRanges.has_iff`, membership means lying
in one of the intervals.
-/

namespace FragmentRunner.Text

/-- A set of code points as closed intervals `(first, last)`. -/
abbrev CodeRanges := List (Nat × Nat)

/-- Whether the code point of `c` lies in one of the intervals. -/
def CodeRanges.has (ranges : CodeRanges) (c : Char) : Bool :=
  ranges.any fun range => decide (range.1 ≤ c.toNat) && decide (c.toNat ≤ range.2)

theorem CodeRanges.has_iff {ranges : CodeRanges} {c : Char} :
    ranges.has c = true ↔ ∃ range ∈ ranges, range.1 ≤ c.toNat ∧ c.toNat ≤ range.2 := by
  simp [CodeRanges.has]

/-- Two sets have no character in common if none of their intervals overlap. -/
theorem CodeRanges.not_has_of_has {ranges others : CodeRanges} {c : Char}
    (hapart : ∀ range ∈ ranges, ∀ other ∈ others, range.2 < other.1 ∨ other.2 < range.1)
    (h : ranges.has c = true) : others.has c = false := by
  rw [Bool.eq_false_iff]
  intro hother
  obtain ⟨range, hrange, hfirst, hlast⟩ := CodeRanges.has_iff.mp h
  obtain ⟨other, hmem, hfirst', hlast'⟩ := CodeRanges.has_iff.mp hother
  have := hapart range hrange other hmem
  omega

end FragmentRunner.Text
