/-!
# Sets of characters as ranges
-/

namespace StartupBench.Text

/-- A set of characters, as the first and last code point of each of its ranges in ascending
order. -/
abbrev Ranges := List (Nat × Nat)

/-- Membership: the search ends at the first range that begins behind the character. -/
def Ranges.has : Ranges → Char → Bool
  | [], _ => false
  | (first, last) :: rest, c =>
    if c.toNat < first then false else c.toNat ≤ last || Ranges.has rest c

end StartupBench.Text
