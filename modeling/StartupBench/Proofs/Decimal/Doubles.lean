import Mathlib.Algebra.Order.Field.Power
import Mathlib.Tactic.Linarith
import Mathlib.Tactic.Positivity
import Mathlib.Tactic.NormNum
import Mathlib.Tactic.Ring
import StartupBench.Decimal.Shortest

/-!
# The doubles and the reals around them

A finite double is `± m · 2 ^ q`, and no two of them are the same double: the mantissa and the
exponent are `Binary64.Canonical`.  The reals that are nearest to a positive double are the interval
`Decimal.intervalOf m q`, and no real is in two of these intervals: where two of them touch, one of
the two mantissas is odd and does not have the end (`Binary64.eq_of_nearest`).  So a real in the
interval of a double tells which double it is.

## Parts

`Binary64.ofFloat` takes a double apart by its bits.  What it finds is canonical, and it loses
nothing of a number (`Binary64.ofFloat_inj`); only the doubles that are none have many patterns of
bits for one `Binary64.nan`.

## Intervals

The interval ends halfway to the doubles on either side, at `Binary64.lower` and `Binary64.upper`.
The gap towards zero is half as wide where the mantissa is a power of two, which is the reason that
the proof of `Binary64.not_nearest_of_gap` goes by the gap between the two ends and not by the
mantissas.  `Proofs.Decimal.Shortest` shows that the shortest decimal lies in the interval of its
double, and `Proofs.Decimal.Plain` puts the two together.
-/

namespace StartupBench.Binary64

/-! ## The parts of a double -/

/-- The parts of a finite double: a mantissa of 53 bits, or of fewer at the least exponent.  Every
finite double has one such pair, by `ofFloat_inj`. -/
structure Canonical (m : ℕ) (q : ℤ) : Prop where
  mantissa : m < 2 ^ 53
  exponent : -1074 ≤ q
  normal : m < 2 ^ 52 → q = -1074

lemma ofBits_eq (bits : UInt64) :
    ofBits bits =
      let negative := bits.toNat / 2 ^ 63 == 1
      let field : ℕ := bits.toNat / 2 ^ 52 % 2048
      let fraction := bits.toNat % 2 ^ 52
      if field = 2047 then if fraction = 0 then .infinite negative else .nan
      else if field = 0 then .finite negative fraction (-1074)
      else .finite negative (2 ^ 52 + fraction) ((field : ℤ) - 1075) := rfl

lemma canonical_of_ofBits {bits : UInt64} {negative : Bool} {m : ℕ} {q : ℤ}
    (h : ofBits bits = .finite negative m q) : Canonical m q := by
  rw [ofBits_eq] at h
  dsimp only at h
  split_ifs at h with top none zero <;> cases h
  · exact ⟨by omega, le_refl _, fun _ => rfl⟩
  · exact ⟨by omega, by omega, fun h => by omega⟩

/-- Bits are told by the parts of their double, if it is a number.  There are many patterns of bits
for `nan`. -/
lemma ofBits_inj {a b : UInt64} (h : ofBits a = ofBits b) (number : ofBits a ≠ .nan) : a = b := by
  have small : ∀ c : UInt64, c.toNat < 2 ^ 64 := fun c => c.toNat_lt
  have ha := small a
  have hb := small b
  apply UInt64.toNat.inj
  rw [ofBits_eq] at h number
  rw [ofBits_eq] at h
  dsimp only at h number
  split_ifs at h number <;> simp at h number <;> omega

/-- A double is told by its parts, if it is a number: `ofFloat` forgets nothing but which `nan` it
was. -/
lemma ofFloat_inj {x y : Float} (h : ofFloat x = ofFloat y) (number : ofFloat x ≠ .nan) :
    x = y := by
  have bits : x.toBits = y.toBits := ofBits_inj h number
  obtain ⟨⟨a, ha⟩⟩ := x
  obtain ⟨⟨b, hb⟩⟩ := y
  obtain rfl : a = b := bits
  rfl

/-! ## The reals around a double -/

/-- The end of the interval of `m · 2 ^ q` towards zero.  The gap there is half as wide at the least
mantissa of 53 bits. -/
def lower (m : ℕ) (q : ℤ) : ℚ := (4 * m - if m = 2 ^ 52 then 1 else 2) * 2 ^ (q - 2)

/-- The other end, halfway to the next double away from zero.  The gap there is as wide as `2 ^ q`,
for whichever mantissa. -/
def upper (m : ℕ) (q : ℤ) : ℚ := (4 * m + 2) * 2 ^ (q - 2)

/-- The real is nearest to the double `m · 2 ^ q`: at the ends only an even mantissa has it. -/
def Nearest (m : ℕ) (q : ℤ) (x : ℚ) : Prop :=
  lower m q ≤ x ∧ x ≤ upper m q ∧ (m % 2 = 1 → lower m q < x ∧ x < upper m q)

lemma upper_le_lower_of_lt {m n : ℕ} (q : ℤ) (h : m < n) :
    upper m q ≤ lower n q ∧ (m % 2 = 0 → n % 2 = 0 → upper m q < lower n q) := by
  have step : (0 : ℚ) < 2 ^ (q - 2) := by positivity
  unfold upper lower
  have next : (m : ℚ) + 1 ≤ n := by exact_mod_cast h
  constructor
  · refine mul_le_mul_of_nonneg_right ?_ step.le
    split_ifs <;> linarith
  · intro even even'
    have next : (m : ℚ) + 2 ≤ n := by exact_mod_cast (show m + 2 ≤ n by omega)
    refine mul_lt_mul_of_pos_right ?_ step
    split_ifs <;> linarith

lemma upper_le_lower_of_exponent_lt {m n : ℕ} {q r : ℤ} (hm : m < 2 ^ 53) (hn : 2 ^ 52 ≤ n)
    (h : q < r) :
    upper m q ≤ lower n r ∧ (m % 2 = 0 → n % 2 = 0 → upper m q < lower n r) := by
  have step : (0 : ℚ) < 2 ^ (q - 2) := by positivity
  have double : (2 : ℚ) * 2 ^ (q - 2) ≤ 2 ^ (r - 2) := by
    rw [← zpow_one_add₀ (by norm_num)]
    exact zpow_le_zpow_right₀ (by norm_num) (by omega)
  have least : (2 ^ 54 - 1 : ℚ) ≤ 4 * n - if n = 2 ^ 52 then 1 else 2 := by
    split_ifs with same
    · rw [same]
      norm_num
    · have next : (2 ^ 52 + 1 : ℚ) ≤ n := by exact_mod_cast (show 2 ^ 52 + 1 ≤ n by omega)
      linarith
  have far : (2 ^ 55 - 2 : ℚ) * 2 ^ (q - 2) ≤ lower n r :=
    calc (2 ^ 55 - 2 : ℚ) * 2 ^ (q - 2) = (2 ^ 54 - 1) * (2 * 2 ^ (q - 2)) := by ring
      _ ≤ (2 ^ 54 - 1) * 2 ^ (r - 2) := mul_le_mul_of_nonneg_left double (by norm_num)
      _ ≤ lower n r := mul_le_mul_of_nonneg_right least (by positivity)
  constructor
  · have most : (m : ℚ) ≤ 2 ^ 53 - 1 := by
      have := (show m + 1 ≤ 2 ^ 53 by omega)
      have cast : (m : ℚ) + 1 ≤ 2 ^ 53 := by exact_mod_cast this
      linarith
    refine le_trans ?_ far
    exact mul_le_mul_of_nonneg_right (by linarith) step.le
  · intro even _
    have most : (m : ℚ) + 2 ≤ 2 ^ 53 := by exact_mod_cast (show m + 2 ≤ 2 ^ 53 by omega)
    refine lt_of_lt_of_le ?_ far
    exact mul_lt_mul_of_pos_right (by linarith) step

/-- The greater of two doubles begins where the less ends, or later, so that no real is `Nearest` to
both.  Where the ends touch, two even mantissas would share one, and that is excluded. -/
lemma not_nearest_of_gap {m n : ℕ} {q r : ℤ} {x : ℚ}
    (gap : upper m q ≤ lower n r ∧ (m % 2 = 0 → n % 2 = 0 → upper m q < lower n r))
    (h : Nearest m q x) : ¬Nearest n r x := by
  rintro ⟨hlow, -, strict⟩
  obtain ⟨-, hhigh, strict'⟩ := h
  obtain ⟨le, lt⟩ := gap
  rcases Nat.mod_two_eq_zero_or_one m with even | odd
  · rcases Nat.mod_two_eq_zero_or_one n with even' | odd'
    · exact absurd (lt even even') (by linarith)
    · linarith [(strict odd').1]
  · linarith [(strict' odd).2]

/-- **A real is nearest to one double at most.** -/
theorem eq_of_nearest {m n : ℕ} {q r : ℤ} {x : ℚ} (hm : Canonical m q) (hn : Canonical n r)
    (h : Nearest m q x) (h' : Nearest n r x) : m = n ∧ q = r := by
  have normal : ∀ {m : ℕ} {q : ℤ}, Canonical m q → -1074 < q → 2 ^ 52 ≤ m := by
    intro m q hm hq
    by_contra small
    exact absurd (hm.normal (by omega)) (by omega)
  rcases lt_trichotomy q r with before | rfl | after
  · have hn52 := normal hn (lt_of_le_of_lt hm.exponent before)
    exact absurd h' (not_nearest_of_gap (upper_le_lower_of_exponent_lt hm.mantissa hn52 before) h)
  · rcases lt_trichotomy m n with less | rfl | more
    · exact absurd h' (not_nearest_of_gap (upper_le_lower_of_lt q less) h)
    · exact ⟨rfl, rfl⟩
    · exact absurd h (not_nearest_of_gap (upper_le_lower_of_lt q more) h')
  · have hm52 := normal hm (lt_of_le_of_lt hn.exponent after)
    exact absurd h (not_nearest_of_gap (upper_le_lower_of_exponent_lt hn.mantissa hm52 after) h')

end StartupBench.Binary64
