import Mathlib.Data.Nat.Digits.Lemmas
import Mathlib.Tactic.FieldSimp
import StartupBench.Proofs.Decimal.Doubles

/-!
# The shortest decimal is nearest to its double

The search for the shortest decimal of a positive double tries grids of decimals that become finer
and finer.  On a grid that is not as coarse as the interval of the double, one of the two neighbours
of the double lies in the interval, and a grid of seventeen digits never is as coarse
(`Decimal.neighbour?_ne_none`).  So the search ends with a decimal in the interval
(`Decimal.shortest_nearest`).

## The search

The search has fuel for as many grids as could be needed, and an answer of its own for when the fuel
is used up.  `Decimal.holds_of_search` is the induction on the fuel: if there is a grid within it on
which a neighbour lies in the interval, what the search answers lies there too.

## Seventeen digits

Where the search goes on, both ends of the interval lie between two neighbours on the grid
(`Decimal.neighbour?_eq_none`), so that the grid is at least as coarse as the interval is wide.  The
first digit of the number is not far to the right (`Decimal.pow_pointOf_le`), and with this the
seventeenth is finer than `2 ^ q` for any mantissa of 53 bits.
-/

namespace StartupBench.Decimal

open Binary64 (Canonical Nearest lower upper)

/-! ## Digits -/

lemma digitsRev_eq (n : ℕ) : digitsRev n = Nat.digits 10 n := by
  fun_induction digitsRev n with
  | case1 => rw [Nat.digits_zero]
  | case2 n hn ih => rw [ih, Nat.digits_def' (by norm_num) (Nat.pos_of_ne_zero hn)]

lemma ofDigits_append (ds es : List ℕ) :
    ofDigits (ds ++ es) = ofDigits ds * 10 ^ es.length + ofDigits es := by
  induction es using List.reverseRecOn with
  | nil => simp [ofDigits]
  | append_singleton es e ih =>
    have last : ∀ l : List ℕ, ofDigits (l ++ [e]) = 10 * ofDigits l + e := by
      intro l
      unfold ofDigits
      rw [List.foldl_append]
      rfl
    rw [← List.append_assoc, last, last, ih, List.length_append, List.length_singleton, pow_succ]
    ring

lemma ofDigits_zeros (n : ℕ) : ofDigits (List.replicate n 0) = 0 := by
  induction n with
  | zero => rfl
  | succ n ih => rw [List.replicate_succ', ofDigits_append, ih]; rfl

lemma ofDigits_digitsOf (n : ℕ) : ofDigits (digitsOf n) = n := by
  have reversed : ∀ l : List ℕ, ofDigits l.reverse = Nat.ofDigits 10 l := by
    intro l
    induction l with
    | nil => rfl
    | cons d l ih =>
      rw [List.reverse_cons, ofDigits_append, ih, Nat.ofDigits_cons]
      show Nat.ofDigits 10 l * 10 ^ 1 + (10 * 0 + d) = d + 10 * Nat.ofDigits 10 l
      ring
  rw [digitsOf, reversed, digitsRev_eq, Nat.ofDigits_digits]

lemma digit_lt_of_mem {n d : ℕ} (h : d ∈ digitsOf n) : d < 10 := by
  rw [digitsOf, List.mem_reverse, digitsRev_eq] at h
  exact Nat.digits_lt_base (by norm_num) h

lemma exists_stripZeros (ds : List ℕ) : ∃ z, ds = stripZeros ds ++ List.replicate z 0 := by
  refine ⟨(ds.reverse.takeWhile (· == 0)).length, ?_⟩
  have zeros : ds.reverse.takeWhile (· == 0) =
      List.replicate (ds.reverse.takeWhile (· == 0)).length 0 := by
    refine List.eq_replicate_of_mem fun d hd => ?_
    exact beq_iff_eq.1 (List.all_eq_true.1 List.all_takeWhile d hd)
  rw [← List.reverse_inj, List.reverse_append, stripZeros, List.reverse_reverse,
    List.reverse_replicate, ← zeros, List.takeWhile_append_dropWhile]

lemma mem_of_mem_stripZeros {ds : List ℕ} {d : ℕ} (h : d ∈ stripZeros ds) : d ∈ ds := by
  obtain ⟨z, hz⟩ := exists_stripZeros ds
  rw [hz]
  exact List.mem_append_left _ h

/-- The number that a decimal is: `ofDigits` of its digits in base ten, scaled so that the point
stands behind the first `d.point` of them. -/
def number (d : Decimal) : ℚ := ofDigits d.digits * 10 ^ (d.point - d.digits.length)

/-- The zeros at the end of the digits do not matter for the `number`, so that `stripZeros` may take
them away. -/
lemma number_stripZeros (k : ℕ) (e : ℤ) :
    number ⟨stripZeros (digitsOf k), (digitsOf k).length + e⟩ = k * 10 ^ e := by
  obtain ⟨z, hz⟩ := exists_stripZeros (digitsOf k)
  have all : ofDigits (stripZeros (digitsOf k)) * 10 ^ z = k := by
    have whole := ofDigits_digitsOf k
    rw [hz, ofDigits_append, ofDigits_zeros, List.length_replicate, add_zero] at whole
    exact whole
  have length : ((digitsOf k).length : ℤ) = (stripZeros (digitsOf k)).length + z := by
    have whole := congrArg List.length hz
    rw [List.length_append, List.length_replicate] at whole
    exact_mod_cast whole
  have cast : (ofDigits (stripZeros (digitsOf k)) : ℚ) * 10 ^ z = k := by exact_mod_cast all
  unfold number
  dsimp only
  rw [length, ← cast, show ((stripZeros (digitsOf k)).length : ℤ) + z + e -
    (stripZeros (digitsOf k)).length = z + e by ring, zpow_add₀ (by norm_num), zpow_natCast]
  ring

/-! ## Quotients -/

lemma zpow_of_neg {b : ℚ} {e : ℤ} (h : e < 0) : b ^ e = (b ^ e.natAbs)⁻¹ := by
  have negated : e = -(e.natAbs : ℤ) := by omega
  conv_lhs => rw [negated, zpow_neg, zpow_natCast]

lemma zpow_of_not_neg {b : ℚ} {e : ℤ} (h : ¬e < 0) : b ^ e = b ^ e.natAbs := by
  have same : e = (e.natAbs : ℤ) := by omega
  conv_lhs => rw [same, zpow_natCast]

lemma ratio_spec (m : ℕ) (q : ℤ) :
    0 < (Binary64.ratio m q).2 ∧
      ((Binary64.ratio m q).1 : ℚ) / (Binary64.ratio m q).2 = m * 2 ^ q := by
  unfold Binary64.ratio
  simp only [Nat.pow_eq]
  split_ifs with h
  · refine ⟨by positivity, ?_⟩
    rw [zpow_of_neg h, Nat.cast_pow, Nat.cast_ofNat, div_eq_mul_inv]
  · refine ⟨Nat.one_pos, ?_⟩
    rw [zpow_of_not_neg h, Nat.cast_one, div_one, Nat.cast_mul, Nat.cast_pow, Nat.cast_ofNat]

lemma inUnits_spec (num : ℕ) {den : ℕ} (e : ℤ) (h : 0 < den) :
    0 < (inUnits num den e).2 ∧
      ((inUnits num den e).1 : ℚ) / (inUnits num den e).2 * 10 ^ e = (num : ℚ) / den := by
  have hden : (den : ℚ) ≠ 0 := by exact_mod_cast h.ne'
  unfold inUnits
  simp only [Nat.pow_eq]
  split_ifs with he
  · refine ⟨h, ?_⟩
    rw [zpow_of_neg he]
    push_cast
    field_simp
  · refine ⟨by positivity, ?_⟩
    rw [zpow_of_not_neg he]
    push_cast
    field_simp

/-- The point is not too far to the right: the first digit before it, as `pointOf` places it, counts
for something. -/
lemma pow_pointOf_le {num den : ℕ} (hn : 0 < num) (hd : 0 < den) :
    (10 : ℚ) ^ (pointOf num den - 1) ≤ (num : ℚ) / den := by
  have hden : (0 : ℚ) < den := by exact_mod_cast hd
  unfold pointOf digitCount
  rw [digitsRev_eq, digitsRev_eq]
  split_ifs with whole
  · have some : num / den ≠ 0 := (Nat.div_pos whole hd).ne'
    have digits : 10 ^ (Nat.digits 10 (num / den)).length ≤ 10 * (num / den) :=
      Nat.base_pow_length_digits_le 10 (num / den) (by norm_num) some
    have scaled : 10 ^ (Nat.digits 10 (num / den)).length * den ≤ 10 * num :=
      (Nat.mul_le_mul_right den digits).trans (by
        rw [mul_assoc]
        exact Nat.mul_le_mul_left 10 (Nat.div_mul_le_self num den))
    have cast : (10 : ℚ) ^ (Nat.digits 10 (num / den)).length * den ≤ 10 * num := by
      exact_mod_cast scaled
    rw [zpow_sub_one₀ (by norm_num), zpow_natCast, le_div_iff₀ hden]
    linarith
  · have digits := Nat.lt_base_pow_length_digits (b := 10) (m := (den - 1) / num) (by norm_num)
    generalize (Nat.digits 10 ((den - 1) / num)).length = c at digits ⊢
    have below : den ≤ 10 ^ c * num := by
      have := (Nat.div_lt_iff_lt_mul hn).1 digits
      omega
    have cast : (den : ℚ) ≤ 10 ^ c * num := by exact_mod_cast below
    rw [show (1 - (c : ℤ) - 1) = -(c : ℤ) by ring, zpow_neg, zpow_natCast, le_div_iff₀ hden,
      inv_mul_le_iff₀ (by positivity)]
    exact cast

/-! ## The interval of a double -/

lemma Interval.holds_iff {i : Interval} (h : 0 < i.den) (k : ℕ) (e : ℤ) :
    i.holds k e = true ↔
      if i.closed then (i.low : ℚ) / i.den ≤ k * 10 ^ e ∧ k * 10 ^ e ≤ (i.high : ℚ) / i.den
      else (i.low : ℚ) / i.den < k * 10 ^ e ∧ k * 10 ^ e < (i.high : ℚ) / i.den := by
  -- The point of the grid is a quotient of naturals.
  obtain ⟨n, d, hd, point, units⟩ : ∃ n d : ℕ, 0 < d ∧ (n : ℚ) / d = k * 10 ^ e ∧
      (if e < 0 then (k, Nat.pow 10 e.natAbs) else (k * Nat.pow 10 e.natAbs, 1)) = (n, d) := by
    by_cases he : e < 0
    · refine ⟨k, 10 ^ e.natAbs, by positivity, ?_, if_pos he⟩
      rw [zpow_of_neg he, Nat.cast_pow, Nat.cast_ofNat, div_eq_mul_inv]
    · refine ⟨k * 10 ^ e.natAbs, 1, Nat.one_pos, ?_, if_neg he⟩
      rw [zpow_of_not_neg he, Nat.cast_one, div_one, Nat.cast_mul, Nat.cast_pow, Nat.cast_ofNat]
  have hden : (0 : ℚ) < i.den := by exact_mod_cast h
  have hdq : (0 : ℚ) < d := by exact_mod_cast hd
  unfold Interval.holds
  rw [units, ← point, div_le_div_iff₀ hden hdq, div_le_div_iff₀ hdq hden, div_lt_div_iff₀ hden hdq,
    div_lt_div_iff₀ hdq hden]
  dsimp only
  split_ifs
  · rw [Bool.and_eq_true, decide_eq_true_iff, decide_eq_true_iff]
    norm_cast
  · rw [Bool.and_eq_true, decide_eq_true_iff, decide_eq_true_iff]
    norm_cast

section IntervalOf

variable {m : ℕ} (q : ℤ)

lemma den_intervalOf : 0 < (intervalOf m q).den := (ratio_spec 1 (q - 2)).1

lemma low_intervalOf (hm : 0 < m) :
    ((intervalOf m q).low : ℚ) / (intervalOf m q).den = lower m q := by
  have step := (ratio_spec 1 (q - 2)).2
  rw [Nat.cast_one, one_mul] at step
  have less : ((4 * m - if m = 2 ^ 52 then 1 else 2 : ℕ) : ℚ) =
      4 * m - if m = 2 ^ 52 then 1 else 2 := by
    split_ifs <;> (rw [Nat.cast_sub (by omega)]; push_cast; ring)
  unfold intervalOf lower
  simp only [Nat.pow_eq]
  rw [← step, ← less, Nat.cast_mul, mul_div_assoc]

lemma high_intervalOf :
    ((intervalOf m q).high : ℚ) / (intervalOf m q).den = upper m q := by
  have step := (ratio_spec 1 (q - 2)).2
  rw [Nat.cast_one, one_mul] at step
  unfold intervalOf upper
  dsimp only
  rw [← step, Nat.cast_mul, mul_div_assoc]
  push_cast
  ring

/-- The interval of a double has the reals that are `Nearest` to it, the ends only for an even
mantissa. -/
lemma holds_intervalOf_iff (hm : 0 < m) (k : ℕ) (e : ℤ) :
    (intervalOf m q).holds k e = true ↔ Nearest m q (k * 10 ^ e) := by
  have closed : (intervalOf m q).closed = (m % 2 == 0) := rfl
  rw [Interval.holds_iff (den_intervalOf q), low_intervalOf q hm, high_intervalOf, closed]
  unfold Nearest
  rcases Nat.mod_two_eq_zero_or_one m with even | odd
  · simp [even]
  · simp only [odd, Nat.reduceBEq, Bool.false_eq_true, if_false, true_implies]
    exact ⟨fun h => ⟨h.1.le, h.2.le, h⟩, fun h => h.2.2⟩

end IntervalOf

/-! ## The search -/

section Search

variable {tie : Tie} {i : Interval} {num den : ℕ} {e : ℤ}

lemma holds_of_neighbour? {k : ℕ} (h : neighbour? tie i num den e = some k) :
    i.holds k e = true := by
  unfold neighbour? at h
  dsimp only at h
  generalize (inUnits num den e).1 / (inUnits num den e).2 = below at h
  split at h
  · cases h
  · rename_i left _
    cases h
    exact left
  · rename_i _ right
    cases h
    exact right
  · rename_i left right
    split_ifs at h
    · cases h
      exact left
    · cases h
      exact right
    · cases tie with
      | up =>
        cases h
        exact right
      | even =>
        cases h
        rcases Nat.mod_two_eq_zero_or_one below with even | odd
        · rw [even]
          exact left
        · rw [odd]
          exact right

/-- Where the search goes on, the interval lies between two neighbours on the grid, the one `below`
the number and the next. -/
lemma neighbour?_eq_none (hd : 0 < den) (h : neighbour? tie i num den e = none) :
    ∃ below : ℕ, (below : ℚ) * 10 ^ e ≤ (num : ℚ) / den ∧
      (num : ℚ) / den < (below + 1 : ℕ) * 10 ^ e ∧
      ¬i.holds below e = true ∧ ¬i.holds (below + 1) e = true := by
  obtain ⟨units, scaled⟩ := inUnits_spec num e hd
  unfold neighbour? at h
  dsimp only at h
  generalize (inUnits num den e).1 = n at h units scaled
  generalize (inUnits num den e).2 = d at h units scaled
  have hdq : (0 : ℚ) < d := by exact_mod_cast units
  have step : (0 : ℚ) < 10 ^ e := by positivity
  refine ⟨n / d, ?_, ?_, ?_⟩
  · rw [← scaled]
    refine mul_le_mul_of_nonneg_right ?_ step.le
    rw [le_div_iff₀ hdq]
    exact_mod_cast Nat.div_mul_le_self n d
  · rw [← scaled]
    refine mul_lt_mul_of_pos_right ?_ step
    rw [div_lt_iff₀ hdq]
    exact_mod_cast Nat.lt_mul_of_div_lt (Nat.lt_succ_self _) units
  · split at h
    · rename_i left right
      rw [left, right]
      exact ⟨Bool.false_ne_true, Bool.false_ne_true⟩
    · cases h
    · cases h
    · split_ifs at h
      cases tie <;> cases h

/-- The search ends on the first grid with a neighbour in the interval, if there is one among the
first `fuel` grids. -/
lemma holds_of_search {point : ℤ} {fuel count : ℕ}
    (h : ∃ j < fuel, neighbour? tie i num den (point - (count + j : ℕ)) ≠ none) :
    i.holds (search tie i num den point count fuel).1 (search tie i num den point count fuel).2 =
      true := by
  induction fuel generalizing count with
  | zero =>
    obtain ⟨j, hj, -⟩ := h
    exact absurd hj (Nat.not_lt_zero j)
  | succ fuel ih =>
    unfold search
    dsimp only
    cases found : neighbour? tie i num den (point - (count : ℤ)) with
    | some k => exact holds_of_neighbour? found
    | none =>
      refine ih ?_
      obtain ⟨j, hj, some⟩ := h
      cases j with
      | zero => exact absurd found some
      | succ j =>
        refine ⟨j, Nat.lt_of_succ_lt_succ hj, ?_⟩
        rw [show count + 1 + j = count + (j + 1) by omega]
        exact some

end Search

lemma nearest_of_between {m : ℕ} {q : ℤ} {x : ℚ} (hlow : lower m q < x) (hhigh : x < upper m q) :
    Nearest m q x := ⟨hlow.le, hhigh.le, fun _ => ⟨hlow, hhigh⟩⟩

/-- On a grid of seventeen digits the search does not go on: neighbours as far apart as the ends of
the interval would be further apart than the sixteenth digit allows. -/
lemma neighbour?_ne_none (tie : Tie) {m : ℕ} {q : ℤ} (hm : 0 < m) (canonical : Canonical m q)
    {num den : ℕ} (hn : 0 < num) (hd : 0 < den) (exact : (num : ℚ) / den = m * 2 ^ q) :
    neighbour? tie (intervalOf m q) num den (pointOf num den - (17 : ℕ)) ≠ none := by
  intro none
  obtain ⟨below, hbelow, habove, unfit, unfit'⟩ := neighbour?_eq_none hd none
  rw [holds_intervalOf_iff q hm] at unfit unfit'
  have point := pow_pointOf_le hn hd
  -- Everything is told in steps of a quarter of the gap between doubles.
  have quarter : (m : ℚ) * 2 ^ q = 4 * m * 2 ^ (q - 2) := by
    rw [zpow_sub₀ (by norm_num)]
    norm_num
    ring
  have grid : (10 : ℚ) ^ (pointOf num den - 1) =
      10 ^ 16 * 10 ^ (pointOf num den - (17 : ℕ)) := by
    rw [← zpow_natCast, ← zpow_add₀ (by norm_num)]
    congr 1
    push_cast
    ring
  rw [exact, quarter] at hbelow habove point
  rw [grid] at point
  have step : (0 : ℚ) < 2 ^ (q - 2) := by positivity
  generalize (10 : ℚ) ^ (pointOf num den - (17 : ℕ)) = g at *
  have width : upper m q - lower m q ≤ g := by
    have left : below * g ≤ lower m q := by
      by_contra inside
      refine unfit (nearest_of_between (lt_of_not_ge inside) (lt_of_le_of_lt hbelow ?_))
      exact mul_lt_mul_of_pos_right (by linarith) step
    have right : upper m q ≤ (below + 1 : ℕ) * g := by
      by_contra inside
      refine unfit' (nearest_of_between (lt_of_le_of_lt ?_ habove) (lt_of_not_ge inside))
      refine mul_le_mul_of_nonneg_right ?_ step.le
      split_ifs <;> linarith
    push_cast at right
    linarith
  unfold upper lower at width
  generalize (2 : ℚ) ^ (q - 2) = u at *
  split_ifs at width with least
  · rw [least] at point width
    push_cast at point width
    linarith
  · have mantissa : (m : ℚ) ≤ 2 ^ 53 := by exact_mod_cast canonical.mantissa.le
    have scaled : (m : ℚ) * u ≤ 2 ^ 53 * u := mul_le_mul_of_nonneg_right mantissa step.le
    linarith

/-- **The shortest decimal of a double is nearest to it.** -/
theorem shortest_nearest (tie : Tie) {m : ℕ} {q : ℤ} (hm : 0 < m) (canonical : Canonical m q) :
    Nearest m q (number (shortest tie m q)) ∧ ∀ d ∈ (shortest tie m q).digits, d < 10 := by
  obtain ⟨hden, exact⟩ := ratio_spec m q
  have hnum : 0 < (Binary64.ratio m q).1 := by
    have positive : (0 : ℚ) < (Binary64.ratio m q).1 / (Binary64.ratio m q).2 := by
      rw [exact]
      positivity
    have hdenq : (0 : ℚ) < (Binary64.ratio m q).2 := by exact_mod_cast hden
    exact_mod_cast (div_pos_iff_of_pos_right hdenq).1 positive
  have found := neighbour?_ne_none tie hm canonical hnum hden exact
  unfold shortest
  dsimp only
  generalize (Binary64.ratio m q).1 = num at *
  generalize (Binary64.ratio m q).2 = den at *
  have holds : (intervalOf m q).holds
      (search tie (intervalOf m q) num den (pointOf num den) 1 17).1
      (search tie (intervalOf m q) num den (pointOf num den) 1 17).2 = true :=
    holds_of_search ⟨16, by norm_num, found⟩
  rw [holds_intervalOf_iff q hm] at holds
  rw [number_stripZeros]
  exact ⟨holds, fun d hd => digit_lt_of_mem (mem_of_mem_stripZeros hd)⟩

end StartupBench.Decimal
