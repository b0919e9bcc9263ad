import Mathlib.Data.List.TakeWhile
import StartupBench.Decimal.Layout
import StartupBench.Proofs.Decimal.Shortest

/-!
# Plain numbers read back

In a result line a double stands in positional notation, without an exponent.  The text is read back
as an exact number (`Decimal.reading`), which is the decimal that was written; and that decimal is
nearest to the double, so that doubles with the same text are the same (`Decimal.plain_inj`).

## Positional notation

A decimal has digits and a point, and the point may stand before the digits, behind them or between
them (`Decimal.toList_positional`).  In each of these shapes the reading is the number of the
decimal, as `Decimal.reading_positional` says, the zeros that only fill up the places included.

## Signs and letters

The sign is told apart from the rest because no magnitude has one (`Decimal.signText_append_inj`),
and the two infinities because no magnitude is a word.  Whichever it is, the text has no blank, no
comma and no bracket (`Decimal.plain_chars`), which is what `Proofs.Results.Lines` needs of it to
find the ends of a sample.
-/

namespace StartupBench.Decimal

open Binary64 (Canonical Nearest lower upper)

/-! ## Positional notation -/

/-- The value of a digit, as `digitChar` writes it.  Of other characters nothing is asked. -/
def digitValue (c : Char) : ℕ := c.toNat - '0'.toNat

/-- The number that is written in positional notation: the characters without the point are digits,
and those behind the point say by which power of ten to divide. -/
def reading (text : List Char) : ℚ :=
  let whole := text.takeWhile (· != '.')
  let places := (text.dropWhile (· != '.')).tail
  ofDigits ((whole ++ places).map digitValue) * 10 ^ (-(places.length : ℤ))

lemma digitValue_digitChar : ∀ d < 10, digitValue (digitChar d) = d := by decide

lemma isDigit_digitChar : ∀ d < 10, (digitChar d).isDigit = true := by decide

lemma map_digitValue {ds : List ℕ} (h : ∀ d ∈ ds, d < 10) :
    (ds.map digitChar).map digitValue = ds := by
  rw [List.map_map]
  exact (List.map_congr_left fun d hd => digitValue_digitChar d (h d hd)).trans (List.map_id ds)

section Reading

variable {whole : List Char} (h : ∀ c ∈ whole, c.isDigit = true)
include h

lemma bne_point : ∀ c ∈ whole, (c != '.') = true := by
  intro c hc
  rw [bne_iff_ne]
  rintro rfl
  exact absurd (h _ hc) (by decide)

lemma reading_whole : reading whole = ofDigits (whole.map digitValue) := by
  have all := bne_point h
  unfold reading
  rw [List.takeWhile_eq_self_iff.2 all, List.dropWhile_eq_nil_iff.2 all]
  simp

lemma reading_point (places : List Char) :
    reading (whole ++ '.' :: places) =
      ofDigits ((whole ++ places).map digitValue) * 10 ^ (-(places.length : ℤ)) := by
  have all := bne_point h
  unfold reading
  rw [List.takeWhile_append_of_pos all, List.dropWhile_append_of_pos all]
  simp

end Reading

lemma isDigit_of_mem_map {ds : List ℕ} (h : ∀ d ∈ ds, d < 10) :
    ∀ c ∈ ds.map digitChar, c.isDigit = true := by
  intro c hc
  obtain ⟨d, hd, rfl⟩ := List.mem_map.1 hc
  exact isDigit_digitChar d (h d hd)

lemma toList_digitText (ds : List ℕ) : (digitText ds).toList = ds.map digitChar :=
  String.toList_ofList

lemma toList_zeros (n : ℕ) : (zeros n).toList = (List.replicate n 0).map digitChar := by
  rw [zeros, String.toList_ofList, List.map_replicate]
  rfl

/-- The three shapes of `positional` notation: the point before the digits, behind them, or between
them. -/
lemma toList_positional (d : Decimal) :
    (positional d "").toList =
      if d.point ≤ 0 then
        [0].map digitChar ++ '.' ::
          (List.replicate d.point.natAbs 0 ++ d.digits).map digitChar
      else if (d.digits.length : ℤ) ≤ d.point then
        (d.digits ++ List.replicate (d.point.toNat - d.digits.length) 0).map digitChar
      else
        (d.digits.take d.point.toNat).map digitChar ++ '.' ::
          (d.digits.drop d.point.toNat).map digitChar := by
  unfold positional
  dsimp only
  split_ifs
  · rw [String.toList_append, String.toList_append, toList_zeros, toList_digitText, List.map_append]
    rfl
  · rw [String.toList_append, String.toList_append, toList_zeros, toList_digitText, List.map_append]
    exact List.append_nil _
  · rw [String.toList_append, String.toList_append, toList_digitText, toList_digitText,
      List.append_assoc]
    rfl

lemma lt_ten_of_zeros {ds : List ℕ} (h : ∀ d ∈ ds, d < 10) (n : ℕ) :
    (∀ d ∈ List.replicate n 0 ++ ds, d < 10) ∧ ∀ d ∈ ds ++ List.replicate n 0, d < 10 := by
  have zeros : ∀ d ∈ List.replicate n 0, d < 10 := fun d hd => by
    rw [List.eq_of_mem_replicate hd]
    exact Nat.zero_lt_succ 9
  exact ⟨List.forall_mem_append.2 ⟨zeros, h⟩, List.forall_mem_append.2 ⟨h, zeros⟩⟩

/-- What is written is read back: the `reading` of a decimal in positional notation is its `number`.
-/
lemma reading_positional {d : Decimal} (h : ∀ n ∈ d.digits, n < 10) :
    reading (positional d "").toList = number d := by
  obtain ⟨ds, point⟩ := d
  dsimp only at h
  rw [toList_positional]
  unfold number
  dsimp only
  split_ifs with small whole
  · have digits : ∀ d ∈ [0] ++ (List.replicate point.natAbs 0 ++ ds), d < 10 :=
      List.forall_mem_append.2 ⟨by decide, (lt_ten_of_zeros h _).1⟩
    have value : ofDigits ([0] ++ (List.replicate point.natAbs 0 ++ ds)) = ofDigits ds := by
      rw [ofDigits_append, ofDigits_append, ofDigits_zeros, zero_mul, zero_add]
      exact (congrArg (· + ofDigits ds) (zero_mul _)).trans (zero_add _)
    have places : -((List.replicate point.natAbs 0 ++ ds).length : ℤ) = point - ds.length := by
      rw [List.length_append, List.length_replicate]
      omega
    rw [reading_point (isDigit_of_mem_map (by decide)), ← List.map_append, map_digitValue digits,
      value, List.length_map, places]
  · have digits := (lt_ten_of_zeros h (point.toNat - ds.length)).2
    have exponent : ((point.toNat - ds.length : ℕ) : ℤ) = point - ds.length := by omega
    rw [reading_whole (isDigit_of_mem_map digits), map_digitValue digits, ofDigits_append,
      ofDigits_zeros, List.length_replicate, add_zero, ← exponent, zpow_natCast]
    push_cast
    rfl
  · have places : -((ds.drop point.toNat).length : ℤ) = point - ds.length := by
      rw [List.length_drop]
      omega
    rw [reading_point (isDigit_of_mem_map fun n hn => h n (List.mem_of_mem_take hn)),
      ← List.map_append, List.take_append_drop, map_digitValue h, List.length_map, places]

lemma positional_chars {d : Decimal} (h : ∀ n ∈ d.digits, n < 10) :
    ∀ c ∈ (positional d "").toList, c.isDigit = true ∨ c = '.' := by
  have written : ∀ {ds : List ℕ}, (∀ d ∈ ds, d < 10) →
      ∀ c ∈ ds.map digitChar, c.isDigit = true ∨ c = '.' :=
    fun hds c hc => .inl (isDigit_of_mem_map hds c hc)
  rw [toList_positional]
  split_ifs
  · refine List.forall_mem_append.2 ⟨written (by decide), List.forall_mem_cons.2 ⟨.inr rfl, ?_⟩⟩
    exact written (lt_ten_of_zeros h _).1
  · exact written (lt_ten_of_zeros h _).2
  · refine List.forall_mem_append.2 ⟨?_, List.forall_mem_cons.2 ⟨.inr rfl, ?_⟩⟩
    · exact written fun n hn => h n (List.mem_of_mem_take hn)
    · exact written fun n hn => h n (List.mem_of_mem_drop hn)

/-! ## Doubles -/

/-- The text of a finite double without its sign: zero, or the `shortest` decimal in positional
notation. -/
def magnitude (m : ℕ) (q : ℤ) : String := if m = 0 then "0" else positional (shortest .up m q) ""

lemma plainStyle_finite (negative : Bool) (m : ℕ) (q : ℤ) :
    plainStyle.finite negative m q = signText negative ++ magnitude m q := by
  unfold Style.finite magnitude
  split_ifs
  · exact String.append_empty
  · rfl

lemma magnitude_chars {m : ℕ} {q : ℤ} (canonical : Canonical m q) :
    ∀ c ∈ (magnitude m q).toList, c.isDigit = true ∨ c = '.' := by
  unfold magnitude
  split_ifs with zero
  · exact List.forall_mem_singleton.2 (.inl rfl)
  · exact positional_chars (shortest_nearest .up (Nat.pos_of_ne_zero zero) canonical).2

lemma lower_pos {m : ℕ} (q : ℤ) (hm : 0 < m) : 0 < lower m q := by
  have step : (0 : ℚ) < 2 ^ (q - 2) := by positivity
  have one : (1 : ℚ) ≤ m := by exact_mod_cast hm
  unfold lower
  refine mul_pos ?_ step
  split_ifs <;> linarith

/-- The number that is read is that of the double, or `Nearest` to it and not zero. -/
lemma reading_magnitude {m : ℕ} {q : ℤ} (canonical : Canonical m q) :
    (m = 0 ∧ reading (magnitude m q).toList = 0) ∨
      (0 < m ∧ 0 < reading (magnitude m q).toList ∧
        Nearest m q (reading (magnitude m q).toList)) := by
  unfold magnitude
  split_ifs with zero
  · exact .inl ⟨zero, by decide +kernel⟩
  · have positive := Nat.pos_of_ne_zero zero
    obtain ⟨nearest, digits⟩ := shortest_nearest .up positive canonical
    rw [reading_positional digits]
    exact .inr ⟨positive, (lower_pos q positive).trans_le nearest.1, nearest⟩

/-- A finite double is told by its text without the sign, since no number is `Nearest` to two
doubles. -/
lemma magnitude_inj {m n : ℕ} {q r : ℤ} (hm : Canonical m q) (hn : Canonical n r)
    (h : magnitude m q = magnitude n r) : m = n ∧ q = r := by
  have hm' := reading_magnitude hm
  have hn' := reading_magnitude hn
  rw [h] at hm'
  obtain ⟨rfl, zero⟩ | ⟨-, positive, nearest⟩ := hm'
  · obtain ⟨rfl, -⟩ | ⟨-, positive, -⟩ := hn'
    · exact ⟨rfl, (hm.normal (by norm_num)).trans (hn.normal (by norm_num)).symm⟩
    · exact absurd zero positive.ne'
  · obtain ⟨-, zero⟩ | ⟨-, -, nearest'⟩ := hn'
    · exact absurd zero positive.ne'
    · exact Binary64.eq_of_nearest hm hn nearest nearest'

/-- The text of a double, by its parts, as `plain` comes to it. -/
def written : Binary64 → String
  | .nan => "NaN"
  | .infinite negative => signText negative ++ "inf"
  | .finite negative m q => signText negative ++ magnitude m q

lemma plain_eq_written (x : Float) : plain x = written (Binary64.ofFloat x) := by
  unfold plain Style.text written
  cases Binary64.ofFloat x with
  | nan => rfl
  | infinite negative => rfl
  | finite negative m q => exact plainStyle_finite negative m q

/-- The sign is told by the text, if no sign is in what follows it. -/
lemma signText_append_inj {a b : Bool} {s t : String} (hs : '-' ∉ s.toList) (ht : '-' ∉ t.toList)
    (h : signText a ++ s = signText b ++ t) : a = b ∧ s = t := by
  have signs : ∀ {s : String}, ("-" ++ s).toList = '-' :: s.toList := by
    intro s
    rw [String.toList_append]
    rfl
  unfold signText at h
  cases a <;> cases b <;>
    simp only [Bool.false_eq_true, if_true, if_false, String.empty_append] at h
  · exact ⟨rfl, h⟩
  · rw [h, signs] at hs
    exact absurd List.mem_cons_self hs
  · rw [← h, signs] at ht
    exact absurd List.mem_cons_self ht
  · have same := congrArg String.toList h
    rw [signs, signs] at same
    exact ⟨rfl, String.toList_inj.1 (List.cons.inj same).2⟩

lemma not_mem_magnitude {m : ℕ} {q : ℤ} (canonical : Canonical m q) {c : Char}
    (digit : c.isDigit = false) (point : c ≠ '.') : c ∉ (magnitude m q).toList := by
  intro hc
  obtain h | h := magnitude_chars canonical c hc
  · rw [digit] at h
    cases h
  · exact point h

/-- A text without a point, without digits and without a sign is no `magnitude`. -/
lemma inf_ne_magnitude {m : ℕ} {q : ℤ} (canonical : Canonical m q) : "inf" ≠ magnitude m q := by
  intro h
  refine not_mem_magnitude (c := 'i') canonical (by decide) (by decide) ?_
  rw [← h]
  decide

lemma written_inj {x y : Float} (hx : Binary64.ofFloat x ≠ .nan) (hy : Binary64.ofFloat y ≠ .nan)
    (h : written (Binary64.ofFloat x) = written (Binary64.ofFloat y)) :
    Binary64.ofFloat x = Binary64.ofFloat y := by
  have unsigned : '-' ∉ "inf".toList := by decide
  have minus : ∀ {m : ℕ} {q : ℤ}, Canonical m q → '-' ∉ (magnitude m q).toList :=
    fun canonical => not_mem_magnitude canonical (by decide) (by decide)
  cases hx' : Binary64.ofFloat x with
  | nan => exact absurd hx' hx
  | infinite a =>
    cases hy' : Binary64.ofFloat y with
    | nan => exact absurd hy' hy
    | infinite b =>
      rw [hx', hy'] at h
      rw [(signText_append_inj unsigned unsigned h).1]
    | finite b n r =>
      have hn := Binary64.canonical_of_ofBits hy'
      rw [hx', hy'] at h
      exact absurd (signText_append_inj unsigned (minus hn) h).2 (inf_ne_magnitude hn)
  | finite a m q =>
    have hm := Binary64.canonical_of_ofBits hx'
    cases hy' : Binary64.ofFloat y with
    | nan => exact absurd hy' hy
    | infinite b =>
      rw [hx', hy'] at h
      exact absurd (signText_append_inj (minus hm) unsigned h).2.symm (inf_ne_magnitude hm)
    | finite b n r =>
      have hn := Binary64.canonical_of_ofBits hy'
      rw [hx', hy'] at h
      obtain ⟨rfl, same⟩ := signText_append_inj (minus hm) (minus hn) h
      obtain ⟨rfl, rfl⟩ := magnitude_inj hm hn same
      rfl

/-- **Numbers are told by their text.** -/
theorem plain_inj {x y : Float} (hx : Binary64.ofFloat x ≠ .nan) (hy : Binary64.ofFloat y ≠ .nan) :
    plain x = plain y ↔ x = y := by
  refine ⟨fun h => ?_, congrArg plain⟩
  rw [plain_eq_written, plain_eq_written] at h
  exact Binary64.ofFloat_inj (written_inj hx hy h) hx

/-- The text of a double has digits, a point, a sign and the letters of infinity and of what is not
a number, and nothing else. -/
lemma plain_chars (x : Float) :
    ∀ c ∈ (plain x).toList, c.isDigit = true ∨ c ∈ ".-infNa".toList := by
  have sign : ∀ negative : Bool, (signText negative).toList ⊆ ".-infNa".toList := by decide
  rw [plain_eq_written]
  cases hx : Binary64.ofFloat x with
  | nan =>
    have word : "NaN".toList ⊆ ".-infNa".toList := by decide
    exact fun c hc => .inr (word hc)
  | infinite negative =>
    have word : "inf".toList ⊆ ".-infNa".toList := by decide
    show ∀ c ∈ (signText negative ++ "inf").toList, _
    rw [String.toList_append]
    exact List.forall_mem_append.2
      ⟨fun c hc => .inr (sign negative hc), fun c hc => .inr (word hc)⟩
  | finite negative m q =>
    show ∀ c ∈ (signText negative ++ magnitude m q).toList, _
    rw [String.toList_append]
    refine List.forall_mem_append.2 ⟨fun c hc => .inr (sign negative hc), fun c hc => ?_⟩
    obtain digit | rfl := magnitude_chars (Binary64.canonical_of_ofBits hx) c hc
    · exact .inl digit
    · exact .inr (by decide)

end StartupBench.Decimal
