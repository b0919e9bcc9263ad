import StartupBench.Text.Utf8
import Mathlib.Data.String.Basic

/-!
# The order of texts is the order of their bytes

Texts are compared character by character.  What is sorted by a program that compares bytes is in
the same order: UTF-8 gives a greater code to a greater character, and no code begins another
(`Utf8.encode_lt_encode`).

A code has one to four bytes, and the first of them tells how many.  Characters with codes of
different length are told apart by the first byte, and otherwise the codes are compared like the
digits of a number in base 64, from the left (`Utf8.div_mod_lt`).  Either way the first byte that
differs decides, so that it does not matter what follows (`Utf8.encodeChar_append_lt`), and the
order of whole texts is an induction on both of them.  As a strict order tells different texts
apart, so do the bytes (`Utf8.encode_inj`).
-/

namespace StartupBench.Utf8

lemma encode_eq_flatMap (text : String) :
    encode text = text.toList.flatMap String.utf8EncodeChar := by
  unfold encode
  rw [String.toUTF8_eq_toByteArray]
  conv_lhs => rw [← String.ofList_toList (s := text), String.toByteArray_ofList]
  exact List.toList_data_toByteArray

/-! ## Two characters -/

/-- Numbers are compared by their quotients first and then by their remainders.  With `k = 64` these
are the first bits of a code and the last byte. -/
lemma div_mod_lt {m n : Nat} (k : Nat) (h : m < n) :
    m / k < n / k ∨ m / k = n / k ∧ m % k < n % k := by
  have hm := Nat.div_add_mod m k
  have hn := Nat.div_add_mod n k
  obtain hlt | heq := Nat.lt_or_eq_of_le (Nat.div_le_div_right (c := k) (Nat.le_of_lt h))
  · exact .inl hlt
  · rw [heq] at hm
    exact .inr ⟨heq, by omega⟩

lemma byte_lt_byte {a b : Nat} (ha : a < 256) (hb : b < 256) :
    UInt8.ofNat a < UInt8.ofNat b ↔ a < b := by
  rw [UInt8.lt_iff_toNat_lt, UInt8.toNat_ofNat', UInt8.toNat_ofNat', Nat.mod_eq_of_lt ha,
    Nat.mod_eq_of_lt hb]

lemma byte_eq_byte {a b : Nat} (ha : a < 256) (hb : b < 256) :
    UInt8.ofNat a = UInt8.ofNat b ↔ a = b := by
  rw [← UInt8.toNat_inj, UInt8.toNat_ofNat', UInt8.toNat_ofNat', Nat.mod_eq_of_lt ha,
    Nat.mod_eq_of_lt hb]

/-- The code of the lesser of two characters is less, whatever follows the two: the codes differ at
a byte that both have. -/
lemma encodeChar_append_lt {c d : Char} (h : c < d) (rest more : List UInt8) :
    String.utf8EncodeChar c ++ rest < String.utf8EncodeChar d ++ more := by
  have hval : c.val.toNat < d.val.toNat := h
  have hbound : d.val.toNat < 0x110000 := d.valid.elim (fun h => by omega) And.right
  unfold String.utf8EncodeChar
  generalize c.val.toNat = m at *
  generalize d.val.toNat = n at *
  -- The digits to the base 64, from the last one on.
  have low := div_mod_lt 64 hval
  have middle : m / 64 < n / 64 → _ := div_mod_lt 64
  have high : m / 4096 < n / 4096 → _ := div_mod_lt 64
  rw [Nat.div_div_eq_div_mul, Nat.div_div_eq_div_mul] at middle high
  have hm : m / 262144 % 8 = m / 262144 := by omega
  have hn : n / 262144 % 8 = n / 262144 := by omega
  dsimp only
  rw [hm, hn]
  -- Codes of different lengths differ in their first byte.
  split_ifs <;>
    simp (disch := omega) only [List.cons_append, List.nil_append, List.cons_lt_cons_iff,
      byte_lt_byte, byte_eq_byte] <;>
    omega

/-! ## Two texts -/

lemma flatMap_encodeChar_lt {cs ds : List Char} (h : cs < ds) :
    cs.flatMap String.utf8EncodeChar < ds.flatMap String.utf8EncodeChar := by
  induction h with
  | @nil d ds =>
    obtain ⟨b, bytes, hcode⟩ := List.exists_cons_of_ne_nil (String.utf8EncodeChar_ne_nil (c := d))
    rw [List.flatMap_nil, List.flatMap_cons, hcode]
    exact List.nil_lt_cons _ _
  | cons _ ih =>
    rw [List.flatMap_cons, List.flatMap_cons]
    exact List.append_left_lt ih
  | rel hcd =>
    rw [List.flatMap_cons, List.flatMap_cons]
    exact encodeChar_append_lt hcd _ _

lemma encode_lt_of_lt {s t : String} (h : s < t) : encode s < encode t := by
  rw [encode_eq_flatMap, encode_eq_flatMap]
  exact flatMap_encodeChar_lt (String.lt_iff_toList_lt.1 h)

/-- Texts are in the same order as their bytes, which `encode` gives. -/
lemma encode_lt_encode {s t : String} : encode s < encode t ↔ s < t := by
  refine ⟨fun h => ?_, encode_lt_of_lt⟩
  obtain hlt | heq | hgt := lt_trichotomy s t
  · exact hlt
  · rw [heq] at h
    exact absurd h (List.lt_irrefl _)
  · exact absurd h (List.lt_asymm (encode_lt_of_lt hgt))

/-- Different texts have different bytes, since `encode` keeps the order of texts strictly. -/
lemma encode_inj {s t : String} : encode s = encode t ↔ s = t := by
  refine ⟨fun h => ?_, congrArg encode⟩
  have same : ¬encode s < encode t ∧ ¬encode t < encode s := by
    rw [h]
    exact ⟨List.lt_irrefl _, List.lt_irrefl _⟩
  rw [encode_lt_encode, encode_lt_encode] at same
  exact le_antisymm (not_lt.1 same.2) (not_lt.1 same.1)

end StartupBench.Utf8
