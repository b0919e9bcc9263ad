import StartupBench.Proofs.Text.Bytewise
import Mathlib.Data.List.TakeWhile

/-!
# Reading bytes that were written

What is read of the bytes of a text is the text (`Utf8.decode_encode`), so that nothing is lost or
replaced in a path or an argument that was well formed.  A character of more than one byte is read
by its first byte, which says how many bytes follow and which ones may (`Utf8.Lead`).

The code of a character is one byte, or a first byte and up to three that hold six bits each
(`Utf8.tail`).  `Utf8.decode_lead` says when such bytes are read together, for a code of any length,
and the character that is assembled of them has the bits that were put into them.  The rest of the
bytes does not matter for that, so that a whole text is read character by character.  The other
direction, that nothing but the bytes of a text is read as a text, is `Proofs.Text.Strict`.
-/

namespace StartupBench.Utf8

/-! ## First bytes -/

section Leads

variable {b : UInt8}

lemma lead?_two (h : 0xC2 ≤ b.toNat) (h' : b.toNat ≤ 0xDF) :
    lead? b = some ⟨1, 0x80, 0xBF⟩ := by
  simp [lead?, UInt8.le_iff_toNat_le, h, h']

lemma lead?_three (h : 0xE0 ≤ b.toNat) (h' : b.toNat ≤ 0xEF) :
    lead? b = some ⟨2, if b.toNat = 0xE0 then 0xA0 else 0x80,
      if b.toNat = 0xED then 0x9F else 0xBF⟩ := by
  have h₁ : ¬ b.toNat ≤ 0xDF := by omega
  unfold lead?
  simp only [UInt8.le_iff_toNat_le, beq_iff_eq, ← UInt8.toNat_inj, Bool.and_eq_true,
    decide_eq_true_eq]
  by_cases first : b.toNat = 0xE0
  · simp [first]
  · by_cases surrogate : b.toNat = 0xED
    · simp [surrogate]
    · have h₂ : 0xE1 ≤ b.toNat := by omega
      simp [first, surrogate, h₁, h₂, h']

lemma lead?_four (h : 0xF0 ≤ b.toNat) (h' : b.toNat ≤ 0xF4) :
    lead? b = some ⟨3, if b.toNat = 0xF0 then 0x90 else 0x80,
      if b.toNat = 0xF4 then 0x8F else 0xBF⟩ := by
  have h₁ : ¬ b.toNat ≤ 0xDF := by omega
  have h₂ : ¬ b.toNat ≤ 0xEF := by omega
  have h₃ : b.toNat ≠ 0xE0 := by omega
  have h₄ : b.toNat ≠ 0xED := by omega
  unfold lead?
  simp only [UInt8.le_iff_toNat_le, beq_iff_eq, ← UInt8.toNat_inj, Bool.and_eq_true,
    decide_eq_true_eq]
  by_cases first : b.toNat = 0xF0
  · simp [first]
  · by_cases last : b.toNat = 0xF4
    · simp [last]
    · have h₅ : 0xF1 ≤ b.toNat := by omega
      have h₆ : b.toNat ≤ 0xF3 := by omega
      simp [first, last, h₁, h₂, h₃, h₄, h₅, h₆]

end Leads

/-! ## One character -/

/-- A byte that holds six bits of a character, the last six of `n`, below the mark of a byte that
follows. -/
def tail (n : Nat) : UInt8 := UInt8.ofNat (n % 64 + 128)

lemma toNat_tail (n : Nat) : (tail n).toNat = n % 64 + 128 := by
  unfold tail
  rw [UInt8.toNat_ofNat']
  omega

lemma isTail_tail (n : Nat) : isTail (tail n) = true := by
  have low : 0x80 ≤ n % 64 + 128 := by omega
  have high : n % 64 + 128 ≤ 0xBF := by omega
  simp [isTail, UInt8.le_iff_toNat_le, toNat_tail, low, high]

/-- A first byte is read together with the bytes that it promises, if these are there and the first
of them is within the bounds of the `Lead`. -/
lemma decode_lead {b next : UInt8} {l : Lead} (others rest : List UInt8)
    (hb : 0x80 ≤ b.toNat) (hl : lead? b = some l) (low : l.low ≤ next) (high : next ≤ l.high)
    (tails : ∀ t ∈ others, isTail t = true) (length : others.length + 1 = l.following) :
    decode (b :: next :: (others ++ rest)) = some (assemble b (next :: others)) :: decode rest := by
  have wide : ¬ b < 0x80 := by
    rw [UInt8.lt_iff_toNat_lt]
    exact Nat.not_lt.2 hb
  have fits : fitting l (next :: (others ++ rest)) = l.following := by
    have taken : (others ++ rest).take (l.following - 1) = others := by
      rw [← length, Nat.add_sub_cancel, List.take_left]
    unfold fitting
    dsimp only
    rw [taken, List.takeWhile_eq_self_iff.2 tails, if_pos (by simp [low, high]), Nat.add_comm]
    exact length
  have whole : next :: (others ++ rest) = (next :: others) ++ rest := rfl
  have count : (next :: others).length = l.following := length
  rw [decode, if_neg wide, hl]
  dsimp only
  rw [fits, if_pos rfl, whole, ← count, List.take_left, List.drop_left]

section Codes

variable {v : Nat} (rest : List UInt8)

lemma decode_one (h : v ≤ 0x7F) :
    decode (UInt8.ofNat v :: rest) = some (Char.ofNat v) :: decode rest := by
  have byte : (UInt8.ofNat v).toNat = v := by
    rw [UInt8.toNat_ofNat']
    omega
  have narrow : UInt8.ofNat v < 0x80 := by
    rw [UInt8.lt_iff_toNat_lt, byte]
    exact Nat.lt_succ_of_le h
  rw [decode, if_pos narrow, byte]

lemma decode_two (h : 0x7F < v) (h' : v ≤ 0x7FF) :
    decode (UInt8.ofNat (v / 64 % 32 + 192) :: tail v :: rest) =
      some (Char.ofNat v) :: decode rest := by
  generalize hb : UInt8.ofNat (v / 64 % 32 + 192) = b
  have byte : b.toNat = v / 64 + 192 := by
    rw [← hb, UInt8.toNat_ofNat']
    omega
  have next := toNat_tail v
  have low : 0x80 ≤ tail v := by
    rw [UInt8.le_iff_toNat_le, next]
    exact Nat.le_add_left _ _
  have high : tail v ≤ 0xBF := by
    rw [UInt8.le_iff_toNat_le, next]
    exact Nat.le_of_lt_succ (Nat.add_lt_add_right (Nat.mod_lt v (by decide)) 128)
  have read : decode (b :: tail v :: rest) = some (assemble b [tail v]) :: decode rest :=
    decode_lead [] rest (by omega) (lead?_two (by omega) (by omega)) low high
      (fun _ ht => absurd ht List.not_mem_nil) rfl
  have joined : (v / 64 + 192) % 32 * 64 + (v % 64 + 128) % 64 = v := by omega
  refine read.trans ?_
  simp only [assemble, List.length_cons, List.length_nil, List.foldl_cons, List.foldl_nil, byte,
    next, joined]

lemma decode_three (h : 0x7FF < v) (h' : v ≤ 0xFFFF) (valid : v < 0xD800 ∨ 0xDFFF < v) :
    decode (UInt8.ofNat (v / 4096 % 16 + 224) :: tail (v / 64) :: tail v :: rest) =
      some (Char.ofNat v) :: decode rest := by
  generalize hb : UInt8.ofNat (v / 4096 % 16 + 224) = b
  have byte : b.toNat = v / 4096 + 224 := by
    rw [← hb, UInt8.toNat_ofNat']
    omega
  have next := toNat_tail (v / 64)
  have last := toNat_tail v
  have low : (if b.toNat = 0xE0 then 0xA0 else 0x80) ≤ tail (v / 64) := by
    rw [UInt8.le_iff_toNat_le, next]
    split
    · show 0xA0 ≤ _
      omega
    · exact Nat.le_add_left _ _
  have high : tail (v / 64) ≤ if b.toNat = 0xED then 0x9F else 0xBF := by
    rw [UInt8.le_iff_toNat_le, next]
    split
    · show _ ≤ 0x9F
      omega
    · show _ ≤ 0xBF
      omega
  have read : decode (b :: tail (v / 64) :: tail v :: rest) =
      some (assemble b [tail (v / 64), tail v]) :: decode rest :=
    decode_lead [tail v] rest (by omega) (lead?_three (by omega) (by omega)) low high
      (by simp [isTail_tail]) rfl
  have joined : ((v / 4096 + 224) % 16 * 64 + (v / 64 % 64 + 128) % 64) * 64 +
      (v % 64 + 128) % 64 = v := by omega
  refine read.trans ?_
  simp only [assemble, List.length_cons, List.length_nil, List.foldl_cons, List.foldl_nil, byte,
    next, last, joined]

lemma decode_four (h : 0xFFFF < v) (h' : v < 0x110000) :
    decode (UInt8.ofNat (v / 262144 % 8 + 240) :: tail (v / 4096) :: tail (v / 64) :: tail v ::
      rest) = some (Char.ofNat v) :: decode rest := by
  generalize hb : UInt8.ofNat (v / 262144 % 8 + 240) = b
  have byte : b.toNat = v / 262144 + 240 := by
    rw [← hb, UInt8.toNat_ofNat']
    omega
  have next := toNat_tail (v / 4096)
  have third := toNat_tail (v / 64)
  have last := toNat_tail v
  have low : (if b.toNat = 0xF0 then 0x90 else 0x80) ≤ tail (v / 4096) := by
    rw [UInt8.le_iff_toNat_le, next]
    split
    · show 0x90 ≤ _
      omega
    · exact Nat.le_add_left _ _
  have high : tail (v / 4096) ≤ if b.toNat = 0xF4 then 0x8F else 0xBF := by
    rw [UInt8.le_iff_toNat_le, next]
    split
    · show _ ≤ 0x8F
      omega
    · show _ ≤ 0xBF
      omega
  have read : decode (b :: tail (v / 4096) :: tail (v / 64) :: tail v :: rest) =
      some (assemble b [tail (v / 4096), tail (v / 64), tail v]) :: decode rest :=
    decode_lead [tail (v / 64), tail v] rest (by omega) (lead?_four (by omega) (by omega)) low
      high (by simp [isTail_tail]) rfl
  have joined : (((v / 262144 + 240) % 8 * 64 + (v / 4096 % 64 + 128) % 64) * 64 +
      (v / 64 % 64 + 128) % 64) * 64 + (v % 64 + 128) % 64 = v := by omega
  refine read.trans ?_
  simp only [assemble, List.length_cons, List.length_nil, List.foldl_cons, List.foldl_nil, byte,
    next, third, last, joined]

end Codes

lemma decode_encodeChar_append (c : Char) (rest : List UInt8) :
    decode (String.utf8EncodeChar c ++ rest) = some c :: decode rest := by
  have valid : c.val.toNat < 0xD800 ∨ 0xDFFF < c.val.toNat ∧ c.val.toNat < 0x110000 := c.valid
  have value : Char.ofNat c.val.toNat = c := Char.ofNat_toNat c
  unfold String.utf8EncodeChar
  generalize c.val.toNat = v at *
  subst value
  dsimp only
  split_ifs with one two three
  · exact decode_one rest one
  · exact decode_two rest (by omega) two
  · exact decode_three rest (by omega) three (by omega)
  · exact decode_four rest (by omega) (by omega)

/-! ## Whole texts -/

lemma decode_encode (text : String) : decode (encode text) = text.toList.map some := by
  rw [encode_eq_flatMap]
  induction text.toList with
  | nil => rw [List.flatMap_nil, decode, List.map_nil]
  | cons c cs ih => rw [List.flatMap_cons, decode_encodeChar_append, ih, List.map_cons]

@[simp] lemma lossy_encode (text : String) : lossy (encode text) = text := by
  unfold lossy
  rw [decode_encode, List.map_map]
  have same : (fun c : Option Char => c.getD '\ufffd') ∘ some = id := rfl
  rw [same, List.map_id, String.ofList_toList]

end StartupBench.Utf8
