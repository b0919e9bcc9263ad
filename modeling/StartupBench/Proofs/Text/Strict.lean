import StartupBench.Proofs.Text.Decoded

/-!
# Bytes that are text

`Utf8.strict?` reads the bytes of a text and nothing else (`Utf8.strict?_eq_some_iff`), so that a
path or an argument that was read can be put together again from what was read of it.  What makes
this true is that a first byte bounds the byte after it (`Utf8.Bounds`): without these bounds a
character could be written in more bytes than it needs, and a surrogate could be written at all.

## One character

`Utf8.exists_of_fitting` takes the bytes apart that are read with a first byte, and
`Utf8.encodeChar_assemble` says that the character that is assembled from them has just these bytes
as its code.  It is here that the bounds matter, and the proof has a case for each length of a code.

## All of them

`Utf8.decode` answers a character or a mark of something ill-formed for each step that it takes.
Where all answers are characters, the bytes are their codes one after the other
(`Utf8.eq_flatMap_of_decode`), by induction on the answers.
-/

namespace StartupBench.Utf8

/-! ## One character -/

/-- What a first byte and the byte after it may be, by how many bytes follow the first.  The bounds
are those of the Unicode table of well-formed byte sequences. -/
def Bounds : (following first next : Nat) → Prop
  | 1, b, t => 0xC2 ≤ b ∧ b ≤ 0xDF ∧ 0x80 ≤ t ∧ t ≤ 0xBF
  | 2, b, t => 0xE0 ≤ b ∧ b ≤ 0xEF ∧ 0x80 ≤ t ∧ t ≤ 0xBF ∧ (b = 0xE0 → 0xA0 ≤ t) ∧
      (b = 0xED → t ≤ 0x9F)
  | 3, b, t => 0xF0 ≤ b ∧ b ≤ 0xF4 ∧ 0x80 ≤ t ∧ t ≤ 0xBF ∧ (b = 0xF0 → 0x90 ≤ t) ∧
      (b = 0xF4 → t ≤ 0x8F)
  | _, _, _ => False

lemma bounds_of_lead? {b next : UInt8} {l : Lead} (h : lead? b = some l) (low : l.low ≤ next)
    (high : next ≤ l.high) : Bounds l.following b.toNat next.toNat := by
  unfold lead? at h
  simp only [UInt8.le_iff_toNat_le, beq_iff_eq, ← UInt8.toNat_inj, Bool.and_eq_true,
    decide_eq_true_eq] at h low high
  split_ifs at h <;> cases h <;> simp [Bounds] at * <;> omega

/-- The code of the character with this number, which is as long as the number needs. -/
lemma encodeChar_ofNat {v : Nat} (h : v.isValidChar) :
    String.utf8EncodeChar (Char.ofNat v) =
      if v ≤ 0x7F then [UInt8.ofNat v]
      else if v ≤ 0x7FF then [UInt8.ofNat (v / 64 % 32 + 192), tail v]
      else if v ≤ 0xFFFF then [UInt8.ofNat (v / 4096 % 16 + 224), tail (v / 64), tail v]
      else [UInt8.ofNat (v / 262144 % 8 + 240), tail (v / 4096), tail (v / 64), tail v] := by
  have value : (Char.ofNat v).val.toNat = v := by
    rw [Char.ofNat, dif_pos h]
    rfl
  unfold String.utf8EncodeChar
  rw [value]
  rfl

lemma toNat_of_isTail {t : UInt8} (h : isTail t = true) : 0x80 ≤ t.toNat ∧ t.toNat ≤ 0xBF := by
  simpa [isTail, UInt8.le_iff_toNat_le] using h

lemma byte_eq {t : UInt8} {v : Nat} (h : v = t.toNat) : UInt8.ofNat v = t := by
  rw [h, UInt8.ofNat_toNat]

lemma tail_eq {t : UInt8} {v : Nat} (h : v % 64 + 128 = t.toNat) : tail v = t := byte_eq h

/-- A character that is assembled from bytes within the `Bounds` has these bytes as its code: it
needs as many bytes, and is no surrogate. -/
lemma encodeChar_assemble {b next : UInt8} {others : List UInt8}
    (bounds : Bounds (others.length + 1) b.toNat next.toNat)
    (tails : ∀ t ∈ others, isTail t = true) :
    String.utf8EncodeChar (assemble b (next :: others)) = b :: next :: others := by
  match others with
  | [] =>
    simp only [Bounds, List.length_nil] at bounds
    simp only [assemble, List.length_cons, List.length_nil, List.foldl_cons, List.foldl_nil]
    generalize hv : b.toNat % 32 * 64 + next.toNat % 64 = v
    have hb : v / 64 % 32 + 192 = b.toNat := by omega
    have hnext : v % 64 + 128 = next.toNat := by omega
    have valid : v.isValidChar := .inl (by omega)
    rw [encodeChar_ofNat valid, if_neg (by omega), if_pos (by omega), byte_eq hb, tail_eq hnext]
  | [t] =>
    have ht := toNat_of_isTail (tails t (by simp))
    simp only [Bounds, List.length_cons, List.length_nil] at bounds
    simp only [assemble, List.length_cons, List.length_nil, List.foldl_cons, List.foldl_nil]
    generalize hv : (b.toNat % 16 * 64 + next.toNat % 64) * 64 + t.toNat % 64 = v
    have hb : v / 4096 % 16 + 224 = b.toNat := by omega
    have hnext : v / 64 % 64 + 128 = next.toNat := by omega
    have hlast : v % 64 + 128 = t.toNat := by omega
    have valid : v.isValidChar := by
      unfold Nat.isValidChar
      omega
    rw [encodeChar_ofNat valid, if_neg (by omega), if_neg (by omega), if_pos (by omega),
      byte_eq hb, tail_eq hnext, tail_eq hlast]
  | [t, u] =>
    have ht := toNat_of_isTail (tails t (by simp))
    have hu := toNat_of_isTail (tails u (by simp))
    simp only [Bounds, List.length_cons, List.length_nil] at bounds
    simp only [assemble, List.length_cons, List.length_nil, List.foldl_cons, List.foldl_nil]
    generalize hv : ((b.toNat % 8 * 64 + next.toNat % 64) * 64 + t.toNat % 64) * 64 +
      u.toNat % 64 = v
    have hb : v / 262144 % 8 + 240 = b.toNat := by omega
    have hnext : v / 4096 % 64 + 128 = next.toNat := by omega
    have ht' : v / 64 % 64 + 128 = t.toNat := by omega
    have hlast : v % 64 + 128 = u.toNat := by omega
    have valid : v.isValidChar := .inr (by omega)
    rw [encodeChar_ofNat valid, if_neg (by omega), if_neg (by omega), if_neg (by omega),
      byte_eq hb, tail_eq hnext, tail_eq ht', tail_eq hlast]
  | _ :: _ :: _ :: _ => exact bounds.elim

/-- The bytes that fit a first byte are one within its bounds and others that continue it, and they
stand at the front of the `rest`. -/
lemma exists_of_fitting {l : Lead} {rest : List UInt8} (h : fitting l rest = l.following)
    (following : 0 < l.following) :
    ∃ next others more, rest = next :: others ++ more ∧ l.low ≤ next ∧ next ≤ l.high ∧
      others.length + 1 = l.following ∧ ∀ t ∈ others, isTail t = true := by
  cases rest with
  | nil => exact absurd h (Nat.ne_of_lt following)
  | cons next rest =>
    unfold fitting at h
    dsimp only at h
    by_cases hnext : (l.low ≤ next && next ≤ l.high) = true
    case neg =>
      rw [if_neg hnext] at h
      exact absurd h (Nat.ne_of_lt following)
    case pos =>
      rw [if_pos hnext] at h
      rw [Bool.and_eq_true, decide_eq_true_eq, decide_eq_true_eq] at hnext
      have all : (rest.take (l.following - 1)).takeWhile isTail = rest.take (l.following - 1) := by
        refine (List.takeWhile_prefix _).eq_of_length ?_
        have most := List.length_take_le (l.following - 1) rest
        have fewer := (List.takeWhile_prefix (l := rest.take (l.following - 1)) isTail).length_le
        omega
      rw [all] at h
      refine ⟨next, rest.take (l.following - 1), rest.drop (l.following - 1), ?_, hnext.1,
        hnext.2, by omega, List.takeWhile_eq_self_iff.1 all⟩
      rw [List.cons_append, List.take_append_drop]

/-! ## Whole texts -/

/-- A character that is read first by `decode` has its code at the front, and the rest of the bytes
is read after it. -/
lemma exists_of_decode {bytes : List UInt8} {c : Char} {more : List (Option Char)}
    (h : decode bytes = some c :: more) :
    ∃ rest, bytes = String.utf8EncodeChar c ++ rest ∧ decode rest = more := by
  match bytes with
  | [] =>
    rw [decode] at h
    cases h
  | b :: rest =>
    by_cases narrow : b < 0x80
    · rw [decode, if_pos narrow, List.cons.injEq] at h
      have code : String.utf8EncodeChar c = [b] := by
        rw [UInt8.lt_iff_toNat_lt] at narrow
        have small : b.toNat ≤ 0x7F := Nat.le_of_lt_succ narrow
        have valid : b.toNat.isValidChar := .inl (by omega)
        rw [← Option.some.inj h.1, encodeChar_ofNat valid, if_pos small, byte_eq rfl]
      exact ⟨rest, by rw [code]; rfl, h.2⟩
    · cases lead : lead? b with
      | none =>
        rw [decode, if_neg narrow, lead] at h
        cases h
      | some l =>
        rw [decode, if_neg narrow, lead] at h
        dsimp only at h
        rw [List.cons.injEq] at h
        obtain ⟨first, further⟩ := h
        by_cases fits : fitting l rest = l.following
        case neg =>
          rw [if_neg fits] at first
          cases first
        rw [if_pos fits] at first
        have following : 0 < l.following := by
          unfold lead? at lead
          split_ifs at lead <;> cases lead <;> decide
        obtain ⟨next, others, rest', rfl, low, high, length, tails⟩ :=
          exists_of_fitting fits following
        have bounds := bounds_of_lead? lead low high
        rw [← length] at bounds
        have count : fitting l (next :: others ++ rest') = (next :: others).length :=
          fits.trans length.symm
        rw [count, List.take_left] at first
        rw [count, List.drop_left] at further
        refine ⟨rest', ?_, further⟩
        rw [← Option.some.inj first, encodeChar_assemble bounds tails]
        rfl

lemma decode_eq_nil {bytes : List UInt8} (h : decode bytes = []) : bytes = [] := by
  cases bytes with
  | nil => rfl
  | cons b rest =>
    rw [decode] at h
    split at h
    · cases h
    · split at h <;> cases h

/-- Bytes of which every one belongs to a character are the codes of these characters: nothing is
left out by `decode`. -/
lemma eq_flatMap_of_decode {bytes : List UInt8} {cs : List Char}
    (h : decode bytes = cs.map some) : bytes = cs.flatMap String.utf8EncodeChar := by
  induction cs generalizing bytes with
  | nil => exact decode_eq_nil h
  | cons c cs ih =>
    obtain ⟨rest, rfl, further⟩ := exists_of_decode h
    rw [List.flatMap_cons, ← ih further]

lemma mapM_id_eq_some {α : Type} {xs : List (Option α)} {ys : List α} :
    xs.mapM id = some ys ↔ xs = ys.map some := by
  induction xs generalizing ys with
  | nil => cases ys <;> simp
  | cons x xs ih =>
    cases ys with
    | nil => cases x <;> simp [Option.bind_eq_some_iff]
    | cons y ys => cases x <;> simp [Option.bind_eq_some_iff, ih, and_comm]

/-- What is read strictly are the bytes of a text, and it is the text that is read of them, so that
`strict?` and `encode` are inverse to each other. -/
lemma strict?_eq_some_iff {bytes : List UInt8} {text : String} :
    strict? bytes = some text ↔ bytes = encode text := by
  unfold strict?
  rw [Option.map_eq_some_iff]
  constructor
  · rintro ⟨cs, read, rfl⟩
    rw [encode_eq_flatMap, String.toList_ofList]
    exact eq_flatMap_of_decode (mapM_id_eq_some.1 read)
  · rintro rfl
    exact ⟨text.toList, mapM_id_eq_some.2 (decode_encode text), String.ofList_toList⟩

end StartupBench.Utf8
