import Mathlib.Data.Nat.Notation
import StartupBench.Desktop.ProcessTable

/-!
# Numbers of processes as text

In the table of processes and in messages the number of a process is a word of decimal digits.  It
is read from the words that write it, with a plus in front or without (`ProcessEntry.Writes`), and
from no others (`ProcessEntry.pid?_eq_some_iff`).

Zeros in front do not matter, a minus is refused, and a number of more than 32 bits is refused where
it becomes too large, so that `ProcessEntry.Writes` is about natural numbers of any size and the
bound comes in by the type of the process.  What the program writes itself is read back
(`ProcessEntry.pid?_text`); the lines of the table come from the system, and there the plus and the
zeros may occur.
-/

namespace StartupBench

namespace ProcessEntry

/-! ## Digits -/

lemma digit?_of_isDigit {c : Char} (h : c.isDigit = true) :
    digit? c = some (c.toNat - '0'.toNat) := by
  rw [Char.isDigit_iff_toNat] at h
  unfold digit?
  exact if_pos h

lemma number?_of_digits {cs : List Char} (h : ∀ c ∈ cs, c.isDigit = true) (value : Nat) :
    number? value cs = some (Nat.ofDigitChars 10 cs value) := by
  induction cs generalizing value with
  | nil => rfl
  | cons c cs ih =>
    obtain ⟨hc, hcs⟩ := List.forall_mem_cons.1 h
    rw [number?, digit?_of_isDigit hc, Option.bind_some, ih hcs, Nat.ofDigitChars_cons,
      Nat.mul_comm]

lemma isDigit_of_digit? {c : Char} {d : ℕ} (h : digit? c = some d) : c.isDigit = true := by
  unfold digit? at h
  split at h
  · rename_i bounds
    exact Char.isDigit_iff_toNat.2 bounds
  · cases h

/-- Only digits write a number: `number?` stops at any other character. -/
lemma isDigit_of_number? {cs : List Char} {value n : ℕ} (h : number? value cs = some n) :
    ∀ c ∈ cs, c.isDigit = true := by
  induction cs generalizing value with
  | nil => exact nofun
  | cons c cs ih =>
    obtain ⟨d, hd, hrest⟩ := Option.bind_eq_some_iff.1 h
    exact List.forall_mem_cons.2 ⟨isDigit_of_digit? hd, ih hrest⟩

lemma number?_eq_some_iff {cs : List Char} {n : ℕ} :
    number? 0 cs = some n ↔ (∀ c ∈ cs, c.isDigit = true) ∧ Nat.ofDigitChars 10 cs 0 = n := by
  constructor
  · intro h
    have digits := isDigit_of_number? h
    rw [number?_of_digits digits, Option.some.injEq] at h
    exact ⟨digits, h⟩
  · rintro ⟨digits, rfl⟩
    exact number?_of_digits digits 0

/-! ## Words that write a number -/

/-- The word writes the number in decimal digits, with a plus in front if need be. -/
def Writes (word : String) (n : ℕ) : Prop :=
  ∃ digits : List Char, digits ≠ [] ∧ (∀ c ∈ digits, c.isDigit = true) ∧
    (word.toList = digits ∨ word.toList = '+' :: digits) ∧ Nat.ofDigitChars 10 digits 0 = n

/-- The characters of a word without a plus in front, if it has one there. -/
def unsigned (word : String) : List Char :=
  match word.toList with
  | '+' :: rest => rest
  | cs => cs

lemma toList_eq_unsigned (word : String) :
    word.toList = unsigned word ∨ word.toList = '+' :: unsigned word := by
  unfold unsigned
  split
  · rename_i rest plus
    exact .inr plus
  · exact .inl rfl

lemma unsigned_of_digits {word : String} {digits : List Char}
    (h : ∀ c ∈ digits, c.isDigit = true)
    (written : word.toList = digits ∨ word.toList = '+' :: digits) : unsigned word = digits := by
  unfold unsigned
  rcases written with plain | plus
  · rw [plain]
    split
    · exact absurd (h '+' List.mem_cons_self) (by decide)
    · rfl
  · rw [plus]
    rfl

lemma writes_iff {word : String} {n : ℕ} : Writes word n ↔
    unsigned word ≠ [] ∧ (∀ c ∈ unsigned word, c.isDigit = true) ∧
      Nat.ofDigitChars 10 (unsigned word) 0 = n := by
  constructor
  · rintro ⟨digits, nonempty, h, written, value⟩
    rw [unsigned_of_digits h written]
    exact ⟨nonempty, h, value⟩
  · rintro ⟨nonempty, h, value⟩
    exact ⟨unsigned word, nonempty, h, toList_eq_unsigned word, value⟩

/-- How a process number is read, apart from the plus in front: the digits of `unsigned`, if there
are any and the number has 32 bits. -/
lemma pid?_eq (word : String) : pid? word = if (unsigned word).isEmpty then none
    else (number? 0 (unsigned word)).bind fun n =>
      if n < Nat.pow 2 32 then some ⟨n.toUInt32⟩ else none := by
  unfold pid?
  dsimp only
  split
  · rename_i rest plus
    have digits : unsigned word = rest := by
      unfold unsigned
      rw [plus]
      rfl
    rw [digits]
    cases number? 0 rest <;> rfl
  · rename_i plain
    have digits : unsigned word = word.toList :=
      (toList_eq_unsigned word).elim Eq.symm fun plus => absurd plus (plain _)
    rw [digits]
    cases number? 0 word.toList <;> rfl

/-- A process number is read of the words that write it (`Writes`), and of no others. -/
lemma pid?_eq_some_iff {word : String} {pid : ProcessId} :
    pid? word = some pid ↔ Writes word pid.number.toNat := by
  have bound : pid.number.toNat < Nat.pow 2 32 := pid.number.toNat_lt
  rw [pid?_eq, writes_iff, ← List.isEmpty_eq_false_iff, ← number?_eq_some_iff]
  cases (unsigned word).isEmpty with
  | true => simp
  | false =>
    cases number? 0 (unsigned word) with
    | none => simp
    | some n =>
      simp only [Bool.false_eq_true, if_false, true_and, Option.bind_some, Option.some.injEq]
      constructor
      · intro h
        split at h
        · rename_i small
          cases h
          exact (Nat.mod_eq_of_lt small).symm
        · cases h
      · rintro rfl
        rw [if_pos bound, Nat.toUInt32, UInt32.ofNat_toNat]

lemma toList_pidText (pid : ProcessId) :
    pid.text.toList = Nat.toDigits 10 pid.number.toNat := by
  have text : pid.text = pid.number.toNat.repr := rfl
  rw [text, Nat.repr_eq_ofList_toDigits, String.toList_ofList]

/-- A process number is read as it is written by `ProcessId.text`. -/
lemma pid?_text (pid : ProcessId) : pid? pid.text = some pid := by
  refine pid?_eq_some_iff.2 ⟨Nat.toDigits 10 pid.number.toNat, Nat.toDigits_ne_nil, ?_,
    .inl (toList_pidText pid), Nat.ofDigitChars_ten_toDigits⟩
  exact fun c hc => Nat.isDigit_of_mem_toDigits (by decide) (by decide) hc

end ProcessEntry

end StartupBench
