import StartupBench.Proofs.Text.Words

/-!
# Texts made of words

What the words of a text are is said here without reading it: a text is made of words if they stand
in it one after the other, each without a blank in it, with one blank at least between two of them
and any blanks around them (`MadeOf`).  A text is made of its own words and of no others
(`words_eq_iff`), so that texts with the same words differ in nothing but their blanks.

`words` reads a text character by character, and `Spaced` is a relation between characters and words
which has a blank that ends a word only where it has to.  `Spaced.wordsOf_eq` and `spaced_wordsOf`
show that the one computes the other, by induction on the relation and on the characters.  What is
listed by a system in lines of words can thereby be described by the words alone, whatever blanks it
puts between them, as `ProcessTable.findWindow_least` does of the lines of a process table.
-/

namespace StartupBench.Text

/-- The characters are these words, with blanks between and around them.  No word is empty, and no
blank is in one. -/
inductive Spaced : List (List Char) → List Char → Prop
  | blank {gap : List Char} (blank : ∀ c ∈ gap, isBlank c = true) : Spaced [] gap
  | word {gap word rest : List Char} {words : List (List Char)}
      (blank : ∀ c ∈ gap, isBlank c = true) (nonempty : word ≠ [])
      (unbroken : ∀ c ∈ word, isBlank c = false) (apart : ∀ c ∈ rest.head?, isBlank c = true)
      (more : Spaced words rest) : Spaced (word :: words) (gap ++ word ++ rest)

/-- The text is these words, with blanks between and around them, as `Spaced` has it of their
characters. -/
def MadeOf (words : List String) (text : String) : Prop :=
  Spaced (words.map String.toList) text.toList

/-- The two texts are made of the same words, and so differ only in their blanks. -/
def Respaced (s t : String) : Prop := ∃ words, MadeOf words s ∧ MadeOf words t

/-! ## Words of characters -/

lemma wordsOf_blanks_append {gap : List Char} (blank : ∀ c ∈ gap, isBlank c = true)
    (s : List Char) : wordsOf (gap ++ s) = wordsOf s := by
  induction gap with
  | nil => rfl
  | cons c gap ih =>
    obtain ⟨hc, hgap⟩ := List.forall_mem_cons.1 blank
    rw [List.cons_append, wordsOf_blank hc, ih hgap]

/-- Characters have no other words than those they are made of: `wordsOf` finds them by induction on
how they are spaced. -/
lemma Spaced.wordsOf_eq {words : List (List Char)} {s : List Char} (h : Spaced words s) :
    wordsOf s = words := by
  induction h with
  | blank blank =>
    have none := wordsOf_blanks_append blank []
    rwa [List.append_nil] at none
  | @word gap word rest words blank nonempty unbroken apart more ih =>
    rw [List.append_assoc, wordsOf_blanks_append blank]
    cases rest with
    | nil =>
      rw [List.append_nil, wordsOf_of_unbroken nonempty unbroken, ← ih]
      rfl
    | cons b rest =>
      have hb : isBlank b = true := apart b rfl
      rw [wordsOf_append_blank hb, wordsOf_of_unbroken nonempty unbroken, ← ih, wordsOf_blank hb]
      rfl

lemma Spaced.cons_blank {words : List (List Char)} {s : List Char} {b : Char}
    (h : Spaced words s) (hb : isBlank b = true) : Spaced words (b :: s) := by
  cases h with
  | blank blank => exact .blank (List.forall_mem_cons.2 ⟨hb, blank⟩)
  | word blank nonempty unbroken apart more =>
    exact .word (List.forall_mem_cons.2 ⟨hb, blank⟩) nonempty unbroken apart more

/-- A character in front of a word belongs to the word, if it is no blank. -/
lemma Spaced.cons_cons {words : List (List Char)} {word s : List Char} {c d : Char}
    (h : Spaced (word :: words) (d :: s)) (hc : isBlank c = false) (hd : isBlank d = false) :
    Spaced ((c :: word) :: words) (c :: d :: s) := by
  generalize hs : d :: s = t at h
  cases h with
  | @word gap word rest words blank nonempty unbroken apart more =>
    cases gap with
    | nil =>
      exact @Spaced.word [] _ _ _ nofun (List.cons_ne_nil _ _)
        (List.forall_mem_cons.2 ⟨hc, unbroken⟩) apart more
    | cons b gap =>
      have same : d = b := (List.cons.inj hs).1
      rw [same, blank b List.mem_cons_self] at hd
      cases hd

/-- Characters are made of their words: `wordsOf` leaves out blanks only. -/
lemma spaced_wordsOf (s : List Char) : Spaced (wordsOf s) s := by
  induction s with
  | nil => exact .blank nofun
  | cons c s ih =>
    by_cases hblank : isBlank c = true
    · rw [wordsOf_blank hblank]
      exact ih.cons_blank hblank
    · have hc : isBlank c = false := Bool.eq_false_iff.2 hblank
      have single : ∀ b ∈ [c], isBlank b = false := fun b hb => List.mem_singleton.1 hb ▸ hc
      cases s with
      | nil =>
        rw [wordsOf_singleton hc]
        exact @Spaced.word [] _ [] _ nofun (List.cons_ne_nil _ _) single nofun (.blank nofun)
      | cons d s =>
        by_cases next : isBlank d = true
        · rw [wordsOf_cons_blank hc next]
          have apart : ∀ b ∈ (d :: s).head?, isBlank b = true := by
            rintro _ ⟨⟩
            exact next
          exact @Spaced.word [] _ _ _ nofun (List.cons_ne_nil _ _) single apart ih
        · have hd : isBlank d = false := Bool.eq_false_iff.2 next
          obtain ⟨word, words, hs⟩ := exists_wordsOf_cons hd s
          rw [hs] at ih
          rw [wordsOf_cons_cons hc hd hs]
          exact ih.cons_cons hc hd

/-! ## Words of texts -/

/-- A text is made of its `words`, and of no others. -/
lemma words_eq_iff {text : String} {ws : List String} : words text = ws ↔ MadeOf ws text := by
  have read : (words text).map String.toList = wordsOf text.toList := by
    simp [words, Function.comp_def]
  unfold MadeOf
  constructor
  · rintro rfl
    rw [read]
    exact spaced_wordsOf _
  · intro h
    have same := h.wordsOf_eq
    rw [← read] at same
    exact List.map_injective_iff.2 (fun _ _ => String.toList_inj.1) same

/-- To have the same `words` is to differ in blanks alone. -/
lemma respaced_iff {s t : String} : Respaced s t ↔ words s = words t := by
  constructor
  · rintro ⟨ws, hs, ht⟩
    rw [words_eq_iff.2 hs, words_eq_iff.2 ht]
  · intro same
    exact ⟨words t, words_eq_iff.1 same, words_eq_iff.1 rfl⟩

end StartupBench.Text
