import StartupBench.Text.Blank
import Mathlib.Data.List.Basic
import Mathlib.Data.String.Basic

/-!
# The words of joined texts

The words of texts that are joined with blanks are the words of each, one after the other
(`words_append`), and a text without blanks is a word of its own (`words_of_unbroken`).  So a list
of words can be joined and read back, and a list of texts cannot: where a text has a blank in it,
nothing tells that blank from one that joins.

The words of characters are found from the left (`wordsOf`), one at a time, and what is said of them
here goes by how a text begins: with a blank, which is skipped, or with a character that begins a
word (`exists_wordsOf_cons`).  `wordsOf_append_blank` is the induction on the text before the blank,
and the statement about joined texts is an induction on these.
-/

namespace StartupBench.Text

/-- There is no blank in the text, so that it is not broken up into `words`. -/
def Unbroken (text : String) : Prop := ∀ c ∈ text.toList, isBlank c = false

instance (text : String) : Decidable (Unbroken text) := List.decidableBAll _ _

/-! ## Words of characters -/

lemma wordsOf_blank {c : Char} (h : isBlank c = true) (rest : List Char) :
    wordsOf (c :: rest) = wordsOf rest := by
  cases rest <;> simp [wordsOf, h]

lemma wordsOf_singleton {c : Char} (h : isBlank c = false) : wordsOf [c] = [[c]] := by
  simp [wordsOf, h]

lemma wordsOf_cons_blank {c b : Char} (h : isBlank c = false) (hb : isBlank b = true)
    (rest : List Char) : wordsOf (c :: b :: rest) = [c] :: wordsOf (b :: rest) := by
  simp [wordsOf, h, hb]

/-- A character in front of a word belongs to the word, where `wordsOf` reads the word first. -/
lemma wordsOf_cons_cons {c d : Char} (h : isBlank c = false) (hd : isBlank d = false)
    {rest word : List Char} {words : List (List Char)}
    (hrest : wordsOf (d :: rest) = word :: words) :
    wordsOf (c :: d :: rest) = (c :: word) :: words := by
  rw [wordsOf, if_neg (Bool.eq_false_iff.1 h), if_neg (Bool.eq_false_iff.1 hd), hrest]

/-- A word begins where there is no blank, and `wordsOf` finds it first. -/
lemma exists_wordsOf_cons {c : Char} (h : isBlank c = false) (rest : List Char) :
    ∃ word words, wordsOf (c :: rest) = (c :: word) :: words := by
  induction rest generalizing c with
  | nil => exact ⟨[], [], wordsOf_singleton h⟩
  | cons d rest ih =>
    by_cases blank : isBlank d = true
    · exact ⟨[], _, wordsOf_cons_blank h blank rest⟩
    · obtain ⟨word, words, hrest⟩ := ih (Bool.eq_false_iff.2 blank)
      exact ⟨d :: word, words, wordsOf_cons_cons h (Bool.eq_false_iff.2 blank) hrest⟩

/-- A blank keeps the words before it from those behind it, so that `wordsOf` finds both. -/
lemma wordsOf_append_blank {b : Char} (h : isBlank b = true) (s t : List Char) :
    wordsOf (s ++ b :: t) = wordsOf s ++ wordsOf t := by
  induction s with
  | nil => exact wordsOf_blank h t
  | cons c s ih =>
    by_cases blank : isBlank c = true
    · rw [List.cons_append, wordsOf_blank blank, wordsOf_blank blank, ih]
    · have hc := Bool.eq_false_iff.2 blank
      cases s with
      | nil =>
        rw [List.singleton_append, wordsOf_cons_blank hc h, wordsOf_blank h, wordsOf_singleton hc]
        rfl
      | cons d s =>
        rw [List.cons_append] at ih ⊢
        by_cases next : isBlank d = true
        · rw [List.cons_append, wordsOf_cons_blank hc next, wordsOf_cons_blank hc next, ih]
          rfl
        · have hd := Bool.eq_false_iff.2 next
          obtain ⟨word, words, hs⟩ := exists_wordsOf_cons hd s
          rw [hs] at ih
          rw [List.cons_append, wordsOf_cons_cons hc hd ih, wordsOf_cons_cons hc hd hs]
          rfl

lemma wordsOf_of_unbroken {s : List Char} (hne : s ≠ []) (h : ∀ c ∈ s, isBlank c = false) :
    wordsOf s = [s] := by
  induction s with
  | nil => exact absurd rfl hne
  | cons c s ih =>
    obtain ⟨hc, hs⟩ := List.forall_mem_cons.1 h
    cases s with
    | nil => exact wordsOf_singleton hc
    | cons d s =>
      have hd : isBlank d = false := hs d List.mem_cons_self
      exact wordsOf_cons_cons hc hd (ih (List.cons_ne_nil _ _) hs)

lemma unbroken_of_mem_wordsOf {s word : List Char} (h : word ∈ wordsOf s) :
    ∀ c ∈ word, isBlank c = false := by
  induction s generalizing word with
  | nil => exact absurd h List.not_mem_nil
  | cons c s ih =>
    by_cases blank : isBlank c = true
    · rw [wordsOf_blank blank] at h
      exact ih h
    · have hc := Bool.eq_false_iff.2 blank
      have single : ∀ b ∈ [c], isBlank b = false := fun b hb => List.mem_singleton.1 hb ▸ hc
      cases s with
      | nil =>
        rw [wordsOf_singleton hc] at h
        exact List.mem_singleton.1 h ▸ single
      | cons d s =>
        by_cases next : isBlank d = true
        · rw [wordsOf_cons_blank hc next] at h
          obtain rfl | h := List.mem_cons.1 h
          · exact single
          · exact ih h
        · have hd := Bool.eq_false_iff.2 next
          obtain ⟨first, words, hs⟩ := exists_wordsOf_cons hd s
          rw [wordsOf_cons_cons hc hd hs] at h
          rw [hs] at ih
          obtain rfl | h := List.mem_cons.1 h
          · exact List.forall_mem_cons.2 ⟨hc, ih List.mem_cons_self⟩
          · exact ih (List.mem_cons_of_mem _ h)

/-- Only blanks are in a text without words: any other character would begin one for `wordsOf`. -/
lemma blank_of_wordsOf_eq_nil {s : List Char} (h : wordsOf s = []) :
    ∀ c ∈ s, isBlank c = true := by
  induction s with
  | nil => exact fun _ hc => absurd hc List.not_mem_nil
  | cons c s ih =>
    by_cases blank : isBlank c = true
    · rw [wordsOf_blank blank] at h
      rw [List.forall_mem_cons]
      exact ⟨blank, ih h⟩
    · obtain ⟨word, words, hs⟩ := exists_wordsOf_cons (Bool.eq_false_iff.2 blank) s
      rw [hs] at h
      cases h

/-! ## Words of texts -/

lemma words_append (s t : String) : words (s ++ " " ++ t) = words s ++ words t := by
  have blank : isBlank ' ' = true := by decide
  have chars : (s ++ " " ++ t).toList = s.toList ++ ' ' :: t.toList := by
    rw [String.toList_append, String.toList_append, List.append_assoc]
    rfl
  unfold words
  rw [chars, wordsOf_append_blank blank, List.map_append]

lemma words_of_unbroken {text : String} (hne : text ≠ "") (h : Unbroken text) :
    words text = [text] := by
  have hchars : text.toList ≠ [] := fun h => hne (String.toList_eq_nil_iff.1 h)
  unfold words
  rw [wordsOf_of_unbroken hchars h, List.map_singleton, String.ofList_toList]

lemma unbroken_of_mem_words {text word : String} (h : word ∈ words text) : Unbroken word := by
  obtain ⟨chars, hmem, rfl⟩ := List.mem_map.1 h
  unfold Unbroken
  rw [String.toList_ofList]
  exact unbroken_of_mem_wordsOf hmem

lemma blank_of_words_eq_nil {text : String} (h : words text = []) :
    ∀ c ∈ text.toList, isBlank c = true :=
  blank_of_wordsOf_eq_nil (List.map_eq_nil_iff.1 h)

end StartupBench.Text
