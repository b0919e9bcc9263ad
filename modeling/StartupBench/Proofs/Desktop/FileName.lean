import StartupBench.Desktop.ProcessTable
import StartupBench.Proofs.Text.Decoded
import StartupBench.RawText

/-!
# The file name of a path as text

A path is bytes and its file name the last of its parts (`Path.fileName?`); in the table of
processes a program is text, and its file name is what follows the last slash
(`ProcessEntry.fileName`).  The two agree for every well-formed path that ends in its file name
(`fileNameText_eq`): no byte of a longer character is a slash.

Which paths these are is said of the text (`Path.EndsInFileName`).  A slash at the end, or one or
two dots after the last slash, name a directory and no file in it; the parts of a path know of that,
and the text after the last slash does not.  Any text is some directory, or nothing, and after it
what follows the last slash (`ProcessEntry.exists_directory`), so that both file names are found by
putting a path together instead of taking it apart.
-/

namespace StartupBench

namespace ProcessEntry

/-- A name without a slash is its own file name, as `ProcessEntry.fileName` leaves nothing away. -/
lemma fileName_of_not_mem {name : String} (apart : '/' ∉ name.toList) : fileName name = name := by
  have all : name.toList.reverse.takeWhile (· != '/') = name.toList.reverse := by
    rw [List.takeWhile_eq_self_iff]
    intro c hc
    exact bne_iff_ne.2 fun same => apart (same ▸ List.mem_reverse.1 hc)
  rw [fileName, all, List.reverse_reverse, String.ofList_toList]

/-- What stands in front of the last slash is left away by `ProcessEntry.fileName`. -/
lemma fileName_append (directory : String) {name : String} (apart : '/' ∉ name.toList) :
    fileName (directory ++ "/" ++ name) = name := by
  have chars : (directory ++ "/" ++ name).toList.reverse =
      name.toList.reverse ++ '/' :: directory.toList.reverse := by
    simp [String.toList_append]
  have noSlash : ∀ c ∈ name.toList.reverse, (c != '/') = true := by
    intro c hc
    exact bne_iff_ne.2 fun same => apart (same ▸ List.mem_reverse.1 hc)
  rw [fileName, chars, List.takeWhile_append_of_pos noSlash,
    List.takeWhile_cons_of_neg (by simp), List.append_nil, List.reverse_reverse,
    String.ofList_toList]

/-- The text is some directory, or nothing, and after it what follows the last slash, in which there
is none. -/
lemma exists_directory (text : String) :
    '/' ∉ (fileName text).toList ∧
      (text = fileName text ∨ ∃ directory, text = directory ++ "/" ++ fileName text) := by
  by_cases h : '/' ∈ text.toList.reverse
  · obtain ⟨name, before, split, apart⟩ := List.eq_append_cons_of_mem h
    have chars : text.toList = before.reverse ++ '/' :: name.reverse := by
      rw [← List.reverse_reverse text.toList, split]
      simp
    have parts : text = String.ofList before.reverse ++ "/" ++ String.ofList name.reverse := by
      rw [← String.toList_inj, chars]
      simp [String.toList_append]
    have apart' : '/' ∉ (String.ofList name.reverse).toList := by
      simpa using apart
    have named : fileName text = String.ofList name.reverse := by
      rw [parts, fileName_append _ apart']
    rw [named]
    exact ⟨apart', .inr ⟨_, parts⟩⟩
  · have apart : '/' ∉ text.toList := fun hc => h (List.mem_reverse.2 hc)
    rw [fileName_of_not_mem apart]
    exact ⟨apart, .inl rfl⟩

end ProcessEntry

namespace Path

/-- The path ends in the name of a file, and not in a slash or in a part that names a directory. -/
def EndsInFileName (text : String) : Prop :=
  ProcessEntry.fileName text ≠ "" ∧ ProcessEntry.fileName text ≠ "." ∧
    ProcessEntry.fileName text ≠ ".."

instance (text : String) : Decidable (EndsInFileName text) :=
  inferInstanceAs (Decidable (_ ∧ _ ∧ _))

/-! ## Parts of bytes -/

lemma splitSlash_ne_nil (bytes : List UInt8) : splitSlash bytes ≠ [] := by
  cases bytes with
  | nil => exact List.cons_ne_nil _ _
  | cons b bytes =>
    rw [splitSlash]
    split
    · exact List.cons_ne_nil _ _
    · split <;> exact List.cons_ne_nil _ _

lemma splitSlash_append (s t : List UInt8) :
    splitSlash (s ++ slash :: t) = splitSlash s ++ splitSlash t := by
  induction s with
  | nil => rfl
  | cons b s ih =>
    rw [List.cons_append, splitSlash, splitSlash, ih]
    obtain ⟨part, parts, hparts⟩ := List.exists_cons_of_ne_nil (splitSlash_ne_nil s)
    by_cases hb : (b == slash) = true
    · rw [if_pos hb, if_pos hb, List.cons_append]
    · rw [if_neg hb, if_neg hb, hparts]
      rfl

lemma splitSlash_of_not_mem {bytes : List UInt8} (h : slash ∉ bytes) :
    splitSlash bytes = [bytes] := by
  induction bytes with
  | nil => rfl
  | cons b bytes ih =>
    rw [List.mem_cons, not_or] at h
    have hb : ¬ (b == slash) = true := fun heq => h.1 (beq_iff_eq.1 heq).symm
    rw [splitSlash, if_neg hb, ih h.2]

/-- A slash among the bytes of a text is a slash of the text: no byte of a longer code is below 128.
-/
lemma slash_of_mem_encode {text : String} (h : slash ∈ Utf8.encode text) : '/' ∈ text.toList := by
  rw [Utf8.encode_eq_flatMap] at h
  obtain ⟨c, hc, hbyte⟩ := List.mem_flatMap.1 h
  have value : c.val.toNat = 0x2F := by
    have apart : ∀ n, 0x80 ≤ n → n < 256 → slash ≠ UInt8.ofNat n := by
      intro n low high heq
      have same : 0x2F = n := (Utf8.byte_eq_byte (by decide) high).1 heq
      omega
    have bound : c.val.toNat < 0x110000 := c.valid.elim (fun h => by omega) And.right
    unfold String.utf8EncodeChar at hbyte
    generalize c.val.toNat = v at *
    dsimp only at hbyte
    split_ifs at hbyte with one two three
    · have heq : slash = UInt8.ofNat v := List.mem_singleton.1 hbyte
      exact ((Utf8.byte_eq_byte (by decide) (by omega)).1 heq).symm
    · simp only [List.mem_cons, List.not_mem_nil, or_false] at hbyte
      obtain heq | heq := hbyte <;> exact absurd heq (apart _ (by omega) (by omega))
    · simp only [List.mem_cons, List.not_mem_nil, or_false] at hbyte
      obtain heq | heq | heq := hbyte <;> exact absurd heq (apart _ (by omega) (by omega))
    · simp only [List.mem_cons, List.not_mem_nil, or_false] at hbyte
      obtain heq | heq | heq | heq := hbyte <;> exact absurd heq (apart _ (by omega) (by omega))
  have same : c = '/' := Char.ext (UInt32.toNat_inj.1 value)
  exact same ▸ hc

/-! ## The file name -/

lemma parts_getLast?_of_encode {text : String} (h : EndsInFileName text) :
    (text : Path).parts.getLast? = some (Utf8.encode (ProcessEntry.fileName text)) := by
  obtain ⟨nonempty, notDot, -⟩ := h
  obtain ⟨apart, split⟩ := ProcessEntry.exists_directory text
  generalize ProcessEntry.fileName text = name at *
  have noSlash : slash ∉ Utf8.encode name := fun hmem => apart (slash_of_mem_encode hmem)
  have bytes : ∃ before, splitSlash (Utf8.encode text) = before ++ [Utf8.encode name] := by
    obtain rfl | ⟨directory, rfl⟩ := split
    · exact ⟨[], splitSlash_of_not_mem noSlash⟩
    · refine ⟨splitSlash (Utf8.encode directory), ?_⟩
      have joined : Utf8.encode (directory ++ "/" ++ name) =
          Utf8.encode directory ++ slash :: Utf8.encode name := by
        rw [Utf8.encode_eq_flatMap, Utf8.encode_eq_flatMap, Utf8.encode_eq_flatMap,
          String.toList_append, String.toList_append, List.flatMap_append, List.flatMap_append,
          List.append_assoc]
        rfl
      rw [joined, splitSlash_append, splitSlash_of_not_mem noSlash]
  obtain ⟨before, hbytes⟩ := bytes
  have kept : (!(Utf8.encode name).isEmpty && Utf8.encode name != [dot]) = true := by
    have notEmpty : Utf8.encode name ≠ [] := fun heq => nonempty (Utf8.encode_inj.1 heq)
    have notSingle : Utf8.encode name ≠ [dot] := fun heq => notDot (Utf8.encode_inj.1 heq)
    simp [notEmpty, notSingle]
  show (List.filter _ (splitSlash (Utf8.encode text))).getLast? = _
  rw [hbytes, List.filter_append, List.filter_singleton, kept]
  simp

/-- The file name of a path, as it is shown, is what follows the last slash of its text. -/
lemma fileNameText_eq {text : String} (h : EndsInFileName text) :
    (text : Path).fileNameText = ProcessEntry.fileName text := by
  have notParent : Utf8.encode (ProcessEntry.fileName text) ≠ [dot, dot] :=
    fun heq => h.2.2 (Utf8.encode_inj.1 heq)
  have found : (text : Path).fileName? = some ⟨Utf8.encode (ProcessEntry.fileName text)⟩ := by
    unfold fileName?
    rw [parts_getLast?_of_encode h]
    exact if_neg notParent
  unfold fileNameText
  rw [found]
  exact Utf8.lossy_encode _

end Path

end StartupBench
