import Mathlib.Data.List.TakeWhile
import Mathlib.Data.Set.Card
import StartupBench.Prefetch
import StartupBench.Proofs.Act.Answers
import StartupBench.Proofs.Files.Removed

/-!
# What a purge leaves behind

The prefetch files of an executable are told by their names, and a purge removes what has such a
name, entry by entry in the order of the listing.  Nothing keeps a subdirectory from having such a
name too.  It is no file, and cannot be removed like one.

So a purge answers how many files it has removed if and only if no subdirectory has the name of a
prefetch file, and exactly these files are gone then.  Otherwise it fails at the first such
subdirectory that is listed: the files before it are gone, and those after it are left
(`Prefetch.purge_ends`).

## Directories

The statement is about a directory as a `Content`, which says what stands under each name, and about
any file system that `Presents` such contents: it lists them in an order of its own, and removes a
file but not a subdirectory.  `Prefetch.presents` shows this of the trees of files, with
`Files.removeFile_of_file` and `Files.removeFile_of_directory` of `Proofs.Files.Removed`, so that
the purge of a real directory is a case of the theorem.

## The loop

A purge first picks the names (`doomed`) and then removes them one by one.  `removeAll_answers` is
the induction on those that are left: up to the first that is no file, each removal takes one name
away from the content, and the count goes up with it.
-/

namespace StartupBench.Prefetch

variable {κ σ : Type}

/-! ## Names -/

/-- The name of a prefetch file of the `executable`: it starts with that and ends in `.pf`, in
whichever case the ASCII letters of either are. -/
def Belongs (executable name : String) : Prop :=
  executable.toLower.toList <+: name.toLower.toList ∧ ".pf".toList <:+ name.toLower.toList

lemma lowerAscii_eq (c : Char) : Decimal.lowerAscii c = c.toLower := by
  have bounds : ('A' ≤ c ∧ c ≤ 'Z') ↔ (c.val ≥ 'A'.val ∧ c.val ≤ 'Z'.val) := Iff.rfl
  unfold Decimal.lowerAscii Char.toLower
  by_cases h : 'A' ≤ c ∧ c ≤ 'Z'
  · rw [if_pos h, dif_pos (bounds.1 h)]
    have small : c.val.toNat ≤ 90 := h.2
    have valid : (c.toNat + 32).isValidChar := by
      unfold Char.toNat
      exact .inl (by omega)
    apply Char.toNat_inj.1
    unfold Char.ofNat
    rw [dif_pos valid]
    show c.val.toNat + 32 = (c.val + 32).toNat
    rw [UInt32.toNat_add]
    simp
    omega
  · rw [if_neg h, dif_neg (bounds.not.1 h)]

lemma folded_eq (text : String) : folded text = text.toLower.toList := by
  unfold folded String.toLower
  rw [String.toList_map, funext lowerAscii_eq]

lemma isEntry_iff {name executable : String} :
    isEntry name executable = true ↔ Belongs executable name := by
  unfold isEntry Belongs
  simp only [folded_eq, Bool.and_eq_true, List.isPrefixOf_iff_prefix, List.isSuffixOf_iff_suffix]

/-! ## Directories -/

/-- What stands in a directory, by its name.  The order of a listing is no part of it. -/
abbrev Content : Type := RawText → Option FileTree

namespace Content

/-- What is left of the content `without` some of its names.  It is a specification only, and need
not compute. -/
noncomputable def without (content : Content) (gone : Set RawText) : Content :=
  open Classical in fun name => if name ∈ gone then none else content name

/-- The entries that have the name of a prefetch file, as `Belongs` has it, files and subdirectories
alike. -/
def entriesOf (content : Content) (executable : String) : Set RawText :=
  {name | (content name).isSome ∧ Belongs executable name.display}

/-- Whether a file stands under a name.  It is `false` for a subdirectory, and where nothing stands.
-/
def isFile (content : Content) (name : RawText) : Bool :=
  (content name).any fun tree => !tree.isDirectory

variable {content : Content} {gone gone' : Set RawText} {name : RawText}

lemma without_of_mem (h : name ∈ gone) : content.without gone name = none := if_pos h

lemma without_of_notMem (h : name ∉ gone) : content.without gone name = content name := if_neg h

lemma exists_directory (there : (content name).isSome) (noFile : content.isFile name = false) :
    ∃ entries, content name = some (.directory entries) := by
  unfold isFile at noFile
  obtain ⟨tree, found⟩ := Option.isSome_iff_exists.1 there
  rw [found] at noFile ⊢
  cases tree with
  | directory entries => exact ⟨entries, rfl⟩
  | file bytes executable => cases noFile

lemma exists_file (isFile : content.isFile name) :
    ∃ bytes executable, content name = some (.file bytes executable) := by
  unfold Content.isFile at isFile
  cases found : content name with
  | none =>
    rw [found] at isFile
    cases isFile
  | some tree =>
    rw [found] at isFile
    cases tree with
    | file bytes executable => exact ⟨bytes, executable, rfl⟩
    | directory entries => cases isFile

lemma without_empty : content.without ∅ = content := funext fun _ => if_neg id

lemma entriesOf_without (content : Content) (executable : String) :
    (content.without (content.entriesOf executable)).entriesOf executable = ∅ := by
  refine Set.eq_empty_of_forall_notMem fun name mem => ?_
  obtain ⟨there, belongs⟩ := mem
  by_cases entry : name ∈ content.entriesOf executable
  · rw [without_of_mem entry] at there
    cases there
  · rw [without_of_notMem entry] at there
    exact entry ⟨there, belongs⟩

lemma without_without :
    (content.without gone).without gone' = content.without (gone ∪ gone') := by
  funext name
  by_cases h : name ∈ gone <;> by_cases h' : name ∈ gone' <;> simp [without, h, h']

end Content

/-- The files of a world present a directory: it can be listed in some order, a file in it can be
removed, and a subdirectory of it cannot be removed as if it were a file. -/
structure Presents (files : FileSystem κ σ) (directory : Path) (shows : σ → Content → Prop) :
    Prop where
  list : ∀ {s content}, shows s content → ∃ names,
    (files.list directory).run.Answers s (.ok names) s ∧ names.Nodup ∧
      ∀ name, name ∈ names ↔ (content name).isSome
  removeFile : ∀ {s content name}, shows s content → content.isFile name → ∃ s₁,
    (files.removeFile (directory.join ⟨name⟩)).run.Answers s (.ok ()) s₁ ∧
      shows s₁ (content.without {name})
  subdirectory : ∀ {s content name entries}, shows s content →
    content name = some (.directory entries) →
      (files.removeFile (directory.join ⟨name⟩)).run.Answers s (.error (.os .isADirectory)) s

/-! ## Trees of files -/

/-- What a tree of files shows of the directory at a path: the path is found, and the entries there
are the `content` by their names. -/
def Shows (directory : Path) (f : Files) (content : Content) : Prop :=
  ∃ place es, f.find directory = .ok place ∧ place.here = .directory es ∧
    (es.map (·.1)).Nodup ∧ (∀ name ∈ es.map (·.1), directory.CanHold ⟨name⟩) ∧
    content = fun name => (FileTree.directory es).child? name.bytes

lemma child?_isSome_iff {es : List (FileName × FileTree)} {name : FileName} :
    ((FileTree.directory es).child? name).isSome ↔ name ∈ es.map (·.1) := by
  unfold FileTree.child? FileTree.entries
  rw [Option.isSome_map, List.find?_isSome, List.mem_map]
  simp only [decide_eq_true_iff]

lemma child?_without (es : List (FileName × FileTree)) (name : RawText) :
    Content.without (fun other => (FileTree.directory es).child? other.bytes) {name} =
      fun other =>
        (FileTree.directory (es.filter fun e => e.1 ≠ name.bytes)).child? other.bytes := by
  funext other
  by_cases same : other = name
  · rw [Content.without_of_mem (Set.mem_singleton_iff.2 same), same, FileTree.child?_filter_self]
  · have apart : other.bytes ≠ name.bytes := fun heq => same (congrArg RawText.mk heq)
    rw [Content.without_of_notMem (mt Set.mem_singleton_iff.1 same),
      FileTree.child?_filter_of_ne apart]

lemma change_of_ok {g : Files → Except IoError Files} {f f' : Files} (changed : g f = .ok f') :
    (Files.change g : Try κ Files IoError Unit).run.Answers f (.ok ()) f' := by
  unfold Files.change
  exact Try.answers_step (by simp only [changed])

lemma change_of_error {g : Files → Except IoError Files} {f : Files} {e : IoError}
    (refused : g f = .error e) :
    (Files.change g : Try κ Files IoError Unit).run.Answers f (.error e) f := by
  unfold Files.change
  exact Try.answers_step (by simp only [refused])

/-- A tree of files presents every directory in it, with `Shows` for what it shows. -/
lemma presents (κ : Type) (temporary directory : Path) :
    Presents (Files.fileSystem κ temporary) directory (Shows directory) where
  list := by
    rintro f _ ⟨place, es, found, here, nodup, canHold, rfl⟩
    have listed : f.list directory = .ok es := by
      unfold Files.list
      rw [found]
      dsimp only [bind, Except.bind]
      rw [here]
    refine ⟨es.map fun e => ⟨e.1⟩, ?_, ?_, fun name => ?_⟩
    · refine Try.answers_step ?_
      rw [listed]
      rfl
    · exact List.Nodup.of_map RawText.bytes (by rwa [List.map_map])
    · rw [child?_isSome_iff, List.mem_map, List.mem_map]
      exact exists_congr fun e => and_congr_right fun _ =>
        ⟨fun heq => heq ▸ rfl, fun heq => congrArg RawText.mk heq⟩
  removeFile := by
    rintro f _ name ⟨place, es, found, here, nodup, canHold, rfl⟩ isFile
    obtain ⟨content, executable, there⟩ := Content.exists_file isFile
    have holds : directory.CanHold name :=
      canHold name.bytes (child?_isSome_iff.1 (Option.isSome_of_eq_some there))
    obtain ⟨f', place', removed, found', here'⟩ :=
      Files.removeFile_of_file found here holds (by rwa [here])
    refine ⟨f', change_of_ok removed, place', _, found', here', ?_, ?_, child?_without es name⟩
    · exact nodup.sublist (List.filter_sublist.map _)
    · exact fun name mem => canHold name ((List.filter_sublist.map _).subset mem)
  subdirectory := by
    rintro f _ name entries ⟨place, es, found, here, nodup, canHold, rfl⟩ there
    have holds : directory.CanHold name :=
      canHold name.bytes (child?_isSome_iff.1 (Option.isSome_of_eq_some there))
    exact change_of_error (Files.removeFile_of_directory found holds (by rwa [here]))

/-! ## The purge -/

/-- The entries that have the name of a prefetch file, in the order of a listing, which is the order
of their removal. -/
def doomed (executable : String) (names : List RawText) : List RawText :=
  names.filter fun name => isEntry name.display executable

lemma mem_doomed_iff {executable : String} {names : List RawText} {name : RawText} :
    name ∈ doomed executable names ↔ name ∈ names ∧ Belongs executable name.display := by
  unfold doomed
  rw [List.mem_filter, isEntry_iff]

lemma ncard_mem {α : Type} {l : List α} (h : l.Nodup) : {a | a ∈ l}.ncard = l.length := by
  classical
  have coe : {a | a ∈ l} = (l.toFinset : Set α) := by
    ext a
    simp
  rw [coe, Set.ncard_coe_finset, List.toFinset_card_of_nodup h]

section Blocked

variable {executable : String} {names earlier later : List RawText} {subdirectory : RawText}
  {isFile : RawText → Bool}

/-- A listing in which something stands in the way of a purge has a first such entry: all that is
`doomed` before it can be removed. -/
lemma exists_first
    (blocked : ∃ name ∈ names, Belongs executable name.display ∧ isFile name = false) :
    ∃ earlier subdirectory later, names = earlier ++ subdirectory :: later ∧
      Belongs executable subdirectory.display ∧ isFile subdirectory = false ∧
      ∀ name ∈ earlier, Belongs executable name.display → isFile name := by
  obtain ⟨blocking, mem, belongs, noFile⟩ := blocked
  have stops : (names.find? fun name =>
      isEntry name.display executable && !isFile name).isSome := by
    refine List.find?_isSome.2 ⟨blocking, mem, ?_⟩
    rw [isEntry_iff.2 belongs, noFile]
    rfl
  obtain ⟨subdirectory, found⟩ := Option.isSome_iff_exists.1 stops
  obtain ⟨stop, earlier, later, rfl, before⟩ := List.find?_eq_some_iff_append.1 found
  obtain ⟨belongs, isDirectory⟩ := Bool.and_eq_true_iff.1 stop
  rw [Bool.not_eq_true'] at isDirectory
  refine ⟨earlier, subdirectory, later, rfl, isEntry_iff.1 belongs, isDirectory, ?_⟩
  intro name mem belongs
  have passed := before name mem
  rw [isEntry_iff.2 belongs, Bool.true_and, Bool.not_not] at passed
  exact passed

variable (belongs : Belongs executable subdirectory.display)
include belongs

lemma doomed_split : doomed executable (earlier ++ subdirectory :: later) =
    doomed executable earlier ++ subdirectory :: doomed executable later := by
  unfold doomed
  rw [List.filter_append, List.filter_cons, if_pos (isEntry_iff.2 belongs)]

variable (noFile : isFile subdirectory = false)
include noFile

lemma not_all_doomed :
    (doomed executable (earlier ++ subdirectory :: later)).all isFile = false := by
  rw [doomed_split belongs]
  simp [noFile]

lemma takeWhile_doomed
    (files : ∀ name ∈ earlier, Belongs executable name.display → isFile name) :
    (doomed executable (earlier ++ subdirectory :: later)).takeWhile isFile =
      doomed executable earlier := by
  have earlier_files : ∀ name ∈ doomed executable earlier, isFile name :=
    fun name mem => files name (mem_doomed_iff.1 mem).1 (mem_doomed_iff.1 mem).2
  rw [doomed_split belongs, List.takeWhile_append_of_pos earlier_files,
    List.takeWhile_cons_of_neg (Bool.eq_false_iff.1 noFile), List.append_nil]

end Blocked

section Purge

variable {files : FileSystem κ σ} {directory : Path} {shows : σ → Content → Prop}
  (presents : Presents files directory shows) {s : σ} {content : Content}
include presents

/-- The entries go one after the other, up to the first that is no file: by induction on those that
are left, with what `Presents` says of one removal as the step. -/
lemma removeAll_answers {doomed : List RawText} (isFile : RawText → Bool)
    (shown : shows s content) (nodup : doomed.Nodup)
    (there : ∀ name ∈ doomed, (content name).isSome ∧ content.isFile name = isFile name) :
    ∃ s₁, (removeAll files directory doomed).run.Answers s
        (if doomed.all isFile then .ok () else .error (.os .isADirectory)) s₁ ∧
      shows s₁ (content.without {name | name ∈ doomed.takeWhile isFile}) := by
  induction doomed generalizing s content with
  | nil =>
    refine ⟨s, Act.answers_pure _ _, ?_⟩
    have none : {name : RawText | name ∈ List.takeWhile isFile []} = ∅ := by simp
    rw [none, Content.without_empty]
    exact shown
  | cons name rest ih =>
    obtain ⟨notMem, nodup⟩ := List.nodup_cons.1 nodup
    obtain ⟨here, same⟩ := there name List.mem_cons_self
    cases file : isFile name with
    | true =>
      rw [file] at same
      obtain ⟨s₁, removed, shown⟩ := presents.removeFile shown same
      have there' : ∀ other ∈ rest, ((content.without {name}) other).isSome ∧
          (content.without {name}).isFile other = isFile other := by
        intro other mem
        have apart : other ∉ ({name} : Set RawText) := by
          rintro rfl
          exact notMem mem
        unfold Content.isFile
        rw [Content.without_of_notMem apart]
        exact there other (List.mem_cons_of_mem _ mem)
      obtain ⟨s₂, later, shown⟩ := ih shown nodup there'
      have gone : ({name} ∪ {other | other ∈ rest.takeWhile isFile} : Set RawText) =
          {other | other ∈ (name :: rest).takeWhile isFile} := by
        ext other
        simp [file]
      rw [Content.without_without, gone] at shown
      refine ⟨s₂, ?_, shown⟩
      rw [List.all_cons, file, Bool.true_and]
      exact removed.bind later
    | false =>
      rw [file] at same
      obtain ⟨entries, subdirectory⟩ := Content.exists_directory here same
      have refused := presents.subdirectory shown subdirectory
      have none : {other | other ∈ (name :: rest).takeWhile isFile} = (∅ : Set RawText) := by
        simp [file]
      rw [none, Content.without_empty, List.all_cons, file, Bool.false_and]
      exact ⟨s, refused.bind (Act.answers_pure _ _), shown⟩

omit presents in
lemma purge_of_listed {names : List RawText} {s₁ : σ} {executable : String}
    {removed : Except IoError Unit} (listed : (files.list directory).run.Answers s (.ok names) s)
    (removal : (removeAll files directory (doomed executable names)).run.Answers s removed s₁) :
    (purge files directory executable).run.Answers s
      (removed.map fun _ => (doomed executable names).length) s₁ := by
  have attempted : (Try.attempt (files.list directory) : Try κ σ IoError _).run.Answers s
      (.ok (.ok names)) s := listed.bind (Act.answers_pure _ _)
  have logged : (Try.log .info .prefetch
      ("Deleting " ++ toString (doomed executable names).length ++ " prefetch files") :
      Try κ σ IoError Unit).run.Answers s (.ok ()) s := ⟨rfl, rfl⟩
  unfold purge
  refine attempted.bind (logged.bind (removal.bind ?_))
  cases removed with
  | ok _ => exact Act.answers_pure _ _
  | error e => exact Act.answers_pure _ _

/-- Where no entry has the name of a prefetch file, there is nothing to do: a `purge` answers 0 and
leaves the world as it is. -/
lemma purge_idle (shown : shows s content) {executable : String}
    (none : content.entriesOf executable = ∅) :
    (purge files directory executable).run.Answers s (.ok 0) s := by
  obtain ⟨names, listed, -, mem_iff⟩ := presents.list shown
  have empty : doomed executable names = [] := by
    refine List.eq_nil_iff_forall_not_mem.2 fun name mem => ?_
    obtain ⟨mem, belongs⟩ := mem_doomed_iff.1 mem
    have entry : name ∈ content.entriesOf executable := ⟨(mem_iff name).1 mem, belongs⟩
    rw [none] at entry
    exact entry
  have removal :
      (removeAll files directory (doomed executable names)).run.Answers s (.ok ()) s := by
    rw [empty]
    exact Act.answers_pure _ _
  have purged := purge_of_listed listed removal
  rw [empty] at purged
  exact purged

/-- **What a purge leaves behind.**  If no subdirectory has the name of a prefetch file, a purge
answers how many files have such a name, exactly these are gone then, and a further purge has
nothing to do.  Otherwise it fails at the first such subdirectory of the listing, and exactly the
files with such a name that are listed before it are gone. -/
theorem purge_ends (shown : shows s content) (executable : String) :
    ((∀ name ∈ content.entriesOf executable, content.isFile name) →
      ∃ s₁, (purge files directory executable).run.Answers s
          (.ok (content.entriesOf executable).ncard) s₁ ∧
        shows s₁ (content.without (content.entriesOf executable)) ∧
        (purge files directory executable).run.Answers s₁ (.ok 0) s₁) ∧
    ((∃ name ∈ content.entriesOf executable, content.isFile name = false) →
      ∃ earlier subdirectory later s₁,
        (files.list directory).run.Answers s (.ok (earlier ++ subdirectory :: later)) s ∧
        subdirectory ∈ content.entriesOf executable ∧ content.isFile subdirectory = false ∧
        (∀ name ∈ earlier, Belongs executable name.display → content.isFile name) ∧
        (purge files directory executable).run.Answers s (.error (.os .isADirectory)) s₁ ∧
        shows s₁ (content.without {name | name ∈ earlier ∧ Belongs executable name.display})) := by
  obtain ⟨names, listed, nodup, mem_iff⟩ := presents.list shown
  have doomed_nodup : (doomed executable names).Nodup := nodup.filter _
  have entry_iff : ∀ name, name ∈ doomed executable names ↔
      name ∈ content.entriesOf executable := by
    intro name
    rw [mem_doomed_iff, mem_iff]
    exact Iff.rfl
  have there : ∀ name ∈ doomed executable names,
      (content name).isSome ∧ content.isFile name = content.isFile name :=
    fun name mem => ⟨((entry_iff name).1 mem).1, rfl⟩
  obtain ⟨s₁, removal, left⟩ :=
    removeAll_answers presents content.isFile shown doomed_nodup there
  have purged := purge_of_listed listed removal
  constructor
  · intro allFiles
    have all : ∀ name ∈ doomed executable names, content.isFile name :=
      fun name mem => allFiles name ((entry_iff name).1 mem)
    have gone : {name | name ∈ doomed executable names} = content.entriesOf executable :=
      Set.ext entry_iff
    rw [List.takeWhile_eq_self_iff.2 all, gone] at left
    rw [List.all_eq_true.2 all, if_pos rfl, ← ncard_mem doomed_nodup, gone] at purged
    refine ⟨s₁, purged, left, purge_idle presents left ?_⟩
    exact Content.entriesOf_without content executable
  · rintro ⟨blocking, entry, noFile⟩
    obtain ⟨earlier, subdirectory, later, rfl, belongs, isDirectory, files⟩ :=
      exists_first ⟨blocking, (mem_iff _).2 entry.1, entry.2, noFile⟩
    have gone : {name | name ∈ doomed executable earlier} =
        {name | name ∈ earlier ∧ Belongs executable name.display} :=
      Set.ext fun name => mem_doomed_iff
    rw [not_all_doomed belongs isDirectory] at purged
    rw [takeWhile_doomed belongs isDirectory files, gone] at left
    have there : subdirectory ∈ earlier ++ subdirectory :: later := by simp
    exact ⟨earlier, subdirectory, later, s₁, listed, ⟨(mem_iff _).1 there, belongs⟩, isDirectory,
      files, purged, left⟩

end Purge

/-! ### Two directories -/

/-- What stands in a directory with these entries; of two with one name, `FileTree.child?` finds the
first. -/
def contentOf (es : List (FileName × FileTree)) : Content :=
  fun name => (FileTree.directory es).child? name.bytes

/-- A tree with one directory of entries at the top, under the name `pf`. -/
def holding (es : List (FileName × FileTree)) : Files where
  root := .directory [(Utf8.encode "pf", .directory es)]

/-- A prefetch file and two entries that have nothing to do with it. -/
def tidy : List (FileName × FileTree) :=
  [(Utf8.encode "CHROME-1.pf", .file [] false), (Utf8.encode "chrome.log", .file [] false),
    (Utf8.encode "firefox-1.pf", .emptyDirectory)]

/-- A subdirectory with the name of a prefetch file, and a prefetch file that is listed after it. -/
def blocked : List (FileName × FileTree) :=
  [(Utf8.encode "chrome-0.pf", .emptyDirectory), (Utf8.encode "chrome-1.pf", .file [] false)]

instance (p : Path) (name : RawText) : Decidable (p.CanHold name) :=
  decidable_of_iff (name.bytes ≠ [] ∧ Path.slash ∉ name.bytes ∧ 0 ∉ name.bytes ∧
      name.bytes ≠ Path.dotName ∧ name.bytes ≠ Path.parentName ∧
      name.bytes.length ≤ Path.longestName ∧ (p.join ⟨name⟩).bytes.length ≤ Path.longest)
    ⟨fun ⟨a, b, c, d, e, f, g⟩ => ⟨a, b, c, d, e, f, g⟩,
      fun ⟨a, b, c, d, e, f, g⟩ => ⟨a, b, c, d, e, f, g⟩⟩

lemma shows_holding (es : List (FileName × FileTree)) (nodup : (es.map (·.1)).Nodup)
    (canHold : ∀ name ∈ es.map (·.1), ("/pf" : Path).CanHold ⟨name⟩) :
    Shows "/pf" (holding es) (contentOf es) :=
  ⟨_, es, rfl, rfl, nodup, canHold, rfl⟩

lemma tidy_entries : (contentOf tidy).entriesOf "chrome" = {("CHROME-1.pf" : RawText)} := by
  ext name
  rw [Set.mem_singleton_iff]
  constructor
  · rintro ⟨there, belongs⟩
    have listed : name.bytes ∈ tidy.map (·.1) := child?_isSome_iff.1 there
    obtain prefetch | log | other : name.bytes = Utf8.encode "CHROME-1.pf" ∨
        name.bytes = Utf8.encode "chrome.log" ∨ name.bytes = Utf8.encode "firefox-1.pf" := by
      simpa [tidy] using listed
    · exact congrArg RawText.mk prefetch
    · obtain rfl : name = ("chrome.log" : RawText) := congrArg RawText.mk log
      exact absurd (isEntry_iff.2 belongs) (by decide +kernel)
    · obtain rfl : name = ("firefox-1.pf" : RawText) := congrArg RawText.mk other
      exact absurd (isEntry_iff.2 belongs) (by decide +kernel)
  · rintro rfl
    exact ⟨rfl, isEntry_iff.1 (by decide +kernel)⟩

theorem tidy_and_blocked_purged :
    (∃ s₁, (purge (Files.fileSystem Empty "/tmp") "/pf" "chrome").run.Answers
        (holding tidy) (.ok 1) s₁ ∧
      Shows "/pf" s₁ ((contentOf tidy).without {("CHROME-1.pf" : RawText)})) ∧
    ∃ s₁, (purge (Files.fileSystem Empty "/tmp") "/pf" "chrome").run.Answers
      (holding blocked) (.error (.os .isADirectory)) s₁ := by
  have presented := presents Empty "/tmp" "/pf"
  constructor
  · have shown := shows_holding tidy (by decide +kernel) (by decide +kernel)
    obtain ⟨s₁, purged, left, -⟩ := (purge_ends presented shown "chrome").1 (by
      rw [tidy_entries]
      rintro _ rfl
      rfl)
    rw [tidy_entries, Set.ncard_singleton] at purged
    rw [tidy_entries] at left
    exact ⟨s₁, purged, left⟩
  · have shown := shows_holding blocked (by decide +kernel) (by decide +kernel)
    have entry : ("chrome-0.pf" : RawText) ∈ (contentOf blocked).entriesOf "chrome" :=
      ⟨rfl, isEntry_iff.1 (by decide +kernel)⟩
    obtain ⟨-, -, -, s₁, -, -, -, -, purged, -⟩ :=
      (purge_ends presented shown "chrome").2 ⟨"chrome-0.pf", entry, rfl⟩
    exact ⟨s₁, purged⟩

/-- A subdirectory that is listed first keeps a prefetch file where it is. -/
theorem blocked_kept :
    let ran := (purge (Files.fileSystem Empty "/tmp") "/pf" "chrome").run (holding blocked)
    ("chrome-1.pf" : RawText) ∈ (contentOf blocked).entriesOf "chrome" ∧
      (contentOf blocked).isFile "chrome-1.pf" ∧
      ran.outcome = .returned (.error (.os .isADirectory)) ∧
      ran.world.isFile "/pf/chrome-1.pf" := by
  have answered : ((purge (Files.fileSystem Empty "/tmp") "/pf" "chrome").run
      (holding blocked)).outcome = .returned (.error (.os .isADirectory)) := by
    with_unfolding_all rfl
  exact ⟨⟨rfl, isEntry_iff.1 (by decide +kernel)⟩, rfl, answered, by decide +kernel⟩

end StartupBench.Prefetch
