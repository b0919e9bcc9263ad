import Mathlib.Data.List.Basic
import StartupBench.Files
import StartupBench.Proofs.Desktop.FileName

/-!
# Removing one file

A path is followed from directory to directory, and a single file is never one of them.  So a path
that leads to a directory still leads to it after a file has been removed, wherever the file stood
(`Place.follow_erase`); and if it stood in that directory, its entry is all that is missing there
(`Files.removeFile_of_file`).

## Trees and places

A `Place` has the directories above it with it, as they were when the path was followed.  That these
are the directories of the tree is `Place.Stands`, which each step of a path keeps.  The removal
itself is `FileTree.erase` at a location, and `FileTree.get?_erase_of_directory` and
`FileTree.get?_erase_snoc` say what is found after it: every directory that stood there before, and
in the directory of the file all the other entries.

## Paths

An entry of a directory is named by the path of the directory, a slash and its name.  `Path.CanHold`
are the names for which this path leads to the entry (`Files.find_join`): not empty, no slash and no
NUL, neither of the two names of dots, and not too long behind the path.
-/

namespace StartupBench

/-! ## Trees -/

namespace FileTree

variable {es : List (FileName × FileTree)} {name other : FileName}

lemma child?_putEntry_self {t : FileTree} :
    (directory (putEntry name t es)).child? name = some t := by
  induction es with
  | nil => simp [putEntry, child?, entries]
  | cons e rest ih =>
    unfold putEntry
    by_cases same : e.1 = name
    · rw [if_pos same]
      simp [child?, entries]
    · rw [if_neg same]
      simpa [child?, entries, same] using ih

lemma child?_putEntry_of_ne {t : FileTree} (apart : other ≠ name) :
    (directory (putEntry name t es)).child? other = (directory es).child? other := by
  induction es with
  | nil => simp [putEntry, child?, entries, apart.symm]
  | cons e rest ih =>
    unfold putEntry
    by_cases same : e.1 = name
    · rw [if_pos same]
      have left : ¬ e.1 = other := fun heq => apart (heq.symm.trans same)
      simp [child?, entries, apart.symm, left]
    · rw [if_neg same]
      by_cases here : e.1 = other
      · simp [child?, entries, here]
      · simpa [child?, entries, here] using ih

lemma child?_filter_of_ne (apart : other ≠ name) :
    (directory (es.filter fun e => e.1 ≠ name)).child? other = (directory es).child? other := by
  unfold child? entries
  rw [List.find?_filter]
  congr 2
  funext e
  by_cases here : e.1 = other <;> simp [here, apart]

lemma child?_filter_self : (directory (es.filter fun e => e.1 ≠ name)).child? name = none := by
  unfold child? entries
  rw [Option.map_eq_none_iff, List.find?_eq_none]
  intro e mem
  have apart := List.of_mem_filter mem
  simpa using apart

lemma get?_snoc (t : FileTree) (above : Location) (name : FileName) :
    t.get? (above ++ [name]) = (t.get? above).bind fun here => here.child? name := by
  induction above generalizing t with
  | nil =>
    show (t.child? name).bind (fun child => child.get? []) = t.child? name
    cases t.child? name <;> rfl
  | cons first rest ih =>
    show (t.child? first).bind _ = ((t.child? first).bind _).bind _
    cases t.child? first with
    | none => rfl
    | some child => exact ih child

lemma directory_of_child? {t child : FileTree} (found : t.child? name = some child) :
    t.isDirectory := by
  cases t with
  | directory es => rfl
  | file content executable => cases found

/-- Nothing stands below a file: what `FileTree.get?` finds there is the file itself. -/
lemma not_below_file {t d : FileTree} {at_ : Location} (file : t.isDirectory = false)
    (found : t.get? at_ = some d) : d.isDirectory = false := by
  cases at_ with
  | nil => exact Option.some.inj found ▸ file
  | cons name rest =>
    obtain ⟨child, down, -⟩ := Option.bind_eq_some_iff.1 found
    rw [directory_of_child? down] at file
    cases file

/-- Where a directory stands, there is one still after a file has been taken away by
`FileTree.erase`: by induction on the location of the file. -/
lemma get?_erase_of_directory {t file d : FileTree} {target at_ : Location}
    (found : t.get? target = some file) (isFile : file.isDirectory = false)
    (here : t.get? at_ = some d) (isDirectory : d.isDirectory) :
    ∃ d', (t.erase target).get? at_ = some d' ∧ d'.isDirectory := by
  induction target generalizing t at_ with
  | nil =>
    rw [erase]
    exact ⟨d, here, isDirectory⟩
  | cons name rest ih =>
    obtain ⟨child, down, inside⟩ := Option.bind_eq_some_iff.1 found
    obtain ⟨es, rfl⟩ : ∃ es, t = directory es := by
      cases t with
      | directory es => exact ⟨es, rfl⟩
      | file content executable => cases down
    cases at_ with
    | nil =>
      cases rest with
      | nil => exact ⟨_, rfl, rfl⟩
      | cons next rest =>
        rw [erase, down]
        exact ⟨_, rfl, rfl⟩
    | cons first left =>
      obtain ⟨child', down', lower⟩ := Option.bind_eq_some_iff.1 here
      by_cases same : first = name
      · subst same
        rw [down] at down'
        obtain rfl := Option.some.inj down'
        cases rest with
        | nil =>
          obtain rfl := Option.some.inj inside
          rw [not_below_file isFile lower] at isDirectory
          cases isDirectory
        | cons next rest =>
          rw [erase, down]
          show ∃ d', ((directory (putEntry first _ es)).child? first).bind _ = some d' ∧ _
          rw [child?_putEntry_self]
          exact ih inside lower
      · refine ⟨d, ?_, isDirectory⟩
        cases rest with
        | nil =>
          rw [erase]
          show ((directory (es.filter fun e => e.1 ≠ name)).child? first).bind _ = some d
          rw [child?_filter_of_ne same, down']
          exact lower
        | cons next rest =>
          rw [erase, down]
          show ((directory (putEntry name _ es)).child? first).bind _ = some d
          rw [child?_putEntry_of_ne same, down']
          exact lower

/-- What is left of a directory when an entry of it has been taken away: all `es` but those of that
name. -/
lemma get?_erase_snoc {t : FileTree} {above : Location} {es : List (FileName × FileTree)}
    (here : t.get? above = some (directory es)) (name : FileName) :
    (t.erase (above ++ [name])).get? above =
      some (directory (es.filter fun e => e.1 ≠ name)) := by
  induction above generalizing t with
  | nil =>
    obtain rfl := Option.some.inj here
    rfl
  | cons first rest ih =>
    obtain ⟨child, down, lower⟩ := Option.bind_eq_some_iff.1 here
    cases t with
    | file content executable => cases down
    | directory all =>
      obtain ⟨next, more, shape⟩ := List.exists_cons_of_ne_nil
        (List.append_ne_nil_of_right_ne_nil rest (List.cons_ne_nil name []))
      have left := ih lower
      rw [shape] at left
      rw [List.cons_append, shape, erase, down]
      show ((directory (putEntry first _ all)).child? first).bind _ = _
      rw [child?_putEntry_self]
      exact left

end FileTree

/-! ## Places -/

namespace Place

/-- The place is a part of the tree `root`, with the directories above it as they are there. -/
inductive Stands (root : FileTree) : Place → Prop where
  | top : Stands root ⟨root, []⟩
  | inside {t here : FileTree} {above : List (FileName × FileTree)} {name : FileName} :
    Stands root ⟨t, above⟩ → t.child? name = some here → Stands root ⟨here, (name, t) :: above⟩

variable {root : FileTree} {p q : Place}

lemma location_below (here t : FileTree) (name : FileName) (above : List (FileName × FileTree)) :
    location ⟨here, (name, t) :: above⟩ = location ⟨t, above⟩ ++ [name] := by
  simp [location]

lemma Stands.get? (stands : p.Stands root) : root.get? p.location = some p.here := by
  induction stands with
  | top => rfl
  | inside _ down ih =>
    rw [location_below, FileTree.get?_snoc, ih]
    exact down

lemma Stands.parent (stands : p.Stands root) : p.parent.Stands root := by
  cases stands with
  | top => exact .top
  | inside above _ => exact above

lemma location_parent (p : Place) : p.parent.location = p.location.dropLast := by
  obtain ⟨here, above⟩ := p
  cases above with
  | nil => rfl
  | cons entry above =>
    obtain ⟨name, t⟩ := entry
    rw [location_below, List.dropLast_concat]
    rfl

/-- What one part of a path can lead to: the place itself for `Path.dotName`, its parent, or an
entry of it. -/
lemma enter_cases {part : FileName} (entered : p.enter part = .ok q) :
    p.here.isDirectory ∧
      ((part = Path.dotName ∧ q = p) ∨
        (part ≠ Path.dotName ∧ part = Path.parentName ∧ q = p.parent) ∨
        (part ≠ Path.dotName ∧ part ≠ Path.parentName ∧ part.length ≤ Path.longestName ∧
          ∃ t, p.here.child? part = some t ∧ q = ⟨t, (part, p.here) :: p.above⟩)) := by
  obtain ⟨here, above⟩ := p
  cases here with
  | file content executable => cases entered
  | directory es =>
    refine ⟨rfl, ?_⟩
    unfold enter at entered
    dsimp only at entered
    split_ifs at entered with dot parent long
    · exact .inl ⟨dot, (Except.ok.inj entered).symm⟩
    · exact .inr (.inl ⟨dot, parent, (Except.ok.inj entered).symm⟩)
    · split at entered
      next t down => exact .inr (.inr ⟨dot, parent, not_lt.1 long, t, down,
        (Except.ok.inj entered).symm⟩)
      next => cases entered

lemma enter_dot (directory : p.here.isDirectory) : p.enter Path.dotName = .ok p := by
  obtain ⟨here, above⟩ := p
  cases here with
  | file content executable => cases directory
  | directory es => rfl

lemma enter_parent (directory : p.here.isDirectory) :
    p.enter Path.parentName = .ok p.parent := by
  obtain ⟨here, above⟩ := p
  cases here with
  | file content executable => cases directory
  | directory es => rfl

lemma enter_child {part : FileName} {t : FileTree} (dot : part ≠ Path.dotName)
    (parent : part ≠ Path.parentName) (short : part.length ≤ Path.longestName)
    (down : p.here.child? part = some t) :
    p.enter part = .ok ⟨t, (part, p.here) :: p.above⟩ := by
  obtain ⟨here, above⟩ := p
  cases here with
  | file content executable => cases down
  | directory es =>
    unfold enter
    dsimp only at down ⊢
    rw [if_neg dot, if_neg parent, if_neg (not_lt.2 short), down]

lemma follow_cons (p : Place) (part : FileName) (rest : List FileName) :
    p.follow (part :: rest) = (p.enter part).bind fun q => q.follow rest := rfl

lemma follow_append (p : Place) (parts rest : List FileName) :
    p.follow (parts ++ rest) = (p.follow parts).bind fun q => q.follow rest :=
  List.foldlM_append

lemma enter_of_follow_cons {part : FileName} {rest : List FileName}
    (followed : p.follow (part :: rest) = .ok q) :
    ∃ next, p.enter part = .ok next ∧ next.follow rest = .ok q := by
  rw [follow_cons] at followed
  cases entered : p.enter part with
  | error e =>
    rw [entered] at followed
    cases followed
  | ok next =>
    rw [entered] at followed
    exact ⟨next, rfl, followed⟩

lemma Stands.enter {part : FileName} (stands : p.Stands root) (entered : p.enter part = .ok q) :
    q.Stands root := by
  obtain ⟨-, ⟨-, rfl⟩ | ⟨-, -, rfl⟩ | ⟨-, -, -, t, down, rfl⟩⟩ := enter_cases entered
  · exact stands
  · exact stands.parent
  · exact .inside stands down

lemma Stands.follow {parts : List FileName} (stands : p.Stands root)
    (followed : p.follow parts = .ok q) : q.Stands root := by
  induction parts generalizing p with
  | nil => exact Except.ok.inj followed ▸ stands
  | cons part rest ih =>
    obtain ⟨next, entered, followed⟩ := enter_of_follow_cons followed
    exact ih (stands.enter entered) followed

/-- Only directories lead to a directory: where `Place.follow` ends in one, it started in one. -/
lemma directory_of_follow {parts : List FileName} (followed : p.follow parts = .ok q)
    (directory : q.here.isDirectory) : p.here.isDirectory := by
  cases parts with
  | nil => exact Except.ok.inj followed ▸ directory
  | cons part rest =>
    obtain ⟨next, entered, -⟩ := enter_of_follow_cons followed
    exact (enter_cases entered).1

section Erase

variable {file : FileTree} {target : Location} (found : root.get? target = some file)
  (isFile : file.isDirectory = false)
include found isFile

lemma directory_erase {p' : Place} (stands : p.Stands root) (directory : p.here.isDirectory)
    (stands' : p'.Stands (root.erase target)) (same : p'.location = p.location) :
    p'.here.isDirectory := by
  obtain ⟨here, found', directory'⟩ :=
    FileTree.get?_erase_of_directory found isFile stands.get? directory
  rw [← same, stands'.get?] at found'
  exact Option.some.inj found' ▸ directory'

/-- A part of a path that leads to a directory leads to the same location in the tree without the
file, as `FileTree.get?_erase_of_directory` finds one there. -/
lemma enter_erase {p' : Place} {part : FileName} (stands : p.Stands root)
    (stands' : p'.Stands (root.erase target)) (same : p'.location = p.location)
    (entered : p.enter part = .ok q) (directory : q.here.isDirectory) :
    ∃ q', p'.enter part = .ok q' ∧ q'.location = q.location := by
  have next : q.Stands root := stands.enter entered
  obtain ⟨above, ⟨rfl, rfl⟩ | ⟨-, rfl, rfl⟩ | ⟨dot, parent, short, t, down, rfl⟩⟩ :=
    enter_cases entered
  · exact ⟨p', enter_dot (directory_erase found isFile stands above stands' same), same⟩
  · refine ⟨p'.parent, enter_parent (directory_erase found isFile stands above stands' same), ?_⟩
    rw [location_parent, location_parent, same]
  · obtain ⟨here, found', -⟩ :=
      FileTree.get?_erase_of_directory found isFile next.get? directory
    rw [location_below, ← same, FileTree.get?_snoc, stands'.get?] at found'
    refine ⟨_, enter_child dot parent short found', ?_⟩
    rw [location_below, location_below]
    exact congrArg (· ++ [part]) same

/-- A path that leads to a directory leads to the same location in the tree without the file: by
induction on its parts, with `enter_erase` as the step. -/
lemma follow_erase {p' : Place} {parts : List FileName} (stands : p.Stands root)
    (stands' : p'.Stands (root.erase target)) (same : p'.location = p.location)
    (followed : p.follow parts = .ok q) (directory : q.here.isDirectory) :
    ∃ q', p'.follow parts = .ok q' ∧ q'.location = q.location := by
  induction parts generalizing p p' with
  | nil =>
    obtain rfl := Except.ok.inj followed
    exact ⟨p', rfl, same⟩
  | cons part rest ih =>
    obtain ⟨next, entered, followed⟩ := enter_of_follow_cons followed
    obtain ⟨next', entered', same⟩ := enter_erase found isFile stands stands' same entered
      (directory_of_follow followed directory)
    obtain ⟨q', followed', same⟩ := ih (stands.enter entered) (stands'.enter entered') same followed
    refine ⟨q', ?_, same⟩
    rw [follow_cons, entered']
    exact followed'

end Erase

end Place

/-! ## Paths -/

namespace Path

variable {p : Path} {name : RawText}

/-- A name that an entry of a directory can have, seen from a path `p` to the directory. -/
structure CanHold (p : Path) (name : RawText) : Prop where
  nonempty : name.bytes ≠ []
  noSlash : slash ∉ name.bytes
  noNul : 0 ∉ name.bytes
  notDot : name.bytes ≠ dotName
  notParent : name.bytes ≠ parentName
  short : name.bytes.length ≤ longestName
  fits : (p.join ⟨name⟩).bytes.length ≤ longest

lemma checked_iff : p.checked = .ok () ↔
    0 ∉ p.bytes ∧ p.bytes ≠ [] ∧ p.bytes.length ≤ longest := by
  unfold checked
  split_ifs with nul empty long
  · simp [List.contains_iff_mem.1 nul]
  · simp [List.isEmpty_iff.1 empty]
  · simp [not_le.2 long]
  · rw [List.contains_iff_mem] at nul
    rw [List.isEmpty_iff] at empty
    exact iff_of_true rfl ⟨nul, empty, not_lt.1 long⟩

/-- The path of a name seen from a directory ends in a slash and the name, and `lead` before the
slash is the path or the path less its own slash. -/
lemma join_bytes (nonempty : p.bytes ≠ []) (noSlash : slash ∉ name.bytes) :
    ∃ lead, (p.join ⟨name⟩).bytes = lead ++ slash :: name.bytes ∧
      (p.bytes = lead ∨ p.bytes = lead ++ [slash]) := by
  have relative : (⟨name⟩ : Path).isAbsolute = false := by
    unfold isAbsolute
    refine beq_eq_false_iff_ne.2 fun first => noSlash (List.mem_of_mem_head? ?_)
    exact first
  have written : p.bytes.isEmpty = false := by
    rwa [← Bool.not_eq_true, List.isEmpty_iff]
  unfold join
  rw [relative, written, if_neg (by decide)]
  by_cases last : p.bytes.getLast? = some slash
  · obtain ⟨lead, shape⟩ := List.getLast?_eq_some_iff.1 last
    refine ⟨lead, ?_, .inr shape⟩
    rw [if_pos (beq_iff_eq.2 last)]
    show p.bytes ++ name.bytes = _
    rw [shape, List.append_assoc]
    rfl
  · refine ⟨p.bytes, ?_, .inl rfl⟩
    rw [if_neg (fun h => last (beq_iff_eq.1 h))]
    show p.bytes ++ [slash] ++ name.bytes = _
    rw [List.append_assoc]
    rfl

lemma steps_join (nonempty : p.bytes ≠ []) (named : name.bytes ≠ [])
    (noSlash : slash ∉ name.bytes) : (p.join ⟨name⟩).steps = p.steps ++ [name.bytes] := by
  obtain ⟨lead, joined, shape⟩ := join_bytes nonempty noSlash
  have kept : (!name.bytes.isEmpty) = true := by simpa using named
  unfold steps
  rw [joined, splitSlash_append, splitSlash_of_not_mem noSlash, List.filter_append,
    List.filter_singleton, kept, cond_true]
  obtain same | slashed := shape
  · rw [same]
  · rw [slashed, splitSlash_append, List.filter_append]
    simp [splitSlash]

lemma endsInSlash_join (nonempty : p.bytes ≠ []) (named : name.bytes ≠ [])
    (noSlash : slash ∉ name.bytes) : (p.join ⟨name⟩).endsInSlash = false := by
  obtain ⟨lead, joined, -⟩ := join_bytes nonempty noSlash
  unfold endsInSlash
  rw [joined, ← List.singleton_append, ← List.append_assoc, List.getLast?_append_of_ne_nil _ named]
  exact beq_eq_false_iff_ne.2 fun last => noSlash (List.mem_of_getLast? last)

lemma isAbsolute_join (nonempty : p.bytes ≠ []) (noSlash : slash ∉ name.bytes) :
    (p.join ⟨name⟩).isAbsolute = p.isAbsolute := by
  obtain ⟨lead, joined, shape⟩ := join_bytes nonempty noSlash
  unfold isAbsolute
  rw [joined]
  obtain same | slashed := shape
  · rw [same] at nonempty ⊢
    rw [List.head?_append_of_ne_nil _ nonempty]
  · rw [slashed]
    cases lead <;> rfl

lemma checked_join (checks : p.checked = .ok ()) (holds : p.CanHold name) :
    (p.join ⟨name⟩).checked = .ok () := by
  obtain ⟨noNul, nonempty, -⟩ := checked_iff.1 checks
  obtain ⟨lead, joined, shape⟩ := join_bytes nonempty holds.noSlash
  refine checked_iff.2 ⟨?_, ?_, holds.fits⟩
  · have without : 0 ∉ lead := fun mem => noNul (by
      obtain same | slashed := shape
      · rwa [same]
      · rw [slashed]
        exact List.mem_append_left _ mem)
    rw [joined, List.mem_append, List.mem_cons, not_or, not_or]
    exact ⟨without, by decide, holds.noNul⟩
  · rw [joined]
    simp

end Path

/-! ## Files -/

namespace Files

variable {f : Files} {p : Path} {name : RawText}

/-- The parts that are followed from the top to what a path names.  A path that ends in a slash asks
for a directory, as if `Path.dotName` came last. -/
def way (f : Files) (p : Path) : List FileName :=
  f.startAt p ++ if p.endsInSlash then p.steps ++ [Path.dotName] else p.steps

lemma failing_bind_eq_ok {α β : Type} {x : Except Errno α} {y : α → Except Errno β} {b : β} :
    (failing x).bind (fun a => failing (y a)) = .ok b ↔ x.bind y = .ok b := by
  cases x with
  | error e => exact iff_of_false nofun nofun
  | ok a =>
    show failing (y a) = .ok b ↔ y a = .ok b
    cases y a with
    | error e => exact iff_of_false nofun nofun
    | ok b' =>
      show Except.ok b' = Except.ok b ↔ Except.ok b' = Except.ok b
      rw [Except.ok.injEq, Except.ok.injEq]

lemma start_eq (f : Files) (p : Path) : f.start p = Place.follow ⟨f.root, []⟩ (f.startAt p) := by
  unfold start startAt
  split <;> rfl

lemma find_eq_ok_iff {place : Place} :
    f.find p = .ok place ↔
      p.checked = .ok () ∧ Place.follow ⟨f.root, []⟩ (f.way p) = .ok place := by
  unfold find way
  cases checks : p.checked with
  | error e => exact iff_of_false nofun nofun
  | ok _ =>
    rw [Place.follow_append, ← start_eq]
    exact failing_bind_eq_ok.trans (iff_of_eq (by simp))

lemma follow_steps {place : Place} (found : f.find p = .ok place) :
    Place.follow ⟨f.root, []⟩ (f.startAt p ++ p.steps) = .ok place := by
  have followed := (find_eq_ok_iff.1 found).2
  unfold way at followed
  split_ifs at followed with slashed
  · rw [← List.append_assoc, Place.follow_append] at followed
    cases led : Place.follow ⟨f.root, []⟩ (f.startAt p ++ p.steps) with
    | error e =>
      rw [led] at followed
      cases followed
    | ok before =>
      rw [led] at followed
      obtain ⟨next, entered, followed⟩ := Place.enter_of_follow_cons followed
      obtain rfl : next = place := Except.ok.inj followed
      obtain ⟨-, ⟨-, rfl⟩ | ⟨notDot, -⟩ | ⟨notDot, -⟩⟩ := Place.enter_cases entered
      · rfl
      · exact absurd rfl notDot
      · exact absurd rfl notDot
  · exact followed

/-- An entry of a directory is found behind the path of the directory, if the path `CanHold` its
name. -/
lemma find_join {place : Place} {t : FileTree} (found : f.find p = .ok place)
    (holds : p.CanHold name) (there : place.here.child? name.bytes = some t) :
    f.find (p.join ⟨name⟩) = .ok ⟨t, (name.bytes, place.here) :: place.above⟩ := by
  have checks := (find_eq_ok_iff.1 found).1
  have nonempty := (Path.checked_iff.1 checks).2.1
  have same : f.startAt (p.join ⟨name⟩) = f.startAt p := by
    unfold startAt
    rw [Path.isAbsolute_join nonempty holds.noSlash]
  refine find_eq_ok_iff.2 ⟨Path.checked_join checks holds, ?_⟩
  unfold way
  rw [Path.endsInSlash_join nonempty holds.nonempty holds.noSlash, if_neg (by decide),
    Path.steps_join nonempty holds.nonempty holds.noSlash, same, ← List.append_assoc,
    Place.follow_append, follow_steps found]
  show place.follow [name.bytes] = _
  rw [Place.follow_cons, Place.enter_child holds.notDot holds.notParent holds.short there]
  rfl

/-- A subdirectory cannot be removed as if it were a file: `Files.removeFile` fails with
`isADirectory`, and a failure leaves the tree as it was. -/
lemma removeFile_of_directory {place : Place} {es : List (FileName × FileTree)}
    (found : f.find p = .ok place) (holds : p.CanHold name)
    (there : place.here.child? name.bytes = some (.directory es)) :
    f.removeFile (p.join ⟨name⟩) = .error (.os .isADirectory) := by
  unfold removeFile
  rw [find_join found holds there]
  rfl

/-- A file in a directory can be removed; its entry is then missing in the directory, which is found
as before by `Place.follow_erase`. -/
lemma removeFile_of_file {place : Place} {es : List (FileName × FileTree)}
    {content : List UInt8} {executable : Bool} (found : f.find p = .ok place)
    (here : place.here = .directory es) (holds : p.CanHold name)
    (there : place.here.child? name.bytes = some (.file content executable)) :
    ∃ f' place', f.removeFile (p.join ⟨name⟩) = .ok f' ∧ f'.find p = .ok place' ∧
      place'.here = .directory (es.filter fun e => e.1 ≠ name.bytes) := by
  obtain ⟨checks, followed⟩ := find_eq_ok_iff.1 found
  have stands : place.Stands f.root := Place.Stands.top.follow followed
  have target : f.root.get? (place.location ++ [name.bytes]) = some (.file content executable) := by
    rw [FileTree.get?_snoc, stands.get?]
    exact there
  have directory : place.here.isDirectory := by
    rw [here]
    rfl
  obtain ⟨place', followed', same⟩ :=
    Place.follow_erase target rfl .top .top rfl followed directory
  refine ⟨f.removeAt (place.location ++ [name.bytes]), place', ?_,
    find_eq_ok_iff.2 ⟨checks, followed'⟩, ?_⟩
  · unfold removeFile
    rw [find_join found holds there, ← Place.location_below]
    rfl
  · have stands' := (Place.Stands.top.follow followed').get?
    have left := FileTree.get?_erase_snoc (here ▸ stands.get?) name.bytes
    rw [same, left] at stands'
    exact (Option.some.inj stands').symm

end Files

end StartupBench
