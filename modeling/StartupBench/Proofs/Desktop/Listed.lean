import Mathlib.Data.List.Forall2
import Mathlib.Data.Set.Basic
import StartupBench.Proofs.Desktop.CommandLine
import StartupBench.Proofs.Text.Spaced

/-!
# The process that is found in the table

Whoever looks for a window in the table of processes finds the process of the least number among the
lines that fit (`ProcessTable.findWindow_least`).  Which lines these are is said here of the line as
it stands (`ProcessEntry.Listed`): it is made of three words at least, of which the first writes the
number of a process other than the program itself, the second is not the state of a process that has
exited, and the third names a program of the class in question after its last slash; and the words
of the title stand one after the other somewhere from the third word on.

So the order of the lines does not matter, and neither do the blanks in them or in the title.

## Lines

`ProcessEntry.ofLine?_eq_some_iff` says of which lines an entry is read, by the words that these are
made of (`Text.MadeOf`); how a word writes a number is `ProcessEntry.Writes` of
`Proofs.Desktop.Number`.  Whether the entry fits is then a matter of its words only, and
`ProcessEntry.listedIn` is the set of processes that some line lists.

## The least of them

A fold over the entries keeps the least number so far.  It is told by being the number of an entry
and by no entry having a lesser one (`ProcessEntry.leastPid_eq_some_iff`), in which neither the
order of the entries nor how often one comes plays a part; from this the rest of
`ProcessTable.findWindow_least` follows.
-/

namespace StartupBench

namespace ProcessEntry

open Text (words MadeOf Respaced)

/-! ## Words of a line -/

/-- The name is what follows the last slash of the program, or all of it if there is none. -/
def NameOf (name program : String) : Prop :=
  '/' ∉ name.toList ∧ (program = name ∨ ∃ directory, program = directory ++ "/" ++ name)

lemma fileName_eq_iff {program name : String} :
    fileName program = name ↔ NameOf name program := by
  constructor
  · rintro rfl
    exact exists_directory program
  · rintro ⟨apart, rfl | ⟨directory, rfl⟩⟩
    · exact fileName_of_not_mem apart
    · exact fileName_append directory apart

/-! ## Lines that fit -/

/-- The line shows a process other than the program itself, of this number, and the process fits the
pattern. -/
inductive Listed (own : ProcessId) (p : WindowPattern) (line : String) (pid : ProcessId) : Prop
  | intro {number state program : String} {arguments : List String}
      (made : MadeOf (number :: state :: program :: arguments) line)
      (written : Writes number pid.number.toNat) (other : pid ≠ own)
      (alive : state.toList.head? ≠ some 'Z') (named : NameOf p.windowClass program)
      (titled : ∀ title ∈ p.title, ∃ wanted, MadeOf wanted title ∧
        wanted <:+: program :: arguments)

lemma fits_iff_of_words {e : ProcessEntry} {p : WindowPattern} : e.fits p = true ↔
    e.windowClass = p.windowClass ∧
      ∀ title ∈ p.title, ∃ wanted, MadeOf wanted title ∧ wanted <:+: e.commandLine := by
  obtain ⟨windowClass, _ | title⟩ := p
  · rw [fits_iff_of_untitled]
    simp
  · rw [fits_iff]
    simp [← Text.words_eq_iff]

/-- What is read of a line that is made of these words, and of which lines an entry is read at all.
-/
lemma ofLine?_eq_some_iff {line : String} {e : ProcessEntry} : ofLine? line = some e ↔
    ∃ number state program arguments, MadeOf (number :: state :: program :: arguments) line ∧
      Writes number e.pid.number.toNat ∧ state.toList.head? ≠ some 'Z' ∧
      NameOf e.windowClass program ∧ e.commandLine = program :: arguments := by
  simp only [← Text.words_eq_iff, ← pid?_eq_some_iff, ← fileName_eq_iff]
  unfold ofLine?
  constructor
  · intro h
    split at h
    · rename_i number state program arguments split
      split at h
      · cases h
      · rename_i pid read
        split at h
        · cases h
        · rename_i alive
          cases h
          exact ⟨number, state, program, arguments, split, read, by simpa using alive, rfl, rfl⟩
    · cases h
  · rintro ⟨number, state, program, arguments, split, read, alive, named, command⟩
    obtain ⟨pid, windowClass, commandLine⟩ := e
    subst named command
    have counts : ¬(state.toList.head? == some 'Z') = true := by simpa using alive
    rw [split]
    dsimp only at read ⊢
    rw [read]
    exact if_neg counts

lemma listed_iff {own : ProcessId} {p : WindowPattern} {line : String} {pid : ProcessId} :
    Listed own p line pid ↔
      ∃ e, ofLine? line = some e ∧ e.pid = pid ∧ e.pid ≠ own ∧ e.fits p = true := by
  constructor
  · rintro @⟨number, state, program, arguments, made, written, other, alive, named, titled⟩
    exact ⟨⟨pid, p.windowClass, program :: arguments⟩,
      ofLine?_eq_some_iff.2 ⟨_, _, _, _, made, written, alive, named, rfl⟩, rfl, other,
      fits_iff_of_words.2 ⟨rfl, titled⟩⟩
  · rintro ⟨e, read, rfl, other, fit⟩
    obtain ⟨number, state, program, arguments, made, written, alive, named, command⟩ :=
      ofLine?_eq_some_iff.1 read
    obtain ⟨sameClass, titled⟩ := fits_iff_of_words.1 fit
    exact .intro made written other alive (sameClass ▸ named) (command ▸ titled)

/-! ## The least number -/

lemma leastPid_eq_none_iff {es : List ProcessEntry} : leastPid es = none ↔ es = [] := by
  cases es with
  | nil => simp [leastPid]
  | cons e es =>
    rw [leastPid]
    cases leastPid es <;> simp

/-- The least number is the number of a process, and no process has a lesser one: by induction on
the entries, as `leastPid` folds them. -/
lemma leastPid_spec {es : List ProcessEntry} {least : ProcessId} (h : leastPid es = some least) :
    (∃ e ∈ es, e.pid = least) ∧ ∀ e ∈ es, least.number ≤ e.pid.number := by
  induction es generalizing least with
  | nil => cases h
  | cons e es ih =>
    rw [leastPid] at h
    cases hrest : leastPid es with
    | none =>
      rw [hrest] at h
      cases h
      rw [leastPid_eq_none_iff] at hrest
      simp [hrest]
    | some other =>
      rw [hrest] at h
      obtain ⟨⟨e', hmem, hpid⟩, bound⟩ := ih hrest
      dsimp only at h
      split at h
      · rename_i le
        cases h
        refine ⟨⟨e, List.mem_cons_self, rfl⟩, List.forall_mem_cons.2 ⟨UInt32.le_refl _, ?_⟩⟩
        exact fun e' he' => UInt32.le_trans le (bound e' he')
      · rename_i gt
        cases h
        refine ⟨⟨e', List.mem_cons_of_mem _ hmem, hpid⟩, List.forall_mem_cons.2 ⟨?_, bound⟩⟩
        exact (UInt32.le_total _ _).resolve_left gt

/-- Where an entry has the least number of all, this is the number that `leastPid` finds, and the
other way round. -/
lemma leastPid_eq_some_iff {es : List ProcessEntry} {least : ProcessId} :
    leastPid es = some least ↔
      (∃ e ∈ es, e.pid = least) ∧ ∀ e ∈ es, least.number ≤ e.pid.number := by
  refine ⟨leastPid_spec, ?_⟩
  rintro ⟨⟨e, hmem, rfl⟩, bound⟩
  cases h : leastPid es with
  | none =>
    rw [leastPid_eq_none_iff.1 h] at hmem
    cases hmem
  | some other =>
    obtain ⟨⟨e', hmem', rfl⟩, bound'⟩ := leastPid_spec h
    have same : e'.pid.number = e.pid.number :=
      UInt32.le_antisymm (bound' e hmem) (bound e' hmem')
    exact congrArg _ (congrArg ProcessId.mk same)

/-! ## What is found among lines -/

/-- The processes that the lines list, as `Listed` has it of each line. -/
def listedIn (own : ProcessId) (p : WindowPattern) (lines : List String) : Set ProcessId :=
  {pid | ∃ line ∈ lines, Listed own p line pid}

/-- What is read of the lines by `ofLine?`, as far as it fits and is not the program itself. -/
def fitting (own : ProcessId) (p : WindowPattern) (lines : List String) : List ProcessEntry :=
  ((lines.filterMap ofLine?).filter fun e => e.pid ≠ own).filter fun e => e.fits p

section Lines

variable {own : ProcessId} {p p' : WindowPattern} {lines lines' : List String} {pid : ProcessId}

lemma mem_listedIn_iff : pid ∈ listedIn own p lines ↔ ∃ e ∈ fitting own p lines, e.pid = pid := by
  have shown : ∀ line, Listed own p line pid ↔
      ∃ e, (ofLine? line = some e ∧ e.pid ≠ own ∧ e.fits p = true) ∧ e.pid = pid := by
    intro line
    rw [listed_iff]
    refine exists_congr fun e => ?_
    constructor
    · rintro ⟨read, same, rest⟩
      exact ⟨⟨read, rest⟩, same⟩
    · rintro ⟨⟨read, rest⟩, same⟩
      exact ⟨read, same, rest⟩
  simp only [listedIn, Set.mem_ofPred_eq, shown, fitting, List.mem_filter, List.mem_filterMap,
    decide_eq_true_eq]
  constructor
  · rintro ⟨line, hline, e, ⟨read, other, fit⟩, same⟩
    exact ⟨e, ⟨⟨⟨line, hline, read⟩, other⟩, fit⟩, same⟩
  · rintro ⟨e, ⟨⟨⟨line, hline, read⟩, other⟩, fit⟩, same⟩
    exact ⟨line, hline, e, ⟨read, other, fit⟩, same⟩

lemma leastPid_fitting_eq_some_iff : leastPid (fitting own p lines) = some pid ↔
    pid ∈ listedIn own p lines ∧ ∀ other ∈ listedIn own p lines, pid.number ≤ other.number := by
  rw [leastPid_eq_some_iff]
  simp [mem_listedIn_iff]

lemma leastPid_fitting_eq_none_iff :
    leastPid (fitting own p lines) = none ↔ listedIn own p lines = ∅ := by
  rw [leastPid_eq_none_iff, Set.eq_empty_iff_forall_notMem, List.eq_nil_iff_forall_not_mem]
  simp [mem_listedIn_iff]

/-! ## Other lines that list the same -/

/-- The lines are the same up to their order, and up to the blanks in them (`Respaced`). -/
def Rearranged (lines lines' : List String) : Prop :=
  ∃ between : List String, lines.Perm between ∧ List.Forall₂ Respaced between lines'

lemma madeOf_congr {s t : String} (h : Respaced s t) {ws : List String} :
    MadeOf ws s ↔ MadeOf ws t := by
  rw [← Text.words_eq_iff, ← Text.words_eq_iff, Text.respaced_iff.1 h]

lemma titled_congr {title title' : Option String} (h : Option.Rel Respaced title title')
    {given : List String} :
    (∀ t ∈ title, ∃ wanted, MadeOf wanted t ∧ wanted <:+: given) ↔
      ∀ t ∈ title', ∃ wanted, MadeOf wanted t ∧ wanted <:+: given := by
  cases h with
  | some h => simp [madeOf_congr h]
  | none => simp

lemma listed_congr {line line' : String} (hline : Respaced line line')
    (hclass : p'.windowClass = p.windowClass) (htitle : Option.Rel Respaced p.title p'.title) :
    Listed own p line pid ↔ Listed own p' line' pid := by
  constructor
  · rintro ⟨made, written, other, alive, named, titled⟩
    exact .intro ((madeOf_congr hline).1 made) written other alive (hclass ▸ named)
      ((titled_congr htitle).1 titled)
  · rintro ⟨made, written, other, alive, named, titled⟩
    exact .intro ((madeOf_congr hline).2 made) written other alive (hclass ▸ named)
      ((titled_congr htitle).2 titled)

lemma listedIn_congr (hlines : Rearranged lines lines')
    (hclass : p'.windowClass = p.windowClass) (htitle : Option.Rel Respaced p.title p'.title) :
    listedIn own p lines = listedIn own p' lines' := by
  obtain ⟨between, perm, respaced⟩ := hlines
  ext pid
  simp only [listedIn, Set.mem_ofPred_eq, perm.mem_iff]
  clear perm
  induction respaced with
  | nil => simp
  | cons hline _ ih =>
    rw [List.exists_mem_cons_iff, List.exists_mem_cons_iff, ih,
      listed_congr hline hclass htitle]

lemma leastPid_fitting_congr (hlines : Rearranged lines lines')
    (hclass : p'.windowClass = p.windowClass) (htitle : Option.Rel Respaced p.title p'.title) :
    leastPid (fitting own p lines) = leastPid (fitting own p' lines') := by
  ext pid
  rw [leastPid_fitting_eq_some_iff, leastPid_fitting_eq_some_iff,
    listedIn_congr hlines hclass htitle]

end Lines

end ProcessEntry

namespace ProcessTable

open ProcessEntry (fitting leastPid listedIn Rearranged)
open Text (Respaced)

variable {κ σ : Type}

/-- The window that is found is that of the least number among the entries of the lines that are
`fitting`. -/
lemma findWindow_eq (c : ProcessCalls κ σ) (hung : κ) (looks : ℕ) (p : WindowPattern)
    {w : World σ} {table : List UInt8}
    (read : (c.list.run w.outside).outcome = .returned (.ok table)) :
    ((desktop c hung looks).findWindow p w).outcome =
      .returned ((leastPid (fitting c.own p (Text.lines (Utf8.lossy table)))).map windowOf) := by
  have listed : (asking c.list.result w).outcome = .returned (.ok table) := read
  unfold desktop entries
  dsimp only
  rw [bind_assoc, Act.bind_run]
  rcases hr : asking c.list.result w with ⟨answer | m | k, w₁, n₁⟩ <;> rw [hr] at listed <;>
    cases listed
  rfl

/-- **Which process is found.**  In a table of processes, whatever its lines are, the process that
is found is the one of the least number that is listed, and none is found if and only if none is
listed.  So the answer is the same if the lines stand in another order, and if there are other
blanks in the lines or in the title. -/
theorem findWindow_least (c : ProcessCalls κ σ) (hung : κ) (looks : ℕ) (p : WindowPattern)
    {w : World σ} {table : List UInt8}
    (read : (c.list.run w.outside).outcome = .returned (.ok table)) :
    ∃ found : Option ProcessId,
      ((desktop c hung looks).findWindow p w).outcome = .returned (found.map windowOf) ∧
      (∀ pid, found = some pid ↔
        pid ∈ listedIn c.own p (Text.lines (Utf8.lossy table)) ∧
          ∀ other ∈ listedIn c.own p (Text.lines (Utf8.lossy table)), pid.number ≤ other.number) ∧
      (found = none ↔ listedIn c.own p (Text.lines (Utf8.lossy table)) = ∅) ∧
      ∀ (c' : ProcessCalls κ σ) (p' : WindowPattern) (w' : World σ) (table' : List UInt8),
        c'.own = c.own → p'.windowClass = p.windowClass → Option.Rel Respaced p.title p'.title →
        (c'.list.run w'.outside).outcome = .returned (.ok table') →
        Rearranged (Text.lines (Utf8.lossy table)) (Text.lines (Utf8.lossy table')) →
          ((desktop c' hung looks).findWindow p' w').outcome = .returned (found.map windowOf) := by
  refine ⟨_, findWindow_eq c hung looks p read, fun _ =>
    ProcessEntry.leastPid_fitting_eq_some_iff, ProcessEntry.leastPid_fitting_eq_none_iff, ?_⟩
  intro c' p' w' table' hown hclass htitle read' hlines
  rw [findWindow_eq c' hung looks p' read', hown,
    ProcessEntry.leastPid_fitting_congr hlines hclass htitle]

/-- A table with a process that fits twice, one that has exited, one of another title, the program
itself and a line that is no process. -/
def crowded : String :=
  "  30 S   /opt/app/app  -p   a b\n7 Z app -p a\n+12 R app x -p a\n5 S app -p b\n" ++
    "1 S app -p a\nPID STAT ARGS\n"

/-- Of these processes the one with the number 12 is found. -/
theorem crowded_least :
    (((Browser.frozen crowded).list.run ()).outcome = .returned (.ok (Utf8.encode crowded))) ∧
      ((desktop (Browser.frozen crowded) () 1).findWindow ⟨"app", some " -p  a"⟩
        ⟨.empty, ()⟩).outcome = .returned (some ⟨12⟩) := by
  have read : ((Browser.frozen crowded).list.run ()).outcome =
      .returned (.ok (Utf8.encode crowded)) := rfl
  have fit : fitting ⟨1⟩ ⟨"app", some " -p  a"⟩ (Text.lines crowded) =
      [⟨⟨30⟩, "app", ["/opt/app/app", "-p", "a", "b"]⟩,
        ⟨⟨12⟩, "app", ["app", "x", "-p", "a"]⟩] := by
    decide +kernel
  obtain ⟨found, out, found_iff, -, -⟩ :=
    findWindow_least (Browser.frozen crowded) () 1 ⟨"app", some " -p  a"⟩
      (w := ⟨.empty, ()⟩) read
  have least : found = some ⟨12⟩ := by
    rw [found_iff, Utf8.lossy_encode]
    show _ ∈ listedIn ⟨1⟩ _ _ ∧ ∀ other ∈ listedIn ⟨1⟩ _ _, _
    have bound : ∀ other : ProcessId,
        ⟨30⟩ = other ∨ ⟨12⟩ = other → (12 : UInt32) ≤ other.number := by
      rintro other (rfl | rfl) <;> decide
    simpa [ProcessEntry.mem_listedIn_iff, fit] using bound
  rw [least] at out
  exact ⟨read, out⟩

end ProcessTable

end StartupBench
