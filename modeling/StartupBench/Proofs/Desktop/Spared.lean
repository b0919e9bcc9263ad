import StartupBench.Proofs.Desktop.Listed
import StartupBench.Proofs.Quit.Tracked

/-!
# Browsers on other profiles

An instance is looked for by its profile, so that the browsers of the user are left alone.  In the
table of processes the profile is words of a command line, and a browser on another profile is left
alone if and only if these words do not stand in its own command line (`Browser.fits_other_iff`).

What is left alone is told by `ProcessCalls.recorded`, which keeps a record of the processes that
are asked to terminate.  A process whose entry does not fit is not among them, whatever else is in
the table (`Browser.other_profile_spared`).

## What is asked of the system

The first part of the module is about any record of the calls of the system.
`ProcessTable.TracksQuestions` says of two families of calls that one tracks the other in all that
is only asked, and the desktop over the one then tracks the desktop over the other
(`ProcessTable.desktop_tracks`).  The records of `Proofs.Desktop.Addressed` and
`Proofs.Desktop.ExitCodes` are of this kind too.

## A process that does not fit

`ProcessTable.Shows` says that the table shows the process by its entry alone, wherever it is read.
Then the process is neither found nor located by a pattern that its entry does not fit
(`ProcessTable.locate_elsewhere`), and so it is not asked to terminate (`ProcessTable.quit_spares`).

## Words

The words that select a profile can stand in the command line of a browser on another one if there
are blanks in either profile or in the path of the executable, and `Browser.not_infix_of_unbroken`
says that they cannot if there are none.
-/

namespace StartupBench

variable {κ σ τ α ε : Type}

/-! ## The process table on a richer world -/

namespace ProcessTable

/-- The exit codes, and the part of the world around them that `π` reads. -/
def World.map (π : τ → σ) (w : World τ) : World σ := ⟨w.exitCodes, π w.outside⟩

/-- The world around the exit codes stands in `S` to the one before, and of the exit codes nothing
is said. -/
def Around (S : τ → τ → Prop) (w w₁ : World τ) : Prop := S w.outside w₁.outside

instance (S : τ → τ → Prop) [IsPreorder τ S] : IsPreorder (World τ) (Around S) where
  refl _ := Std.Refl.refl (r := S) _
  trans _ _ _ h h₁ := IsTrans.trans (r := S) _ _ _ h h₁

/-- What `c'` is asked tracks what `c` is asked, but for the request to terminate. -/
structure TracksQuestions (π : τ → σ) (S : τ → τ → Prop) (c' : ProcessCalls κ τ)
    (c : ProcessCalls κ σ) : Prop where
  own : c'.own = c.own
  list : Try.Tracks π S c'.list c.list
  probe : ∀ n, Try.Tracks π S (c'.probe n) (c.probe n)
  poll : ∀ n, Try.Tracks π S (c'.poll n) (c.poll n)
  now : c'.now.Tracks π S c.now
  sleep : ∀ time, (c'.sleep time).Tracks π S (c.sleep time)

/-- The same as `TracksQuestions`, where no process but those in `K` is asked about. -/
structure TracksAbout (π : τ → σ) (S : τ → τ → Prop) (K : Int32 → Prop) (c' : ProcessCalls κ τ)
    (c : ProcessCalls κ σ) : Prop where
  own : c'.own = c.own
  list : Try.Tracks π S c'.list c.list
  probe : ∀ n, K n → Try.Tracks π S (c'.probe n) (c.probe n)
  poll : ∀ n, K n → Try.Tracks π S (c'.poll n) (c.poll n)
  now : c'.now.Tracks π S c.now
  sleep : ∀ time, (c'.sleep time).Tracks π S (c.sleep time)

lemma TracksQuestions.about {π : τ → σ} {S : τ → τ → Prop} {c' : ProcessCalls κ τ}
    {c : ProcessCalls κ σ} (h : TracksQuestions π S c' c) :
    TracksAbout π S (fun _ => True) c' c where
  own := h.own
  list := h.list
  probe n _ := h.probe n
  poll n _ := h.poll n
  now := h.now
  sleep := h.sleep

section Pieces

variable {π : τ → σ} {S : τ → τ → Prop}

lemma asking_tracks {x' : Act κ τ α} {x : Act κ σ α} (h : x'.Tracks π S x) :
    (asking x').Tracks (World.map π) (Around S) (asking x) := by
  refine ⟨fun w => ?_, fun w => h.respects w.outside⟩
  unfold asking Act.within World.map
  dsimp only
  rw [h.toOver w.outside]

lemma trying_tracks {x' : Try κ τ ε α} {x : Try κ σ ε α} (h : Try.Tracks π S x' x) :
    Try.Tracks (World.map π) (Around S) (trying x') (trying x) := asking_tracks h

variable [IsPreorder τ S]

lemma calling_tracks {x' : Try κ τ Errno α} {x : Try κ σ Errno α} (h : Try.Tracks π S x' x)
    (operation : String) :
    Try.Tracks (World.map π) (Around S) (calling operation x') (calling operation x) :=
  (trying_tracks h).mapError

lemma note_tracks (f : ExitCodes → ExitCodes) :
    (note f : Act κ (World τ) Unit).Tracks (World.map π) (Around S) (note f) :=
  Act.Tracks.update (fun _ => rfl) fun _ => Std.Refl.refl (r := S) _

end Pieces

lemma windowOwner_of {w : WindowId} {pid : ProcessId} (h : processOf? w = some pid) :
    windowOwner w = .ok (⟨pid.number⟩, pid) := by
  unfold windowOwner
  rw [h]

section About

variable {π : τ → σ} {S : τ → τ → Prop} [IsPreorder τ S] {K : Int32 → Prop} {c' : ProcessCalls κ τ}
  {c : ProcessCalls κ σ} (h : TracksAbout π S K c' c)
include h

lemma entries_about : (entries c').Tracks (World.map π) (Around S) (entries c) := by
  unfold entries
  refine (asking_tracks h.list.result).bind fun out => ?_
  cases out with
  | ok table =>
    rw [h.own]
    exact Act.Tracks.pure _
  | error e => exact (Act.Tracks.log _ _ _ _).bind fun _ => Act.Tracks.pure _

lemma pollExit_about {pid : ProcessId} (hK : K (rawPid pid)) :
    Try.Tracks (World.map π) (Around S) (pollExit c' pid) (pollExit c pid) := by
  have noted : ∀ (f : ExitCodes → ExitCodes),
      Try.Tracks (World.map π) (Around S)
        (do
          Try.lift (note f)
          pure true : Try κ (World τ) PrimitiveError Bool)
        (do
          Try.lift (note f)
          pure true) :=
    fun f => (Try.Tracks.lift (note_tracks f)).bind fun _ => Try.Tracks.pure true
  unfold pollExit
  refine (trying_tracks (h.poll _ hK)).attempt.bind fun out => ?_
  cases out with
  | ok state =>
    cases state with
    | running => exact Try.Tracks.pure false
    | exited code => exact noted _
    | killed signal => exact noted _
  | error e =>
    cases e with
    | noChild =>
      refine (trying_tracks (h.probe _ hK)).attempt.bind fun out => ?_
      cases out with
      | ok _ => exact Try.Tracks.pure false
      | error _ => exact noted _
    | _ => exact Try.Tracks.fail _

lemma reached_about (deadline : Option Instant) :
    (reached c' deadline).Tracks (World.map π) (Around S) (reached c deadline) := by
  unfold reached
  cases deadline with
  | none => exact Act.Tracks.pure false
  | some d => exact (asking_tracks h.now).bind fun now => Act.Tracks.pure _

lemma look_about {pid : ProcessId} (hK : K (rawPid pid)) (deadline : Option Instant) :
    (look c' pid deadline).Tracks (World.map π) (Around S) (look c pid deadline) := by
  unfold look
  refine Act.Tracks.bind (pollExit_about h hK).result fun out => ?_
  cases out with
  | error e => exact Act.Tracks.pure _
  | ok exited =>
    cases exited with
    | true => exact Act.Tracks.pure _
    | false =>
      refine (reached_about h deadline).bind fun late => Act.Tracks.ite (Act.Tracks.pure _) ?_
      exact (asking_tracks (h.sleep _)).bind fun _ => Act.Tracks.pure _

lemma deadline_about (limit : Option Duration) :
    (deadline c' limit).Tracks (World.map π) (Around S) (deadline c limit) := by
  unfold deadline
  cases limit with
  | none => exact Act.Tracks.pure none
  | some d =>
    refine (asking_tracks h.now).bind fun now => ?_
    exact (Act.Tracks.expected _ (now.after? d)).bind fun later => Act.Tracks.pure _

variable (hung : κ) (looks : Nat)

lemma findWindow_about (p : WindowPattern) :
    ((desktop c' hung looks).findWindow p).Tracks (World.map π) (Around S)
      ((desktop c hung looks).findWindow p) :=
  (entries_about h).bind fun _ => Act.Tracks.pure _

lemma className_about (w : WindowId) :
    ((desktop c' hung looks).className w).Tracks (World.map π) (Around S)
      ((desktop c hung looks).className w) := by
  unfold desktop
  dsimp only
  cases processOf? w with
  | none => exact Act.Tracks.pure none
  | some pid => exact (entries_about h).bind fun es => Act.Tracks.pure _

lemma threadWindows_about {thread : ThreadId} (hK : K (rawPid ⟨thread.number⟩)) :
    ((desktop c' hung looks).threadWindows thread).Tracks (World.map π) (Around S)
      ((desktop c hung looks).threadWindows thread) := by
  refine (asking_tracks (h.probe _ hK).result).bind fun out => ?_
  cases out with
  | ok _ => exact Act.Tracks.pure _
  | error _ => exact Act.Tracks.pure _

lemma openProcess_about {pid : ProcessId} (hK : K (rawPid pid)) :
    Try.Tracks (World.map π) (Around S) ((desktop c' hung looks).openProcess pid)
      ((desktop c hung looks).openProcess pid) :=
  (calling_tracks (h.probe _ hK) "kill").bind fun _ => Try.Tracks.pure _

lemma waitForExit_about {handle : Handle} (hK : K (rawPid handle.pid))
    (limit : Option Duration) :
    Try.Tracks (World.map π) (Around S) ((desktop c' hung looks).waitForExit handle limit)
      ((desktop c hung looks).waitForExit handle limit) := by
  refine Try.Tracks.bind (Try.Tracks.lift (deadline_about h limit)) fun d => ?_
  refine Act.Tracks.bind (Act.Tracks.first (fun _ => look_about h hK d) looks 0) fun out => ?_
  cases out with
  | some ending => exact Act.Tracks.pure ending
  | none => exact ⟨fun _ => rfl, fun _ => Std.Refl.refl (r := S) _⟩

end About

section Desktops

variable {π : τ → σ} {S : τ → τ → Prop} [IsPreorder τ S] {c' : ProcessCalls κ τ}
  {c : ProcessCalls κ σ} (h : TracksQuestions π S c' c)
include h

lemma pollExit_tracks (pid : ProcessId) :
    Try.Tracks (World.map π) (Around S) (pollExit c' pid) (pollExit c pid) :=
  pollExit_about h.about trivial

variable (hung : κ) (looks : Nat)

lemma desktop_tracksLooks :
    (desktop c' hung looks).TracksLooks (World.map π) (Around S) (desktop c hung looks) where
  findWindow p := findWindow_about h.about hung looks p
  windowOwner _ := Try.Tracks.ofExcept _
  threadWindows _ := threadWindows_about h.about hung looks trivial
  className w := className_about h.about hung looks w

lemma openProcess_tracks (pid : ProcessId) :
    Try.Tracks (World.map π) (Around S) ((desktop c' hung looks).openProcess pid)
      ((desktop c hung looks).openProcess pid) := openProcess_about h.about hung looks trivial

lemma waitForExit_tracks (handle : Handle) (limit : Option Duration) :
    Try.Tracks (World.map π) (Around S) ((desktop c' hung looks).waitForExit handle limit)
      ((desktop c hung looks).waitForExit handle limit) :=
  waitForExit_about h.about hung looks trivial limit

omit h in
lemma exitCode_tracks (handle : Handle) :
    Try.Tracks (World.map π) (Around S) ((desktop c' hung looks).exitCode handle)
      ((desktop c hung looks).exitCode handle) :=
  ⟨fun _ => rfl, fun _ => Std.Refl.refl (r := S) _⟩

omit h in
/-- A process is asked to terminate in place of its window, so that the message does not matter. -/
lemma postQuit_eq (c : ProcessCalls κ σ) {w : WindowId} {pid : ProcessId}
    (hw : processOf? w = some pid) (message : QuitMessage) :
    (desktop c hung looks).postQuit w message = (do
      Try.log .trace .processes ("Sending SIGTERM to " ++ pid.text ++ " for " ++ message.name)
      calling "kill" (c.terminate (rawPid pid))) := by
  unfold desktop
  dsimp only
  rw [windowOwner_of hw]
  exact pure_bind _ _

omit h in
lemma postQuit_tracks {w : WindowId} (message : QuitMessage)
    (ht : ∀ pid, processOf? w = some pid →
      Try.Tracks π S (c'.terminate (rawPid pid)) (c.terminate (rawPid pid))) :
    Try.Tracks (World.map π) (Around S) ((desktop c' hung looks).postQuit w message)
      ((desktop c hung looks).postQuit w message) := by
  cases hw : processOf? w with
  | none =>
    unfold desktop windowOwner
    dsimp only
    rw [hw]
    exact Try.Tracks.fail _
  | some pid =>
    rw [postQuit_eq hung looks c' hw, postQuit_eq hung looks c hw]
    exact (Try.Tracks.log _ _ _ _).bind fun _ => calling_tracks (ht pid hw) "kill"

lemma desktop_tracks (ht : ∀ n, Try.Tracks π S (c'.terminate n) (c.terminate n)) :
    (desktop c' hung looks).Tracks (World.map π) (Around S) (desktop c hung looks) where
  looks := desktop_tracksLooks h hung looks
  openProcess := openProcess_tracks h hung looks
  uses handle :=
    { postQuit := fun _ message => postQuit_tracks hung looks message fun _ _ => ht _
      waitForExit := waitForExit_tracks h hung looks handle
      exitCode := exitCode_tracks hung looks handle }
  closeProcess handle := note_tracks fun m => m.erase handle.pid

end Desktops

end ProcessTable

/-! ## Which processes are asked to terminate -/

/-- System calls that keep a record of the processes that are asked to terminate, and do what they
did. -/
def ProcessCalls.recorded (c : ProcessCalls κ σ) : ProcessCalls κ (Recorded Int32 σ) where
  own := c.own
  list := Try.unrecorded c.list
  probe n := Try.unrecorded (c.probe n)
  terminate n := Try.recorded (fun _ => n) (c.terminate n)
  poll n := Try.unrecorded (c.poll n)
  now := c.now.unrecorded
  sleep time := (c.sleep time).unrecorded

namespace ProcessTable

open Recorded (Adds)

lemma recorded_tracks (c : ProcessCalls κ σ) (C : Int32 → Prop) :
    TracksQuestions Recorded.world (Adds C) c.recorded c where
  own := rfl
  list := ⟨Try.unrecorded_over _, Act.Respects.unrecorded C _⟩
  probe _ := ⟨Try.unrecorded_over _, Act.Respects.unrecorded C _⟩
  poll _ := ⟨Try.unrecorded_over _, Act.Respects.unrecorded C _⟩
  now := ⟨Act.unrecorded_over _, Act.Respects.unrecorded C _⟩
  sleep _ := ⟨Act.unrecorded_over _, Act.Respects.unrecorded C _⟩

/-- The record changes nothing of an attempt to make an application leave, seen through
`Recorded.world`. -/
lemma quit_over (c : ProcessCalls κ σ) (hung : κ) (looks : Nat) (t : QuitTarget)
    (limit : Option Duration) :
    Try.Over (World.map Recorded.world) (t.quit (desktop c.recorded hung looks) limit)
      (t.quit (desktop c hung looks) limit) := by
  have tracks := desktop_tracks (recorded_tracks c fun _ => True) hung looks fun n =>
    Try.recorded_tracks (fun _ => n) (c.terminate n) fun _ => trivial
  exact (QuitTarget.quit_tracks tracks t limit).toOver

/-! ## Windows of other processes -/

lemma processOf?_windowOf (pid : ProcessId) : processOf? (windowOf pid) = some pid := by
  have bound : pid.number.toNat < 4294967296 := pid.number.toNat_lt
  unfold processOf? windowOf
  dsimp only
  rw [if_pos ⟨Int.natCast_nonneg _, Int.ofNat_lt.2 bound⟩, Int.toNat_natCast, Nat.toUInt32,
    UInt32.ofNat_toNat]

/-- No other window stands for the process: `windowOf` and `processOf?` are inverse to each other.
-/
lemma windowOf_of_processOf? {w : WindowId} {pid : ProcessId} (h : processOf? w = some pid) :
    w = windowOf pid := by
  obtain ⟨number⟩ := w
  unfold processOf? at h
  dsimp only at h
  split at h
  · rename_i bounds
    cases h
    have small : number.toNat < 4294967296 := by omega
    have back : number.toNat.toUInt32.toNat = number.toNat := Nat.mod_eq_of_lt small
    unfold windowOf
    rw [back, Int.toNat_of_nonneg bounds.1]
  · cases h

lemma rawPid_inj {p q : ProcessId} : rawPid p = rawPid q ↔ p = q := by
  refine ⟨fun h => ?_, congrArg rawPid⟩
  obtain ⟨p⟩ := p
  obtain ⟨q⟩ := q
  have same : p = q := congrArg Int32.toUInt32 h
  exact congrArg ProcessId.mk same

/-- The window of another process than `pid`. -/
def Elsewhere (pid : ProcessId) (w : WindowId) : Prop := ∃ other, other ≠ pid ∧ w = windowOf other

/-- Wherever the table is read, it shows the process of this entry by this entry alone. -/
def Shows (c : ProcessCalls κ σ) (e : ProcessEntry) : Prop :=
  ∀ w table, (c.list.run w).outcome = .returned (.ok table) →
    ∀ e' ∈ ProcessEntry.ofTable c.own table, e'.pid = e.pid → e' = e

section Others

variable (c : ProcessCalls κ σ) (hung : κ) (looks : Nat) {e : ProcessEntry} {p : WindowPattern}

lemma desktop_windowOwner (w : WindowId) :
    (desktop c hung looks).windowOwner w = Try.ofExcept (windowOwner w) := rfl

/-- The window that is found is that of an entry of the table which fits and is not the program
itself. -/
lemma findWindow_yields (w : World (Recorded Int32 σ)) :
    ((desktop c.recorded hung looks).findWindow p).Yields w
      (fun found _ => ∀ window, found = some window →
        ∃ table, (c.list.run w.outside.world).outcome = .returned (.ok table) ∧
          ∃ e' ∈ ProcessEntry.ofTable c.own table,
            e'.fits p = true ∧ window = windowOf e'.pid)
      fun _ _ => True := by
  have read : (entries c.recorded).Yields w
      (fun es _ => es = [] ∨
        ∃ table, (c.list.run w.outside.world).outcome = .returned (.ok table) ∧
          es = ProcessEntry.ofTable c.own table) fun _ _ => True := by
    unfold entries
    rw [Act.yields_bind, asking, Act.yields_within]
    refine Act.yields_unrecorded.2 (Act.Yields.of_ways (fun out hout => ?_) (fun _ _ => trivial)
      fun _ _ => trivial)
    cases out with
    | ok table => exact .inr ⟨table, hout, rfl⟩
    | error e => exact .inl rfl
  show Act.Yields (entries c.recorded >>= fun es => pure _) w _ _
  rw [Act.yields_bind]
  refine read.mono (fun es w₁ hes => ?_) fun _ _ _ => trivial
  rw [Act.yields_pure]
  intro window hwindow
  obtain ⟨pid, hleast, rfl⟩ := Option.map_eq_some_iff.1 hwindow
  obtain ⟨⟨e', hmem, rfl⟩, -⟩ := ProcessEntry.leastPid_spec hleast
  obtain ⟨hmem, fits⟩ := List.mem_filter.1 hmem
  obtain rfl | ⟨table, hout, rfl⟩ := hes
  · cases hmem
  · exact ⟨table, hout, e', hmem, fits, rfl⟩

/-- A process is not found by an entry that does not fit, since the table `Shows` no other one of
it. -/
lemma findWindow_elsewhere (shows : Shows c e) (unfit : e.fits p = false)
    (w : World (Recorded Int32 σ)) :
    ((desktop c.recorded hung looks).findWindow p).Yields w
      (fun found _ => ∀ window, found = some window → Elsewhere e.pid window)
      fun _ _ => True := by
  refine (findWindow_yields c hung looks w).mono (fun found w₁ h => ?_) fun _ _ _ => trivial
  intro window hwindow
  obtain ⟨table, hout, e', hmem, fits, rfl⟩ := h window hwindow
  refine ⟨e'.pid, fun same => ?_, rfl⟩
  rw [shows _ table hout e' hmem same, unfit] at fits
  cases fits

lemma accepted_mem {d : Desktop κ τ} {rule : ClassRule} {windows : List WindowId} {w : τ} :
    (QuitTarget.accepted d rule windows).Yields w (fun kept _ => ∀ k ∈ kept, k ∈ windows)
      fun _ _ => True := by
  induction windows generalizing w with
  | nil => exact fun k hk => hk
  | cons window windows ih =>
    unfold QuitTarget.accepted
    rw [Act.yields_bind]
    refine Act.Yields.anyway (fun windowClass w₁ => ?_) fun _ _ => trivial
    rw [Act.yields_bind]
    refine ih.mono (fun kept w₂ h => ?_) fun _ _ _ => trivial
    rw [Act.yields_pure]
    split
    · exact List.forall_mem_cons.2 ⟨List.mem_cons_self, fun k hk => List.mem_cons_of_mem _ (h k hk)⟩
    · exact fun k hk => List.mem_cons_of_mem _ (h k hk)

/-- Nor is it located by it, or one of its windows to be asked: the windows of a thread are those of
one process. -/
lemma locate_elsewhere {t : QuitTarget} (shows : Shows c e)
    (unfit : e.fits t.instancePattern = false) (w : World (Recorded Int32 σ)) :
    Try.Yields (QuitTarget.locate (desktop c.recorded hung looks) t) w
      (fun found _ => ∀ window ∈ found.recipients, Elsewhere e.pid window)
      (fun _ _ => True) fun _ _ => True := by
  unfold QuitTarget.locate
  rw [Try.yields_bind, Try.yields_monadLift]
  refine (findWindow_elsewhere c hung looks shows unfit w).mono (fun found w₁ h => ?_)
    fun _ _ _ => trivial
  cases found with
  | none => trivial
  | some window =>
    obtain ⟨other, apart, rfl⟩ := h window rfl
    dsimp only
    rw [Try.yields_bind, Try.yields_mapError, desktop_windowOwner,
      windowOwner_of (processOf?_windowOf other), Try.yields_ofExcept]
    dsimp only
    rw [Try.yields_bind, Try.yields_monadLift]
    -- The windows of its thread are the one window of the same process.
    have alone : ((desktop c.recorded hung looks).threadWindows ⟨other.number⟩).Yields w₁
        (fun windows _ => ∀ window ∈ windows, window = windowOf other) fun _ _ => True := by
      unfold desktop
      dsimp only
      rw [Act.yields_bind]
      refine Act.Yields.anyway (fun out w₂ => ?_) fun _ _ => trivial
      cases out with
      | ok _ => exact fun window hmem => List.mem_singleton.1 hmem
      | error _ => exact fun window hmem => absurd hmem List.not_mem_nil
    refine alone.mono (fun windows w₂ hwindows => ?_) fun _ _ _ => trivial
    rw [Try.yields_bind, Try.yields_monadLift]
    refine accepted_mem.mono (fun kept w₃ hkept => ?_) fun _ _ _ => trivial
    exact fun window hmem => ⟨other, apart, hwindows window (hkept window hmem)⟩

/-- Asking to quit on such a pattern leaves the process alone, whichever way it ends. -/
lemma quit_spares {t : QuitTarget} (shows : Shows c e)
    (unfit : e.fits t.instancePattern = false) (limit : Option Duration)
    (w : World (Recorded Int32 σ)) :
    Around (Adds (· ≠ rawPid e.pid)) w
      ((t.quit (desktop c.recorded hung looks) limit).run w).world := by
  have questions := recorded_tracks c (· ≠ rawPid e.pid)
  have looking := (QuitTarget.locate_tracks (desktop_tracksLooks questions hung looks) t).respects
  have elsewhere := locate_elsewhere c hung looks shows unfit w
  unfold QuitTarget.quit
  refine Try.Respects.bind_at (looking w) fun found hfound => ?_
  have asked : ∀ window ∈ found.recipients, Try.Tracks (World.map Recorded.world)
      (Around (Adds (· ≠ rawPid e.pid)))
      ((desktop c.recorded hung looks).postQuit window t.message)
      ((desktop c hung looks).postQuit window t.message) := by
    intro window hmem
    obtain ⟨other, apart, rfl⟩ := (Act.Yields.of_returned elsewhere hfound) window hmem
    refine postQuit_tracks hung looks t.message fun pid hpid => ?_
    rw [processOf?_windowOf, Option.some.injEq] at hpid
    refine Try.recorded_tracks (fun _ => rawPid pid) _ fun _ => ?_
    exact fun same => apart (hpid.trans (rawPid_inj.1 same))
  have spared : Try.Respects (Around (Adds (· ≠ rawPid e.pid)))
      (do
        let handle ← Try.mapError QuitError.os
          ((desktop c.recorded hung looks).openProcess found.owner)
        ExceptT.mk (Act.ensuring
          (QuitTarget.whileOpen (desktop c.recorded hung looks) t limit found handle).run
          ((desktop c.recorded hung looks).closeProcess handle))) := by
    refine (openProcess_tracks questions hung looks found.owner).mapError.respects.bind
      fun handle => ?_
    have used := QuitTarget.whileOpen_tracks_of t limit found asked
      (waitForExit_tracks questions hung looks handle limit) (exitCode_tracks hung looks handle)
    exact Act.Respects.ensuring used.respects
      (note_tracks (π := Recorded.world) fun m => m.erase handle.pid).respects
  exact Try.Respects.ite ((Try.Respects.log _ _ _ _).bind fun _ => spared) spared

end Others

end ProcessTable

/-! ## Instances on other profiles -/

namespace Browser

open Text (words Unbroken)
open ProcessEntry (fileName ofLine? line Alive)
open ProcessTable (rawPid Shows)

/-- The argument by which a new profile is made without further questions. -/
def noFirstRun : RawText := "--no-first-run"

/-- The process is nothing to those who look for the profile: the profile is taken to be in use only
because of the entry of another process, and of the processes that are asked to terminate when its
instance is to quit, it is none. -/
def Spares (c : ProcessCalls κ σ) (b : Browser κ (ProcessTable.World (Recorded Int32 σ)))
    (profile : Path) (pid : ProcessId) : Prop :=
  ∀ w, (b.isRunning profile).Yields w
      (fun yes _ => yes = true →
        ∃ table, (c.list.run w.outside.world).outcome = .returned (.ok table) ∧
          ∃ e ∈ ProcessEntry.ofTable c.own table,
            e.pid ≠ pid ∧ e.fits (b.quitTarget profile).instancePattern = true)
      (fun _ _ => True) ∧
    ∀ limit, ∃ asked, ((b.quit profile limit).run w).world.outside.calls =
      w.outside.calls ++ asked ∧ rawPid pid ∉ asked

variable (c : ProcessCalls κ σ) (hung : κ) (looks : Nat)
  (store : PreloadStore κ (ProcessTable.World (Recorded Int32 σ)))

lemma spares_of_unfit (exe : Path) (profile : Path) {e : ProcessEntry}
    (unfit : e.fits ((chromium exe (ProcessTable.desktop c.recorded hung looks) store).quitTarget
      profile).instancePattern = false) (shows : Shows c e) :
    Spares c (chromium exe (ProcessTable.desktop c.recorded hung looks) store) profile e.pid := by
  intro w
  constructor
  · unfold isRunning
    rw [Act.yields_bind]
    refine (ProcessTable.findWindow_yields c hung looks w).mono (fun found w₁ h => ?_)
      fun _ _ _ => trivial
    rw [Act.yields_pure]
    intro yes
    obtain ⟨window, hwindow⟩ := Option.isSome_iff_exists.1 yes
    obtain ⟨table, hout, e', hmem, fits, -⟩ := h window hwindow
    refine ⟨table, hout, e', hmem, fun same => ?_, fits⟩
    rw [shows _ table hout e' hmem same, unfit] at fits
    cases fits
  · intro limit
    obtain ⟨asked, hcalls, others⟩ := ProcessTable.quit_spares c hung looks shows unfit limit w
    refine ⟨asked, ?_, fun hmem => others _ hmem rfl⟩
    rw [← hcalls]
    exact congrArg (fun w₁ : ProcessTable.World (Recorded Int32 σ) => w₁.outside.calls)
      (Try.mapError_world _ _ _)

/-- Without blanks, the argument that selects a profile is on no command line for another one: both
are single words, and different ones. -/
lemma not_infix_of_unbroken {exe : String} {p q : Path} {extra : List RawText}
    (hexe : Unbroken exe) (hp : Unbroken p.display) (hq : Unbroken q.display)
    (apart : p.display ≠ q.display) (hne : exe ≠ profileFlag p)
    (hextra : extra = [] ∨ extra = [noFirstRun]) :
    ¬ words (profileFlag p) <:+:
      words exe ++ (words (profileFlag q) ++ extra.flatMap fun a => words a.display) := by
  intro h
  rw [words_profileFlag hp, words_profileFlag hq] at h
  have hmem := h.subset (List.mem_singleton_self (profileFlag p))
  rw [List.mem_append, List.mem_append, List.mem_singleton] at hmem
  obtain program | other | more := hmem
  · by_cases empty : exe = ""
    · rw [empty] at program
      exact absurd program List.not_mem_nil
    · rw [Text.words_of_unbroken empty hexe] at program
      exact hne (List.mem_singleton.1 program).symm
  · exact apart (profileFlag_inj.1 other)
  · obtain rfl | rfl := hextra
    · exact absurd more List.not_mem_nil
    · have shown : noFirstRun.display = "--no-first-run" := Utf8.lossy_encode _
      have single : words "--no-first-run" = ["--no-first-run"] := by decide
      rw [List.flatMap_singleton, shown, single] at more
      exact profileFlag_ne_noFirstRun p (List.mem_singleton.1 more)

/-- **Browsers on other profiles.**  The entry of a Chromium browser that was launched on the
profile `q` fits the pattern for the profile `p` if and only if the words that select `p` stand in
its command line.  Without blanks in the two profiles and in the path of the executable they do not,
if the profiles differ.  A browser whose entry does not fit is left alone. -/
theorem other_profile_spared (exe : String) {state : String} (alive : Alive state) (p q : Path)
    (extra : List RawText) (pid : ProcessId) :
    let b := chromium exe (ProcessTable.desktop c.recorded hung looks) store
    ∃ e, ofLine? (line pid state (b.command q extra)) = some e ∧ e.pid = pid ∧
      (e.fits (b.quitTarget p).instancePattern = true ↔
        e.windowClass = (exe : Path).fileNameText ∧
          words (profileFlag p) <:+:
            words exe ++ (words (profileFlag q) ++ extra.flatMap fun a => words a.display)) ∧
      (Unbroken exe → Unbroken p.display → Unbroken q.display → p.display ≠ q.display →
        exe ≠ profileFlag p → extra = [] ∨ extra = [noFirstRun] →
        e.fits (b.quitTarget p).instancePattern = false) ∧
      (e.fits (b.quitTarget p).instancePattern = false → Shows c e → Spares c b p pid) := by
  intro b
  have hb : b.exe = (exe : Path) := rfl
  obtain ⟨program, arguments, hwords, read⟩ := b.exists_entry hb alive pid q extra
  have fits := b.fits_other_iff hb rfl (e := ⟨pid, fileName program, program :: arguments⟩)
    (p := p) hwords.symm
  refine ⟨_, read, rfl, fits, fun hexe hp hq apart hne hextra => ?_, fun unfit shows => ?_⟩
  · have absent := not_infix_of_unbroken hexe hp hq apart hne hextra
    rw [← Bool.not_eq_true, fits]
    exact fun both => absent both.2
  · exact spares_of_unfit c hung looks store exe p unfit shows

/-! ## A profile with a blank in its name -/

/-- A system that shows a browser on the profile `/tmp/q`, and nothing else. -/
def lone : ProcessCalls Unit Unit :=
  frozen "4242 S /opt/chrome/chrome --user-data-dir=/tmp/q\n"

/-- A Chromium browser on the system `lone`, with a record of the requests to terminate. -/
def onLone : Browser Unit (ProcessTable.World (Recorded Int32 Unit)) :=
  chromium "/opt/chrome/chrome" (ProcessTable.desktop lone.recorded () 1)
    (.unavailable systemName)

/-- What the system `lone` shows. -/
def loneEntry : ProcessEntry :=
  ⟨⟨4242⟩, "chrome", ["/opt/chrome/chrome", "--user-data-dir=/tmp/q"]⟩

lemma lone_shows : Shows lone loneEntry := by
  intro w table hout e he _
  have read : (Except.ok (Utf8.encode "4242 S /opt/chrome/chrome --user-data-dir=/tmp/q\n") :
      Except IoError (List UInt8)) = .ok table := Outcome.returned.inj hout
  rw [← Except.ok.inj read, ProcessEntry.ofTable, Utf8.lossy_encode] at he
  have shown : ((Text.lines "4242 S /opt/chrome/chrome --user-data-dir=/tmp/q\n").filterMap
      ofLine?).filter (fun e => e.pid ≠ lone.own) = [loneEntry] := by decide +kernel
  rw [shown] at he
  exact List.mem_singleton.1 he

/-- Who looks for another profile leaves that browser alone. -/
theorem lone_spared :
    Alive "S" ∧ ∃ e, ofLine? (line ⟨4242⟩ "S" (onLone.command "/tmp/q" [])) = some e ∧
      e.fits (onLone.quitTarget "/tmp/p").instancePattern = false ∧
      Spares lone onLone "/tmp/p" ⟨4242⟩ := by
  refine ⟨alive_sleeping, ?_⟩
  obtain ⟨e, read, -, -, isolated, spared⟩ := other_profile_spared lone () 1
    (.unavailable systemName) "/opt/chrome/chrome" alive_sleeping "/tmp/p" "/tmp/q" [] ⟨4242⟩
  have shownP : ("/tmp/p" : Path).display = "/tmp/p" := Utf8.lossy_encode _
  have shownQ : ("/tmp/q" : Path).display = "/tmp/q" := Utf8.lossy_encode _
  have unfit := isolated (by decide) (by rw [shownP]; decide) (by rw [shownQ]; decide)
    (by rw [shownP, shownQ]; decide) (by unfold profileFlag; rw [shownP]; decide) (.inl rfl)
  have unbrokenQ : Unbroken ("/tmp/q" : Path).display := by rw [shownQ]; decide
  have command : words (onLone.command "/tmp/q" []).display = loneEntry.commandLine := by
    rw [onLone.words_command rfl, onLone.argumentWords_of_chromium rfl,
      words_profileFlag unbrokenQ, profileFlag, shownQ]
    decide
  have name : fileName "/opt/chrome/chrome" = "chrome" := by decide
  have entry : ofLine? (line ⟨4242⟩ "S" (onLone.command "/tmp/q" [])) = some loneEntry := by
    rw [ProcessEntry.ofLine?_line ⟨4242⟩ alive_sleeping command, name]
    rfl
  obtain rfl : e = loneEntry := Option.some.inj (read.symm.trans entry)
  exact ⟨loneEntry, read, unfit, spared unfit lone_shows⟩

/-- A browser on a profile with a blank in its name is not always left alone. -/
theorem not_other_profile_unfit :
    ¬ ∀ (b : Browser Unit (ProcessTable.World Unit)) (exe state : String) (p q : Path)
        (extra : List RawText) (pid : ProcessId),
      b.exe = (exe : Path) → b.family = .chromium → Unbroken exe → Alive state →
      p.display ≠ q.display → extra = [] ∨ extra = [noFirstRun] →
      ∀ e, ofLine? (line pid state (b.command q extra)) = some e →
        e.fits (b.quitTarget p).instancePattern = false := by
  intro unfit
  have shownP : ("/tmp/p" : Path).display = "/tmp/p" := Utf8.lossy_encode _
  have shownQ : ("/tmp/p x" : Path).display = "/tmp/p x" := Utf8.lossy_encode _
  have named : Path.EndsInFileName "/opt/chrome/chrome" := by decide
  have command : words ((onFrozen "/opt/chrome/chrome").command "/tmp/p x" []).display =
      ["/opt/chrome/chrome", "--user-data-dir=/tmp/p", "x"] := by
    rw [words_command _ rfl, argumentWords_of_chromium _ rfl, profileFlag, shownQ]
    decide
  have entry := ProcessEntry.ofLine?_line ⟨4242⟩ alive_sleeping command
  have apart := unfit (onFrozen "/opt/chrome/chrome") "/opt/chrome/chrome" "S" "/tmp/p" "/tmp/p x"
    [] ⟨4242⟩ rfl rfl (by decide) alive_sleeping (by rw [shownP, shownQ]; decide) (.inl rfl) _ entry
  have flag : words (profileFlag "/tmp/p") = ["--user-data-dir=/tmp/p"] := by
    rw [words_profileFlag (by rw [shownP]; decide), profileFlag, shownP]
    decide
  have fits : ∀ e : ProcessEntry, e.windowClass = fileName "/opt/chrome/chrome" →
      e.commandLine = ["/opt/chrome/chrome", "--user-data-dir=/tmp/p", "x"] →
      e.fits ((onFrozen "/opt/chrome/chrome").quitTarget "/tmp/p").instancePattern = true := by
    intro e hclass hline
    have pattern : ((onFrozen "/opt/chrome/chrome").quitTarget "/tmp/p").instancePattern =
        ⟨("/opt/chrome/chrome" : Path).fileNameText, some (profileFlag "/tmp/p")⟩ := rfl
    rw [pattern, ProcessEntry.fits_iff, flag, hline, Path.fileNameText_eq named]
    exact ⟨hclass, ["/opt/chrome/chrome"], ["x"], rfl⟩
  rw [fits _ rfl rfl] at apart
  cases apart

end Browser

end StartupBench
