import StartupBench.Proofs.Desktop.Spared
import StartupBench.Proofs.Quit.Handles

/-!
# The exit codes that are kept

The desktop over a table of processes keeps the exit codes of the processes that it saw to have
exited, and the next process may have the number of an earlier one.  Here it is shown that nothing
is left of one attempt to make an application leave for the next: afterwards the exit codes are
those before, without that of the process that was opened, if one was opened
(`ProcessTable.quit_exitCodes`).  And the exit code that is answered is what was seen of the process
in the very attempt, when it was asked after for the last time (`LastSeen`).

Both are told by records, one of the calls of the desktop and one of what the system is asked about
single processes (`ProcessCalls.inquiring`).

## Looks

A wait is made of looks at the process.  `ProcessTable.waitForExit_of_looks` takes what every look
keeps and what the last look shows to the whole wait, whatever its limit, and is also how
`Proofs.Desktop.Reaped` goes about a wait.  A look that finds the process to have exited notes the
exit code it saw (`ProcessTable.pollExit_yields`), so that the wait ends with one that is `Noted`.

## The attempt

Before the process is opened nothing is noted, and while it is open only its own exit code is
(`ProcessTable.Agrees`).  Closing it takes this one away again (`ProcessTable.closeProcess_yields`),
and closing is the last call on every way out, as `QuitTarget.quit_calls` says.
-/

namespace StartupBench

variable {κ σ : Type}

/-! ## What is asked about single processes -/

/-- A question about one process, with its answer if there was one. -/
inductive Inquiry where
  | poll (number : Int32) (answer : Option (Except Errno ChildState))
  | probe (number : Int32) (answer : Option (Except Errno Unit))
  deriving DecidableEq, Repr

/-- System calls that keep a record of the questions about single processes, as an `Inquiry` each.
-/
def ProcessCalls.inquiring (c : ProcessCalls κ σ) : ProcessCalls κ (Recorded Inquiry σ) where
  own := c.own
  list := Try.unrecorded c.list
  probe n := Try.recorded (fun out => .probe n out.answer?) (c.probe n)
  terminate n := Try.unrecorded (c.terminate n)
  poll n := Try.recorded (fun out => .poll n out.answer?) (c.poll n)
  now := c.now.unrecorded
  sleep time := (c.sleep time).unrecorded

lemma ProcessCalls.inquiring_poll (c : ProcessCalls κ σ) (n : Int32) : c.inquiring.poll n =
    Try.recorded (fun out => .poll n out.answer?) (c.poll n) := rfl

lemma ProcessCalls.inquiring_probe (c : ProcessCalls κ σ) (n : Int32) : c.inquiring.probe n =
    Try.recorded (fun out => .probe n out.answer?) (c.probe n) := rfl

namespace Desktop.Call

/-- The process was opened, which gave a handle. -/
def Opens (pid : ProcessId) (calls : List Call) : Prop :=
  ∃ handle, openProcess pid (some handle) ∈ calls

end Desktop.Call

namespace ProcessTable

open Desktop.Call (Opens)
open QuitTarget (quit locate whileOpen)

/-- When the process was asked after for the last time, it had exited with this code, if there is
one.  A signal that ended it stands for a code of its own, and of a process that is not a child it
is only known that it is gone. -/
inductive LastSeen (pid : ProcessId) : Option Int → List Inquiry → Prop
  | exited (earlier : List Inquiry) (code : ℕ) :
      LastSeen pid (some code) (earlier ++ [.poll (rawPid pid) (some (.ok (.exited code)))])
  | killed (earlier : List Inquiry) (signal : ℕ) :
      LastSeen pid (some (128 + signal : ℕ))
        (earlier ++ [.poll (rawPid pid) (some (.ok (.killed signal)))])
  | gone (earlier : List Inquiry) (e : Errno) :
      LastSeen pid none
        (earlier ++ [.poll (rawPid pid) (some (.error .noChild)),
          .probe (rawPid pid) (some (.error e))])

lemma inquiring_tracks (c : ProcessCalls κ σ) :
    TracksQuestions Recorded.world (Recorded.Adds fun _ => True) c.inquiring c where
  own := rfl
  list := ⟨Try.unrecorded_over _, Act.Respects.unrecorded _ _⟩
  probe n := Try.recorded_tracks (fun out => Inquiry.probe n out.answer?) _ fun _ => trivial
  poll n := Try.recorded_tracks (fun out => Inquiry.poll n out.answer?) _ fun _ => trivial
  now := ⟨Act.unrecorded_over _, Act.Respects.unrecorded _ _⟩
  sleep _ := ⟨Act.unrecorded_over _, Act.Respects.unrecorded _ _⟩

/-- The record changes nothing of an attempt to make an application leave, seen through
`Recorded.world`. -/
lemma inquiring_over (c : ProcessCalls κ σ) (hung : κ) (looks : ℕ) (t : QuitTarget)
    (limit : Option Duration) :
    Try.Over (World.map Recorded.world) (t.quit (desktop c.inquiring hung looks) limit)
      (t.quit (desktop c hung looks) limit) := by
  have tracks := desktop_tracks (inquiring_tracks c) hung looks fun n =>
    ⟨Try.unrecorded_over (c.terminate n), Act.Respects.unrecorded _ _⟩
  exact (QuitTarget.quit_tracks tracks t limit).toOver

/-! ## Calls that leave the exit codes alone -/

section Frame

variable {γ α ε : Type} (f : ExitCodes → γ)

/-- What `f` reads of the exit codes is as before, whatever else has changed in the world. -/
abbrev Kept : World σ → World σ → Prop := Same fun w => f w.exitCodes

lemma asking_kept (x : Act κ σ α) : (asking x).Respects (Kept f) := fun _ => rfl

lemma trying_kept (x : Try κ σ ε α) : Try.Respects (Kept f) (trying x) := fun _ => rfl

lemma calling_kept (operation : String) (x : Try κ σ Errno α) :
    Try.Respects (Kept f) (calling operation x) := (trying_kept f x).mapError

variable (c : ProcessCalls κ σ) (hung : κ) (looks : ℕ)

lemma entries_kept : (entries c).Respects (Kept f) := by
  unfold entries
  refine (asking_kept f _).bind fun out => ?_
  cases out with
  | ok table => exact Act.Respects.pure _
  | error e => exact (Act.Respects.log _ _ _ _).bind fun _ => Act.Respects.pure _

lemma looks_kept :
    (desktop c hung looks).TracksLooks id (Kept f) (desktop c hung looks) where
  findWindow p := ((entries_kept f c).bind fun es => Act.Respects.pure _).tracks
  windowOwner w := Try.Tracks.ofExcept _
  threadWindows t := by
    refine Act.Respects.tracks ((asking_kept f _).bind fun out => ?_)
    cases out with
    | ok _ => exact Act.Respects.pure _
    | error _ => exact Act.Respects.pure _
  className w := by
    unfold desktop
    dsimp only
    cases processOf? w with
    | none => exact Act.Tracks.pure none
    | some pid => exact ((entries_kept f c).bind fun es => Act.Respects.pure _).tracks

lemma postQuit_kept (w : WindowId) (message : QuitMessage) :
    Try.Respects (Kept f) ((desktop c hung looks).postQuit w message) := by
  unfold desktop
  dsimp only
  cases windowOwner w with
  | error e => exact Try.Respects.fail e
  | ok owner => exact (Try.Respects.log _ _ _ _).bind fun _ => calling_kept f _ _

lemma reached_kept (deadline : Option Instant) : (reached c deadline).Respects (Kept f) := by
  unfold reached
  cases deadline with
  | none => exact Act.Respects.pure _
  | some d => exact (asking_kept f _).bind fun _ => Act.Respects.pure _

lemma deadline_kept (limit : Option Duration) : (deadline c limit).Respects (Kept f) := by
  unfold deadline
  cases limit with
  | none => exact Act.Respects.pure _
  | some d =>
    refine (asking_kept f _).bind fun now => Act.Respects.bind ?_ fun later => Act.Respects.pure _
    exact (Act.Tracks.expected (π := id) _ (now.after? d)).respects

end Frame

/-! ## The wait -/

/-- A wait ends as its last look says, if every look before it keeps `I`. -/
lemma waitForExit_of_looks {c : ProcessCalls κ σ} (hung : κ) (looks : ℕ) {handle : Handle}
    {limit : Option Duration} {w : World σ} {I : World σ → Prop} {R : Waited → World σ → Prop}
    {E : PrimitiveError → World σ → Prop} {P : String → World σ → Prop}
    {H : Stop κ → World σ → Prop} (started : (deadline c limit).Yields w (fun _ => I) P H)
    (turn : ∀ d w₁, I w₁ → (look c handle.pid d).Yields w₁
      (fun
        | none => I
        | some (.ok waited) => R waited
        | some (.error e) => E e) P) :
    Try.Yields ((desktop c hung looks).waitForExit handle limit) w R E P := by
  unfold desktop
  dsimp only
  rw [Try.yields_bind, Try.yields_lift]
  refine started.imp (fun d w₁ hw₁ => ?_) (fun _ _ h => h) fun _ _ _ => trivial
  unfold awaitExit
  rw [Try.yields_mk, Act.yields_bind]
  refine Act.yields_first (fun _ => I) looks 0 w₁ hw₁ (fun i w₂ _ _ hw₂ => ?_)
    fun w₂ hw₂ => trivial
  refine (turn d w₂ hw₂).mono (fun ending w₃ hw₃ => ?_) fun _ w₃ hw₃ => hw₃
  obtain _ | _ | _ := ending <;> exact hw₃

lemma erase_insert (m : ExitCodes) (pid : ProcessId) (code : Option Int) :
    (m.insert pid code).erase pid = m.erase pid := by
  funext q
  unfold ExitCodes.erase ExitCodes.insert
  split <;> rfl

lemma insert_self (m : ExitCodes) (pid : ProcessId) (code : Option Int) :
    m.insert pid code pid = some code := if_pos rfl

/-- Of other processes than this one the exit codes are those of `m`, which were kept before the
attempt. -/
def Agrees (m : ExitCodes) (pid : ProcessId) (w : World σ) : Prop :=
  w.exitCodes.erase pid = m.erase pid

/-- The exit code of the process is kept as it was seen last, as `LastSeen` has it of the record. -/
def Noted (pid : ProcessId) (w : World (Recorded Inquiry σ)) : Prop :=
  ∃ code, w.exitCodes pid = some code ∧ LastSeen pid code w.outside.calls

lemma Agrees.kept {m : ExitCodes} {pid : ProcessId} {w w₁ : World σ} (h : Agrees m pid w)
    (hw₁ : Kept (·.erase pid) w w₁) : Agrees m pid w₁ := Eq.trans hw₁ h

section Wait

variable (c : ProcessCalls κ σ) (hung : κ) (looks : ℕ) {m : ExitCodes} {pid : ProcessId}
  {w : World (Recorded Inquiry σ)}

lemma Agrees.note (h : Agrees m pid w) (code : Option Int)
    (seen : LastSeen pid code w.outside.calls) :
    Agrees m pid { w with exitCodes := w.exitCodes.insert pid code } ∧
      Noted pid { w with exitCodes := w.exitCodes.insert pid code } :=
  ⟨(erase_insert _ _ _).trans h, code, insert_self _ _ _, seen⟩

/-- A look that finds the process to have exited notes what was seen, and leaves the exit codes of
all others as they were. -/
lemma pollExit_yields (h : Agrees m pid w) :
    Try.Yields (pollExit c.inquiring pid) w
      (fun exited w₁ => Agrees m pid w₁ ∧ (exited = true → Noted pid w₁))
      (fun _ => Agrees m pid) fun _ => Agrees m pid := by
  have noted : ∀ (calls : List Inquiry) (s : σ) (code : Option Int), LastSeen pid code calls →
      Try.Yields
        (do
          Try.lift (note fun m => m.insert pid code)
          pure true : Try κ (World (Recorded Inquiry σ)) PrimitiveError Bool)
        ⟨w.exitCodes, calls, s⟩
        (fun exited w₁ => Agrees m pid w₁ ∧ (exited = true → Noted pid w₁))
        (fun _ => Agrees m pid) fun _ => Agrees m pid := by
    intro calls s code seen
    have start : Agrees m pid (⟨w.exitCodes, calls, s⟩ : World (Recorded Inquiry σ)) := h
    obtain ⟨agrees, known⟩ := start.note code seen
    exact ⟨agrees, fun _ => known⟩
  unfold pollExit
  rw [Try.yields_bind, Try.yields_attempt, trying, Try.yields_within, c.inquiring_poll,
    Try.yields_recorded]
  refine Try.Yields.anyway (fun state s => ?_) (fun e s => ?_) fun _ s => h
  · cases state with
    | running => exact ⟨h, nofun⟩
    | exited code => exact noted _ s _ (.exited _ code)
    | killed signal => exact noted _ s _ (.killed _ signal)
  · cases e with
    | noChild =>
      dsimp only
      rw [Try.yields_bind, Try.yields_attempt, trying, Try.yields_within, c.inquiring_probe,
        Try.yields_recorded]
      refine Try.Yields.anyway (fun _ s => ?_) (fun e s => ?_) fun _ s => h
      · exact ⟨h, nofun⟩
      · refine noted _ s _ ?_
        rw [List.append_assoc]
        exact .gone _ e
    | _ => exact h

lemma look_yields (deadline : Option Instant) (h : Agrees m pid w) :
    (look c.inquiring pid deadline).Yields w
      (fun ending w₁ => Agrees m pid w₁ ∧ (ending = some (.ok .exited) → Noted pid w₁))
      fun _ => Agrees m pid := by
  unfold look
  rw [Act.yields_bind, Try.yields_result]
  refine (pollExit_yields c h).mono (fun exited w₁ hw₁ => ?_) (fun e w₁ hw₁ => ⟨hw₁, nofun⟩)
    fun _ w₁ hw₁ => hw₁
  obtain ⟨agrees, known⟩ := hw₁
  cases exited with
  | true => exact ⟨agrees, fun _ => known rfl⟩
  | false =>
    dsimp only
    rw [Act.yields_bind]
    refine ((reached_kept _ c.inquiring deadline).yields w₁).imp (fun late w₂ hw₂ => ?_)
      (fun _ w₂ hw₂ => agrees.kept hw₂) fun _ _ _ => trivial
    rw [Act.yields_ite]
    split
    · exact ⟨agrees.kept hw₂, nofun⟩
    · rw [Act.yields_bind]
      refine ((asking_kept _ _).yields w₂).imp (fun _ w₃ hw₃ => ?_)
        (fun _ w₃ hw₃ => (agrees.kept hw₂).kept hw₃) fun _ _ _ => trivial
      exact ⟨(agrees.kept hw₂).kept hw₃, nofun⟩

/-- The wait ends with a process that has exited only after what was seen of it is `Noted`. -/
lemma waitForExit_yields {handle : Handle} (limit : Option Duration)
    (h : Agrees m handle.pid w) :
    Try.Yields ((desktop c.inquiring hung looks).waitForExit handle limit) w
      (fun waited w₁ => Agrees m handle.pid w₁ ∧ (waited = .exited → Noted handle.pid w₁))
      (fun _ => Agrees m handle.pid) fun _ => Agrees m handle.pid := by
  have started := (deadline_kept _ c.inquiring limit).keeps fun w₁ hw₁ => h.kept hw₁
  refine waitForExit_of_looks hung looks started fun d w₁ hw₁ => ?_
  refine (look_yields c d hw₁).mono (fun ending w₂ hw₂ => ?_) fun _ w₂ hw₂ => hw₂
  obtain ⟨agrees, known⟩ := hw₂
  cases ending with
  | none => exact agrees
  | some ending =>
    cases ending with
    | ok waited => exact ⟨agrees, fun exited => known (by rw [exited])⟩
    | error e => exact agrees

/-! ## The attempt -/

lemma desktop_exitCode (c : ProcessCalls κ σ) (handle : Handle) :
    (desktop c hung looks).exitCode handle = (do
      let w ← Try.world
      pure (w.exitCodes handle.pid).join) := rfl

/-- The exit code that is answered is what was seen of the process while it was open, and not what
was kept from before. -/
lemma whileOpen_yields {handle : Handle} (t : QuitTarget) (limit : Option Duration)
    (found : Located) (h : Agrees m handle.pid w) :
    Try.Yields (t.whileOpen (desktop c.inquiring hung looks) limit found handle) w
      (fun code w₁ => Agrees m handle.pid w₁ ∧ LastSeen handle.pid code w₁.outside.calls)
      (fun _ => Agrees m handle.pid) fun _ => Agrees m handle.pid := by
  have posted : (QuitTarget.postAll (desktop c.inquiring hung looks) t.message
      found.recipients).Respects (Kept (·.erase handle.pid)) :=
    (QuitTarget.postAll_tracks fun window _ =>
      (postQuit_kept _ c.inquiring hung looks window t.message).tracks).respects
  unfold QuitTarget.whileOpen
  rw [Try.yields_bind, Try.yields_monadLift]
  refine (posted.yields w).imp (fun _ w₁ hw₁ => ?_) (fun _ w₁ hw₁ => h.kept hw₁)
    fun _ _ _ => trivial
  rw [Try.yields_bind, Try.yields_log, Try.yields_bind, Try.yields_mapError]
  refine (waitForExit_yields c hung looks limit (h.kept hw₁)).mono (fun waited w₂ hw₂ => ?_)
    (fun _ w₂ hw₂ => hw₂) fun _ w₂ hw₂ => hw₂
  obtain ⟨agrees, known⟩ := hw₂
  cases waited with
  | timedOut => exact agrees
  | exited =>
    obtain ⟨code, kept, seen⟩ := known rfl
    dsimp only
    rw [Try.yields_bind, Try.yields_mapError, desktop_exitCode, Try.yields_bind, Try.yields_world,
      Try.yields_pure, Try.yields_bind, Try.yields_log, Try.yields_pure, kept]
    exact ⟨agrees, seen⟩

end Wait

/-! ## The calls -/

section Calls

open Recorded (Adds)

variable {c : ProcessCalls κ σ} {hung : κ} {looks : ℕ} {t : QuitTarget} {limit : Option Duration}
  {m : ExitCodes} {s : σ} {pid : ProcessId} {calls l : List Desktop.Call}

/-- A desktop, and the questions it asks of the system, with a record of each. -/
abbrev Told (σ : Type) : Type := Recorded Desktop.Call (World (Recorded Inquiry σ))

/-- The window of the process was found for the instance that `t` stands for. -/
def Found (t : QuitTarget) (pid : ProcessId) (calls : List Desktop.Call) : Prop :=
  Desktop.Call.findWindow t.instancePattern (some (some (windowOf pid))) ∈ calls

lemma Found.adds {C : Desktop.Call → Prop} {w w₁ : Told σ} (h : Found t pid w.calls)
    (hw₁ : Adds C w w₁) : Found t pid w₁.calls := by
  obtain ⟨l, hl, -⟩ := hw₁
  rw [hl]
  exact List.mem_append_left l h

/-- The process that is located is the one whose window was `Found`, and no process has been opened
so far. -/
lemma locate_found (w : Told σ) :
    Try.Yields (locate (desktop c.inquiring hung looks).recorded t) w
      (fun found w₁ => Found t found.owner w₁.calls) (fun _ _ => True) fun _ _ => True := by
  have looking := (desktop c.inquiring hung looks).recorded_tracksLooks
  unfold QuitTarget.locate
  rw [Try.yields_bind, Try.yields_monadLift, Desktop.recorded_findWindow, Act.yields_recorded]
  refine Act.Yields.anyway (fun found s => ?_) fun _ _ => trivial
  cases found with
  | none => trivial
  | some window =>
    dsimp only
    rw [Try.yields_bind, Try.yields_mapError, Desktop.recorded_windowOwner, Try.yields_recorded,
      desktop_windowOwner, Try.yields_ofExcept, windowOwner]
    cases howner : processOf? window with
    | none => trivial
    | some pid =>
      obtain rfl := windowOf_of_processOf? howner
      dsimp only
      rw [Try.yields_bind, Try.yields_monadLift]
      refine ((looking.threadWindows ⟨pid.number⟩).respects.yields _).imp
        (fun windows w₁ hw₁ => ?_) (fun _ _ _ => trivial) fun _ _ _ => trivial
      rw [Try.yields_bind, Try.yields_monadLift]
      refine ((QuitTarget.accepted_tracks looking t.recipients windows).respects.yields _).imp
        (fun recipients w₂ hw₂ => ?_) (fun _ _ _ => trivial) fun _ _ _ => trivial
      rw [Try.yields_pure]
      refine Found.adds (Found.adds ?_ hw₁) hw₂
      exact List.mem_append_left _ (List.mem_append_right _ (List.mem_singleton_self _))

lemma not_opens_of_looks (h : ∀ call ∈ calls, call.IsLook) : ¬Opens pid calls :=
  fun ⟨_, hmem⟩ => h _ hmem

lemma opens_iff {looked uses : List Desktop.Call} {handle : Handle} {owner : ProcessId}
    (hl : ∀ call ∈ looked, call.IsLook) (hu : ∀ call ∈ uses, call.Uses handle) :
    Opens pid (looked ++ .openProcess owner (some handle) :: uses ++ [.closeProcess handle]) ↔
      pid = owner := by
  constructor
  · rintro ⟨other, hmem⟩
    simp only [List.mem_append, List.mem_cons, List.not_mem_nil, or_false] at hmem
    obtain (looked | opened | used) | closed := hmem
    · exact (hl _ looked).elim
    · cases opened
      rfl
    · exact (hu _ used).elim
    · cases closed
  · rintro rfl
    exact ⟨handle, by simp⟩

/-- The exit codes are those of `m`, without that of the process that was opened, if one was opened.
-/
structure Closed (t : QuitTarget) (m : ExitCodes) (w : Told σ) : Prop where
  unopened : (∀ pid, ¬Opens pid w.calls) → w.world.exitCodes = m
  opened : ∀ pid, Opens pid w.calls → Found t pid w.calls ∧ w.world.exitCodes = m.erase pid

lemma Closed.of_unopened {w : Told σ} (h : ∀ pid, ¬Opens pid w.calls)
    (kept : w.world.exitCodes = m) : Closed t m w :=
  ⟨fun _ => kept, fun pid opened => absurd opened (h pid)⟩

/-- The exit code was seen of the process that was opened, when it was asked after for the last
time. -/
def Seen (code : Option Int) (w : Told σ) : Prop :=
  ∃ pid, Opens pid w.calls ∧ LastSeen pid code w.world.outside.calls

lemma openProcess_yields (w : World (Recorded Inquiry σ)) (owner : ProcessId) :
    Try.Yields ((desktop c.inquiring hung looks).openProcess owner) w
      (fun handle w₁ => handle.pid = owner ∧ w₁.exitCodes = w.exitCodes)
      (fun _ w₁ => w₁.exitCodes = w.exitCodes) fun _ w₁ => w₁.exitCodes = w.exitCodes := by
  have kept : Try.Respects (Kept id) (calling "kill" (c.inquiring.probe (rawPid owner))) :=
    calling_kept id _ _
  show Try.Yields (calling "kill" (c.inquiring.probe (rawPid owner)) >>= fun _ => pure _) w _ _ _
  rw [Try.yields_bind]
  exact (kept.yields w).imp (fun _ w₁ hw₁ => ⟨rfl, hw₁⟩) (fun _ _ hw₁ => hw₁) (fun _ _ hw₁ => hw₁)
    fun _ _ _ => trivial

/-- Closing the process takes its exit code away, and then the exit codes are `Closed`. -/
lemma closeProcess_yields {looked : List Desktop.Call} {handle : Handle}
    (hl : ∀ call ∈ looked, call.IsLook) (hfound : Found t handle.pid looked)
    {w : Told σ} {w₁ : World (Recorded Inquiry σ)} (agrees : Agrees m handle.pid w.world)
    (used : Adds (Desktop.Call.Uses handle)
      ⟨looked ++ [.openProcess handle.pid (some handle)], w₁⟩ w) :
    ((desktop c.inquiring hung looks).recorded.closeProcess handle).Yields w
      (fun _ w₂ => Closed t m w₂ ∧
        (∀ code, LastSeen handle.pid code w.world.outside.calls → Seen code w₂))
      fun _ => Closed t m := by
  obtain ⟨uses, hcalls, hu⟩ := used
  have shape : w.calls ++ [.closeProcess handle] =
      looked ++ .openProcess handle.pid (some handle) :: uses ++ [.closeProcess handle] := by
    simp [hcalls]
  rw [Desktop.recorded_closeProcess, Act.yields_recorded]
  show Act.Yields (note fun m => m.erase handle.pid) w.world _ _
  rw [note, Act.yields_update, shape]
  refine ⟨⟨fun none => ?_, fun pid opened => ?_⟩, fun code seen => ?_⟩
  · exact absurd ((opens_iff hl hu).2 rfl) (none handle.pid)
  · obtain rfl := (opens_iff hl hu).1 opened
    refine ⟨?_, agrees⟩
    rw [List.append_assoc]
    exact List.mem_append_left _ hfound
  · exact ⟨handle.pid, (opens_iff hl hu).2 rfl, seen⟩

lemma openAndClose_yields {found : Located} {w : Told σ}
    (hl : ∀ call ∈ w.calls, call.IsLook) (hfound : Found t found.owner w.calls)
    (kept : w.world.exitCodes = m) :
    Try.Yields
      (do
        let handle ← Try.mapError QuitError.os
          ((desktop c.inquiring hung looks).recorded.openProcess found.owner)
        ExceptT.mk (Act.ensuring
          (whileOpen (desktop c.inquiring hung looks).recorded t limit found handle).run
          ((desktop c.inquiring hung looks).recorded.closeProcess handle)))
      w (fun code w₁ => Closed t m w₁ ∧ Seen code w₁) (fun _ => Closed t m)
      fun _ => Closed t m := by
  have unopened : ∀ w₁ : World (Recorded Inquiry σ), w₁.exitCodes = w.world.exitCodes →
      Closed t m ⟨w.calls ++ [.openProcess found.owner none], w₁⟩ := by
    intro w₁ hw₁
    refine .of_unopened (fun pid opened => ?_) (hw₁.trans kept)
    obtain ⟨handle, hmem⟩ := opened
    obtain looked | failed := List.mem_append.1 hmem
    · exact hl _ looked
    · cases List.mem_singleton.1 failed
  rw [Try.yields_bind, Try.yields_mapError, Desktop.recorded_openProcess, Try.yields_recorded]
  refine (openProcess_yields w.world found.owner).mono (fun handle w₁ hw₁ => ?_)
    (fun _ w₁ hw₁ => unopened w₁ hw₁) fun _ w₁ hw₁ => unopened w₁ hw₁
  obtain ⟨same, unchanged⟩ := hw₁
  rw [← same] at hfound ⊢
  have agrees : Agrees m handle.pid w₁ := by
    rw [Agrees, unchanged, kept]
  have tracked :=
    QuitTarget.whileOpen_recorded (desktop c.inquiring hung looks) t limit found handle
  have used := (tracked.toOver.yields
    (w := ⟨w.calls ++ [.openProcess handle.pid (some handle)], w₁⟩)
    (whileOpen_yields c hung looks t limit found agrees)).and (tracked.respects.yields _)
  rw [Try.yields_mk, Act.yields_ensuring, Try.yields_run]
  refine used.mono (fun code w₂ hw₂ => ?_) (fun e w₂ hw₂ => ?_) fun message w₂ hw₂ => ?_
  · obtain ⟨⟨agrees, seen⟩, adds⟩ := hw₂
    exact (closeProcess_yields hl hfound agrees adds).mono
      (fun _ w₃ hw₃ => ⟨hw₃.1, hw₃.2 code seen⟩) fun _ _ closed => closed
  · exact (closeProcess_yields hl hfound hw₂.1 hw₂.2).mono (fun _ w₃ hw₃ => hw₃.1)
      fun _ _ closed => closed
  · exact (closeProcess_yields hl hfound hw₂.1 hw₂.2).mono (fun _ w₃ hw₃ => hw₃.1)
      fun _ _ _ => trivial

lemma quit_yields {w : Told σ} (hl : ∀ call ∈ w.calls, call.IsLook)
    (kept : w.world.exitCodes = m) :
    Try.Yields (quit (desktop c.inquiring hung looks).recorded t limit) w
      (fun code w₁ => Closed t m w₁ ∧ Seen code w₁) (fun _ => Closed t m)
      fun _ => Closed t m := by
  have tracked := QuitTarget.locate_recorded (desktop c.inquiring hung looks) t
  have leaves := (QuitTarget.locate_tracks (looks_kept id c.inquiring hung looks) t).respects
  -- Looking for the instance adds looks to the calls and leaves the exit codes alone.
  have looked : ∀ w₁ : Told σ, Adds Desktop.Call.IsLook w w₁ → Kept id w.world w₁.world →
      (∀ call ∈ w₁.calls, call.IsLook) ∧ w₁.world.exitCodes = m := by
    rintro w₁ ⟨l, hcalls, hlooks⟩ hkept
    refine ⟨fun call hmem => ?_, hkept.trans kept⟩
    rw [hcalls] at hmem
    exact (List.mem_append.1 hmem).elim (hl call) (hlooks call)
  have unopened : ∀ w₁ : Told σ, Adds Desktop.Call.IsLook w w₁ → Kept id w.world w₁.world →
      Closed t m w₁ :=
    fun w₁ adds hkept => .of_unopened (fun pid => not_opens_of_looks (looked w₁ adds hkept).1)
      (looked w₁ adds hkept).2
  have located := ((tracked.toOver.yields (leaves.yields w.world)).and
    (tracked.respects.yields w)).and (locate_found w)
  unfold QuitTarget.quit
  rw [Try.yields_bind]
  refine located.imp (fun found w₁ hw₁ => ?_) (fun _ w₁ hw₁ => unopened w₁ hw₁.1.2 hw₁.1.1)
    (fun _ w₁ hw₁ => unopened w₁ hw₁.1.2 hw₁.1.1) fun _ _ _ => trivial
  obtain ⟨⟨hkept, adds⟩, hfound⟩ := hw₁
  obtain ⟨hlooks, codes⟩ := looked w₁ adds hkept
  rw [Try.yields_ite]
  split
  · rw [Try.yields_bind, Try.yields_log]
    exact openAndClose_yields hlooks hfound codes
  · exact openAndClose_yields hlooks hfound codes

end Calls

/-- **The exit codes that are kept.**  Whatever the system answers, and whatever exit codes are kept
from before: if an attempt to make an application leave comes to an end, these exit codes are as
they were if it did not open a process, and otherwise they lack that of the process it opened, which
is the one whose window was found.  The exit code it answers is what was seen in this very attempt
when the process was asked after for the last time. -/
theorem quit_exitCodes (c : ProcessCalls κ σ) (hung : κ) (looks : ℕ) (t : QuitTarget)
    (limit : Option Duration) (m : ExitCodes) (s : σ) :
    let plain := (t.quit (desktop c hung looks) limit).run ⟨m, s⟩
    let told := (t.quit (desktop c.inquiring hung looks).recorded limit).run ⟨[], m, [], s⟩
    told.outcome = plain.outcome ∧ told.world.world.exitCodes = plain.world.exitCodes ∧
      ((∀ reason, plain.outcome ≠ .stopped reason) →
        ((∀ pid, ¬Opens pid told.world.calls) → plain.world.exitCodes = m) ∧
        (∀ pid, Opens pid told.world.calls →
          Desktop.Call.findWindow t.instancePattern (some (some (windowOf pid))) ∈
              told.world.calls ∧
            plain.world.exitCodes = m.erase pid) ∧
        ∀ code, plain.outcome = .returned (.ok code) → ∃ pid, Opens pid told.world.calls ∧
          LastSeen pid code told.world.world.outside.calls) := by
  intro plain told
  have inner := inquiring_over c hung looks t limit
  have outer := QuitTarget.quit_over (desktop c.inquiring hung looks) t limit
  have outcome : told.outcome = plain.outcome :=
    (outer.outcome_eq ⟨[], m, [], s⟩).trans (inner.outcome_eq ⟨m, [], s⟩)
  have codes : told.world.world.exitCodes = plain.world.exitCodes :=
    (congrArg World.exitCodes (outer.world_eq ⟨[], m, [], s⟩)).trans
      (congrArg World.exitCodes (inner.world_eq ⟨m, [], s⟩))
  refine ⟨outcome, codes, fun back => ?_⟩
  rw [← outcome] at back ⊢
  rw [← codes]
  have yields : Try.Yields (quit (desktop c.inquiring hung looks).recorded t limit)
      (⟨[], m, [], s⟩ : Told σ) (fun code w₁ => Closed t m w₁ ∧ Seen code w₁)
      (fun _ => Closed t m) fun _ => Closed t m := quit_yields (fun _ => nofun) rfl
  have ended := Act.Yields.ends_of_back
    (Q := fun out w₁ => Closed t m w₁ ∧ ∀ code, out = .returned (.ok code) → Seen code w₁)
    (Try.yields_run.2 (yields.mono
      (fun code w₁ hw₁ => ⟨hw₁.1, fun other same => by cases same; exact hw₁.2⟩)
      (fun _ w₁ closed => ⟨closed, nofun⟩) fun _ w₁ closed => ⟨closed, nofun⟩)) back
  exact ⟨ended.1.unopened, ended.1.opened, ended.2⟩

/-- A system with one process, which is ended by the signal it is asked to terminate with. -/
def terminating : ProcessCalls Unit Unit :=
  { Browser.frozen "12 S app\n" with poll := fun _ => pure (.killed 15) }

/-- The exit codes of an earlier process with the same number and of another process. -/
def stale : ExitCodes := (ExitCodes.empty.insert ⟨12⟩ (some 7)).insert ⟨30⟩ (some 5)

/-- The exit code of the earlier process is neither answered nor kept. -/
theorem terminating_exitCodes :
    let ran := (quit (desktop terminating () 1) ⟨⟨"app", none⟩, .exactly "app", .appQuit⟩ none).run
      ⟨stale, ()⟩
    ran.outcome = .returned (.ok (some 143)) ∧ ran.world.exitCodes = stale.erase ⟨12⟩ := by
  have answered : ((quit (desktop terminating () 1) ⟨⟨"app", none⟩, .exactly "app", .appQuit⟩
      none).run ⟨stale, ()⟩).outcome = .returned (.ok (some 143)) :=
    Outcome.value?_eq_some.1 (by decide +kernel)
  obtain ⟨-, -, after⟩ := quit_exitCodes terminating () 1
    ⟨⟨"app", none⟩, .exactly "app", .appQuit⟩ none stale ()
  obtain ⟨-, opened, -⟩ := after fun reason stopped => by
    rw [answered] at stopped
    cases stopped
  exact ⟨answered, (opened ⟨12⟩ ⟨⟨12, ⟨12⟩⟩, by decide +kernel⟩).2⟩

end ProcessTable

end StartupBench
