import StartupBench.Proofs.Bench.Chronicle
import StartupBench.Proofs.Quit.Handles
import StartupBench.Proofs.Runner.Outline

/-!
# When a run of a benchmark comes to its end

What is said of the end of a run asks that the run comes to its end (`Bench.Survives`).  Two things
can prevent that.  A collaborator may keep control for good, and this is excluded by
`Bench.Returns`: the collaborators may answer anything, fail and panic, but control comes back from
every call of them.  And the process may be aborted, when a release that runs during a panic panics
itself (`Stop.aborted`).

## Releases

A benchmark registers two releases only.  The handle of a process is closed when the process is not
needed any more (`QuitTarget.quit`), and the benchmark is torn down when its run is let go of
(`Runner.life`).  So a run comes to its end if neither of them panics (`Bench.survives_of_calm`),
whatever else does.

The lemmas of `Bench.Returns` that are named after the steps of a run walk along these steps; those
that may ask the application to leave rest on such an attempt to come back.  That is a premise here
and not a consequence, since it is so for two reasons: closing a process never panics
(`QuitTarget.quit_returns`), or nothing that is done while the process is open does
(`QuitTarget.quit_returns_of_opened`).
-/

namespace StartupBench

variable {κ σ α : Type}

/-! ## Calls that come back -/

namespace Bench

/-- Control comes back from every collaborator (`Act.Returns`), in the benchmark as well as beside
it. -/
structure Returns (b : Bench κ σ) (d : Drive κ σ) : Prop where
  call : ∀ a, (b.call a).Returns
  interrupted : d.interrupted.Returns
  sleep : ∀ time, (d.sleep time).Returns

lemma asking_returns {x : Act κ σ α} (h : x.Returns) : (asking x).Returns := h.within

lemma trying_returns {ε : Type} {x : Try κ σ ε α} (h : Try.Returns x) :
    Try.Returns (trying x) := h.within

lemma tryingIo_returns {x : Try κ σ IoError α} (h : Try.Returns x) :
    Try.Returns (tryingIo x) := (trying_returns h).mapError

lemma note_returns (f : State → State) : (note f : Act κ (World σ) Unit).Returns := .update _

lemma stateOf_returns (f : State → α) : (stateOf f : Act κ (World σ) α).Returns := .reading _

end Bench

/-- Waiting for an application comes back if the looks, the questions to the user and the pauses do.
-/
lemma Patience.await_returns (p : Patience) {isRunning interrupted : Act κ σ Bool}
    {sleep : Duration → Act κ σ Unit} (looks : isRunning.Returns) (asks : interrupted.Returns)
    (sleeps : ∀ time, (sleep time).Returns) :
    Try.Returns (p.await isRunning interrupted sleep) := by
  have look (done : Nat) : (p.look isRunning interrupted sleep done).Returns := by
    unfold Patience.look
    refine looks.bind fun seen => .ite ((Act.Returns.log _ _ _ _).bind fun _ => .pure _) ?_
    exact asks.bind fun stop => .ite (.pure _) ((sleeps _).bind fun _ => .pure _)
  exact (Act.Returns.first look p.looks 0).bind fun _ => .pure _

lemma Prefetch.removeAll_returns {files : FileSystem κ σ}
    (remove : ∀ path, Try.Returns (files.removeFile path)) (directory : Path)
    (names : List RawText) : Try.Returns (removeAll files directory names) := by
  induction names with
  | nil => exact .pure ()
  | cons name rest ih => exact (remove _).bind fun _ => ih

lemma Prefetch.purge_returns {files : FileSystem κ σ}
    (list : ∀ path, Try.Returns (files.list path))
    (remove : ∀ path, Try.Returns (files.removeFile path)) (directory : Path)
    (executable : String) : Try.Returns (purge files directory executable) := by
  unfold purge
  refine (list directory).attempt.bind fun out => ?_
  split
  · exact .pure 0
  · exact .fail _
  · refine (Try.Returns.log _ _ _ _).bind fun _ => ?_
    exact (removeAll_returns remove directory _).bind fun _ => .pure _

/-! ## The steps of a run -/

namespace Bench.Returns

section Steps

variable {b : Bench κ σ} {d : Drive κ σ} (h : b.Returns d)
include h

lemma desktop : b.browser.desktop.Returns where
  findWindow p := h.call (.findWindow p)
  windowOwner w := h.call (.windowOwner w)
  threadWindows t := h.call (.threadWindows t)
  className w := h.call (.className w)
  openProcess pid := h.call (.openProcess pid)
  postQuit w m := h.call (.postQuit w m)
  waitForExit handle limit := h.call (.waitForExit handle limit)
  exitCode handle := h.call (.exitCode handle)
  closeProcess handle := h.call (.closeProcess handle)

lemma isRunning : b.isRunning.Returns := by
  unfold Bench.isRunning Browser.isRunning
  exact (h.desktop.findWindow _).bind fun _ => .pure _

lemma purgePrefetch : Try.Returns b.purgePrefetch := by
  unfold Bench.purgePrefetch
  split
  · exact (Prefetch.purge_returns (fun p => h.call (.listFiles p))
      (fun p => h.call (.removeFile p)) _ _).mapError.bind fun _ => .pure ()
  · exact .pure ()

lemma prepare : Try.Returns b.prepare := by
  unfold Bench.prepare
  refine (Try.Returns.lift (stateOf_returns _)).bind fun temporary => ?_
  cases temporary with
  | none => exact .fail _
  | some directory =>
    refine (trying_returns (h.call (.startTrace directory))).bind fun files => ?_
    exact (Try.Returns.lift (note_returns _)).bind fun _ => trying_returns h.purgePrefetch

lemma launch : Try.Returns b.launch := by
  unfold Bench.launch
  cases b.launchCommand with
  | error e => exact .fail _
  | ok command =>
    refine (Try.Returns.pure command).bind fun command => ?_
    refine (trying_returns (h.call (.launch command))).bind fun _ => ?_
    exact .lift (note_returns _)

lemma work : Try.Returns b.work := by
  unfold Bench.work
  refine (Try.Returns.log _ _ _ _).bind fun _ => ?_
  exact (Try.Returns.lift (h.call (.settle _))).bind fun stop => .ite (.fail _) (.pure ())

omit h in
lemma record (metrics : List Metric) : Try.Returns (b.record metrics) := by
  induction metrics with
  | nil => exact .pure ()
  | cons m rest ih =>
    refine Try.Returns.bind (.within ?_) fun _ => ih
    unfold Ledger.add
    refine (Try.Returns.lift (.of_returned fun _ => ⟨(), rfl⟩)).bind fun _ => ?_
    refine (Try.Returns.lift (.of_returned fun l => ⟨_, rfl⟩)).bind fun series => ?_
    exact .ite (.fail _) (.of_returned fun l => ⟨_, rfl⟩)

lemma conclude : Try.Returns b.conclude := by
  unfold Bench.conclude
  refine (Try.Returns.lift (note_returns _)).bind fun _ => ?_
  refine (trying_returns (h.call .stopTrace)).bind fun _ => ?_
  refine Try.Returns.bind ?_ fun _ => trying_returns h.purgePrefetch
  unfold Bench.analyze
  refine (Try.Returns.lift (stateOf_returns _)).bind fun kernelFile => ?_
  refine (Try.Returns.lift (note_returns _)).bind fun _ => ?_
  cases kernelFile with
  | none => exact .pure ()
  | some file => exact (trying_returns (h.call (.analyze file _))).bind record

lemma processResults : Try.Returns b.processResults := by
  have lines (l : List String) : Try.Returns (b.writeLines l) := by
    induction l with
    | nil => exact .pure ()
    | cons line rest ih => exact Try.Returns.bind (h.call (.write _)) fun _ => ih
  unfold Bench.processResults
  refine (Try.Returns.lift (stateOf_returns _)).bind fun ledger => ?_
  exact (tryingIo_returns (lines _)).bind fun _ => tryingIo_returns (h.call .flush)

lemma discardTemporary (directory : Option Path) : (b.discardTemporary directory).Returns := by
  cases directory with
  | none => exact .pure ()
  | some path => exact Act.Returns.bind (h.call (.removeDirectory path)) fun _ => .pure ()

end Steps

/-! ## The steps that may ask the application to leave -/

section Quits

variable {b : Bench κ σ} {d : Drive κ σ} (h : b.Returns d) (quits : Try.Returns b.quit)
include h quits

lemma quitStale : Try.Returns b.quitStale := by
  unfold Bench.quitStale
  refine (Try.Returns.lift h.isRunning).bind fun running => .ite ?_ (.pure ())
  refine (Try.Returns.log _ _ _ _).bind fun _ => ?_
  refine quits.attempt.bind fun out => ?_
  split
  · exact .log _ _ _ _
  · exact .pure ()
  · exact .fail _

lemma createProfile : Try.Returns b.createProfile := by
  unfold Bench.createProfile
  refine (Try.Returns.log _ _ _ _).bind fun _ => ?_
  dsimp only
  split
  · refine (trying_returns (h.call (.launch _))).bind fun _ => ?_
    refine (Try.Returns.lift (note_returns _)).bind fun _ => ?_
    refine (trying_returns (Patience.await_returns _ h.isRunning (h.call .interrupted)
      fun time => h.call (.sleep time))).bind fun _ => ?_
    exact (trying_returns quits).bind fun _ => .lift (note_returns _)
  · exact (trying_returns (h.call (.run _))).bind fun _ => .log _ _ _ _

lemma setUp : Try.Returns b.setUp := by
  have erase : b.eraseProfile.Returns := by
    unfold Bench.eraseProfile
    refine Act.Returns.bind (h.call (.removeDirectory _)) fun out => ?_
    split
    · exact .log _ _ _ _
    · exact .pure ()
    · exact .log _ _ _ _
  have override : Try.Returns b.overridePreload := by
    unfold Bench.overridePreload
    refine (trying_returns (h.call .loadPreload)).bind fun before => ?_
    refine (Try.Returns.log _ _ _ _).bind fun _ => ?_
    exact (Try.Returns.lift (note_returns _)).bind fun _ =>
      trying_returns (h.call (.storePreload _))
  have make : Try.Returns b.makeTemporary := by
    unfold Bench.makeTemporary
    refine (tryingIo_returns (h.call (.makeTemporary _))).bind fun path => ?_
    refine (Try.Returns.log _ _ _ _).bind fun _ => ?_
    refine (Try.Returns.lift (stateOf_returns _)).bind fun before => ?_
    refine (Try.Returns.lift (note_returns _)).bind fun _ => ?_
    exact .lift (asking_returns (h.discardTemporary before))
  have create : Try.Returns
      (do
        if !(← Try.lift (asking (b.files.isDirectory b.settings.profile))) then b.createProfile
        b.overridePreload
        b.makeTemporary) := by
    refine (Try.Returns.lift (asking_returns (h.call (.isDirectory _)))).bind fun there => ?_
    refine .ite ?_ (override.bind fun _ => make)
    exact (h.createProfile quits).bind fun _ => override.bind fun _ => make
  unfold Bench.setUp
  refine (trying_returns (h.quitStale quits)).bind fun _ => .ite ?_ create
  exact (Try.Returns.lift (asking_returns erase)).bind fun _ => create

lemma shutDown : Try.Returns b.shutDown := by
  unfold Bench.shutDown
  refine (Try.Returns.log _ _ _ _).bind fun _ => ?_
  exact (trying_returns quits).bind fun _ => .lift (note_returns _)

lemma tearDown : b.tearDown.Returns := by
  have stopTrace : b.stopTrace.Returns := by
    unfold Bench.stopTrace
    refine (stateOf_returns _).bind fun tracing => .ite ?_ (.pure ())
    refine (note_returns _).bind fun _ => ?_
    refine (asking_returns (h.call .stopTrace)).bind fun out => ?_
    split
    · exact .log _ _ _ _
    · exact .pure ()
  have quitLaunched : b.quitLaunched.Returns := by
    have forget : (note fun s => { s with launched := false } : Act κ (World σ) Unit).Returns :=
      note_returns _
    unfold Bench.quitLaunched
    refine (stateOf_returns _).bind fun launched => .ite ?_ forget
    refine (asking_returns h.isRunning).bind fun running => .ite ?_ forget
    refine (Act.Returns.log _ _ _ _).bind fun _ => ?_
    refine (asking_returns quits).bind fun out => ?_
    split
    · exact (Act.Returns.log _ _ _ _).bind fun _ => forget
    · exact forget
  have restorePreload : b.restorePreload.Returns := by
    unfold Bench.restorePreload
    refine (stateOf_returns _).bind fun saved => (note_returns _).bind fun _ => ?_
    split
    · refine (asking_returns (h.call (.storePreload _))).bind fun out => ?_
      split <;> exact .log _ _ _ _
    · exact .pure ()
  have leaveTemporary : b.leaveTemporary.Returns := by
    unfold Bench.leaveTemporary
    refine (stateOf_returns _).bind fun temporary => (note_returns _).bind fun _ => ?_
    split
    · refine .ite (.log _ _ _ _) ((Act.Returns.log _ _ _ _).bind fun _ => ?_)
      refine (asking_returns (h.call (.removeDirectory _))).bind fun out => ?_
      split
      · exact .log _ _ _ _
      · exact .pure ()
    · exact .pure ()
  unfold Bench.tearDown
  refine stopTrace.bind fun _ => quitLaunched.bind fun _ => ?_
  exact restorePreload.bind fun _ => leaveTemporary

/-- All calls of a run come back (`Runner.Returns`), so that the results about runners apply to it.
-/
lemma driven : (b.driven d).Returns where
  setUp := h.setUp quits
  prepare _ := h.prepare
  launch := h.launch
  isRunning := asking_returns h.isRunning
  work _ := trying_returns h.work
  shutDown := h.shutDown quits
  conclude _ := h.conclude
  processResults := h.processResults
  tearDown := h.tearDown quits
  interrupted := asking_returns h.interrupted
  sleep time := asking_returns (h.sleep time)

end Quits

end Bench.Returns

/-! ## Runs -/

namespace Bench

/-- **When a run comes to its end.**  The collaborators may answer anything, fail and panic; if
control comes back from each of them (`Bench.Returns`) and neither closing a process nor tearing
down panics, then a run of the benchmark always comes to its end, and its process is not aborted. -/
theorem survives_of_calm {b : Bench κ σ} {d : Drive κ σ} (returns : b.Returns d)
    (closing : ∀ handle, (b.browser.desktop.closeProcess handle).Calm) (calm : b.tearDown.Calm)
    (progress : Option Progress) (w : σ) : b.Survives d progress w :=
  (returns.driven (.mapError (QuitTarget.quit_returns returns.desktop closing _ _))).life calm _

end Bench

end StartupBench
