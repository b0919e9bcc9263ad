import StartupBench.Bench.Basic
import StartupBench.Proofs.Act.Panics

/-!
# The panics of a shutdown and of a tear-down

To ask a browser to quit (`Browser.quit`), and to give back what a benchmark has acquired
(`Bench.tearDown`), is to make calls of the collaborators, one after the other, and every panic of
the whole is one of a call.  The desktop is asked to wait with the limit of the settings only, so
that only these waits count.

`Desktop.PanicsIn` and `Bench.PanicsIn` say which messages the panics of the collaborators may have;
the lemmas below pass this on to what is made of their calls, by the rules for `Act.PanicsIn`.  With
an empty set of messages they say that nothing panics, which is what a tear-down during a panic
depends on; with a message in it they find out which waits can panic (`System.deadlines_of_config`).
-/

namespace StartupBench

variable {κ σ : Type} {P : String → Prop} {limit : Option Duration}

/-! ## Asking to quit -/

/-- Every panic in the use of an open process has a message in `P`, if the desktop is asked to wait
for the time `limit`. -/
structure Desktop.UsesPanicIn (P : String → Prop) (limit : Option Duration) (d : Desktop κ σ) :
    Prop where
  postQuit : ∀ w m, Try.PanicsIn P (d.postQuit w m)
  waitForExit : ∀ handle, Try.PanicsIn P (d.waitForExit handle limit)
  exitCode : ∀ handle, Try.PanicsIn P (d.exitCode handle)

/-- Every panic of the desktop has a message in `P`, if it is asked to wait for the time `limit`. -/
structure Desktop.PanicsIn (P : String → Prop) (limit : Option Duration) (d : Desktop κ σ) : Prop
    extends d.UsesPanicIn P limit where
  findWindow : ∀ p, (d.findWindow p).PanicsIn P
  windowOwner : ∀ w, Try.PanicsIn P (d.windowOwner w)
  threadWindows : ∀ t, (d.threadWindows t).PanicsIn P
  className : ∀ w, (d.className w).PanicsIn P
  openProcess : ∀ pid, Try.PanicsIn P (d.openProcess pid)
  closeProcess : ∀ handle, (d.closeProcess handle).PanicsIn P

namespace QuitTarget

section Uses

variable {d : Desktop κ σ} (h : d.UsesPanicIn P limit)
include h

lemma postAll_panicsIn (message : QuitMessage) (windows : List WindowId) :
    (postAll d message windows).PanicsIn P := by
  induction windows with
  | nil => exact .pure ()
  | cons w rest ih =>
    unfold postAll
    refine (h.postQuit w message).result.bind fun out => ?_
    cases out with
    | ok _ => exact ih
    | error e => exact (Act.PanicsIn.log _ _ _ _).bind fun _ => ih

lemma whileOpen_panicsIn (t : QuitTarget) (found : Located) (handle : Handle) :
    Try.PanicsIn P (whileOpen d t limit found handle) := by
  unfold whileOpen
  refine .bind (.lift (postAll_panicsIn h _ _)) fun _ => ?_
  refine (Try.PanicsIn.log _ _ _ _).bind fun _ => ?_
  refine (Try.PanicsIn.mapError (h.waitForExit handle)).bind fun waited => ?_
  cases waited with
  | timedOut => exact .fail _
  | exited =>
    refine (Try.PanicsIn.mapError (h.exitCode handle)).bind fun code => ?_
    exact (Try.PanicsIn.log _ _ _ _).bind fun _ => .pure _

end Uses

variable {d : Desktop κ σ} (h : d.PanicsIn P limit)
include h

lemma accepted_panicsIn (rule : ClassRule) (windows : List WindowId) :
    (accepted d rule windows).PanicsIn P := by
  induction windows with
  | nil => exact .pure []
  | cons w rest ih =>
    unfold accepted
    exact (h.className w).bind fun _ => ih.bind fun _ => .pure _

lemma locate_panicsIn (t : QuitTarget) : Try.PanicsIn P (locate d t) := by
  unfold locate
  refine .bind (.lift (h.findWindow _)) fun found => ?_
  cases found with
  | none => exact .fail _
  | some window =>
    refine (Try.PanicsIn.mapError (h.windowOwner window)).bind fun owner => ?_
    refine (Try.PanicsIn.lift (h.threadWindows _)).bind fun windows => ?_
    exact (Try.PanicsIn.lift (accepted_panicsIn h t.recipients windows)).bind fun _ => .pure _

lemma quit_panicsIn (t : QuitTarget) : Try.PanicsIn P (quit d t limit) := by
  have opened (found : Located) : Try.PanicsIn P
      (do
        let handle ← Try.mapError QuitError.os (d.openProcess found.owner)
        ExceptT.mk (Act.ensuring (whileOpen d t limit found handle).run
          (d.closeProcess handle))) := by
    refine (Try.PanicsIn.mapError (h.openProcess _)).bind fun handle => ?_
    exact (whileOpen_panicsIn h.toUsesPanicIn t found handle).ensuring (h.closeProcess handle)
  unfold quit
  refine (locate_panicsIn h t).bind fun found => ?_
  exact .ite ((Try.PanicsIn.log _ _ _ _).bind fun _ => opened found) (opened found)

end QuitTarget

/-! ## Giving back what was acquired -/

namespace Bench

variable {α ε : Type}

lemma asking_panicsIn {x : Act κ σ α} (h : x.PanicsIn P) : (asking x).PanicsIn P := h.within

lemma note_panicsIn (f : State → State) : (note f : Act κ (World σ) Unit).PanicsIn P := .update _

lemma stateOf_panicsIn (f : State → α) : (stateOf f : Act κ (World σ) α).PanicsIn P :=
  .reading _

/-- Every panic of the collaborators in a tear-down has a message in `P`. -/
structure PanicsIn (P : String → Prop) (b : Bench κ σ) : Prop where
  desktop : b.browser.desktop.PanicsIn P b.settings.quitLimit
  store : ∀ v, Try.PanicsIn P (b.browser.preload.store v)
  stop : Try.PanicsIn P b.tracer.stop
  removeDirectory : ∀ p, Try.PanicsIn P (b.files.removeDirectory p)

namespace PanicsIn

variable {b : Bench κ σ} (h : b.PanicsIn P)
include h

lemma isRunning : b.isRunning.PanicsIn P := by
  unfold Bench.isRunning Browser.isRunning
  exact (h.desktop.findWindow _).bind fun _ => .pure _

lemma quit : Try.PanicsIn P b.quit :=
  .mapError (QuitTarget.quit_panicsIn h.desktop _)

lemma stopTrace : b.stopTrace.PanicsIn P := by
  unfold Bench.stopTrace
  refine (stateOf_panicsIn _).bind fun tracing => .ite ?_ (.pure ())
  refine (note_panicsIn _).bind fun _ => ?_
  refine (asking_panicsIn h.stop.result).bind fun out => ?_
  cases out with
  | ok _ => exact .pure ()
  | error e => exact .log _ _ _ _

lemma quitLaunched : b.quitLaunched.PanicsIn P := by
  have forget : (note fun s => { s with launched := false } : Act κ (World σ) Unit).PanicsIn P :=
    note_panicsIn _
  unfold Bench.quitLaunched
  refine (stateOf_panicsIn _).bind fun launched => .ite ?_ forget
  refine (asking_panicsIn h.isRunning).bind fun running => .ite ?_ forget
  refine (Act.PanicsIn.log _ _ _ _).bind fun _ => ?_
  refine (asking_panicsIn h.quit.result).bind fun out => ?_
  cases out with
  | ok _ => exact forget
  | error e => exact (Act.PanicsIn.log _ _ _ _).bind fun _ => forget

lemma restorePreload : b.restorePreload.PanicsIn P := by
  unfold Bench.restorePreload
  refine (stateOf_panicsIn _).bind fun saved => ?_
  refine (note_panicsIn _).bind fun _ => ?_
  cases saved with
  | none => exact .pure ()
  | some before =>
    refine (asking_panicsIn (h.store before).result).bind fun out => ?_
    cases out with
    | ok _ => exact .log _ _ _ _
    | error e => exact .log _ _ _ _

lemma leaveTemporary : b.leaveTemporary.PanicsIn P := by
  unfold Bench.leaveTemporary
  refine (stateOf_panicsIn _).bind fun temporary => ?_
  refine (note_panicsIn _).bind fun _ => ?_
  cases temporary with
  | none => exact .pure ()
  | some path =>
    refine .ite (.log _ _ _ _) ?_
    refine (Act.PanicsIn.log _ _ _ _).bind fun _ => ?_
    refine (asking_panicsIn (h.removeDirectory path).result).bind fun out => ?_
    cases out with
    | ok _ => exact .pure ()
    | error e => exact .log _ _ _ _

lemma tearDown : b.tearDown.PanicsIn P := by
  unfold Bench.tearDown
  refine h.stopTrace.bind fun _ => ?_
  refine h.quitLaunched.bind fun _ => ?_
  exact h.restorePreload.bind fun _ => h.leaveTemporary

end PanicsIn

end Bench

end StartupBench
