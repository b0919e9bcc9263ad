import StartupBench.Proofs.Act.Returns
import StartupBench.Proofs.Quit.Tracked

/-!
# The process handle is given back

Asking an application to leave opens its process at most once.  On every desktop the primitives are
called in one order: looks at windows come first, the process is opened after them, windows are
asked and the process is waited for only while it is open, and the very handle that was opened is
closed as the last call of all.  It does not matter which primitive fails or panics on the way
(`QuitTarget.quit_calls`).

## The record

The calls are recorded by `Desktop.recorded`, and the order is said of a list of calls:
`Desktop.Call.Unopened` and `Desktop.Call.OpenedAndClosed` are its two kinds.  As an attempt is part
of longer runs, `QuitTarget.Closed` and `QuitTarget.Settled` say the same of what is recorded beyond
the calls that were there before.

## What comes back

The desktop is arbitrary, but its primitives come back (`Desktop.Returns`): they do not end the
process on their own account.  An attempt can still abort the process, and `QuitTarget.quit_aborted`
says when: closing the handle panics while a panic of the stretch in which it was open is on its way
out.  The handle is closed then as well; what does not run any more are the releases of the callers.
If closing never panics, an attempt comes back (`QuitTarget.quit_returns`).
-/

namespace StartupBench

/-! ## Shapes of a record -/

namespace Desktop.Call

/-- Only windows are looked at: neither is a process opened by the call, nor a window asked. -/
def IsLook : Call → Prop
  | findWindow _ _ | windowOwner _ | threadWindows _ | className _ => True
  | _ => False

/-- Windows are asked to quit, or the open process is waited for or looked at, by this `handle`. -/
def Uses (handle : Handle) : Call → Prop
  | postQuit _ _ => True
  | waitForExit h _ | exitCode h => h = handle
  | _ => False

/-- No process was opened: there are looks, and an attempt to open it at most that gave no handle.
-/
def Unopened (calls : List Call) : Prop :=
  (∀ c ∈ calls, c.IsLook) ∨
    ∃ looks pid, calls = looks ++ [openProcess pid none] ∧ ∀ c ∈ looks, c.IsLook

/-- After looks a process was opened, used and closed again, by the handle it was opened with and as
the last thing. -/
def OpenedAndClosed (calls : List Call) : Prop :=
  ∃ looks pid handle uses,
    calls = looks ++ openProcess pid (some handle) :: uses ++ [closeProcess handle] ∧
      (∀ c ∈ looks, c.IsLook) ∧ ∀ c ∈ uses, c.Uses handle

end Desktop.Call

/-- A desktop that keeps a record of every call, and otherwise does what it did. -/
def Desktop.recorded {κ σ : Type} (d : Desktop κ σ) : Desktop κ (Recorded Desktop.Call σ) :=
  d.recordedAs id

/-- Every primitive comes back: it may answer anything, fail and panic. -/
structure Desktop.Returns {κ σ : Type} (d : Desktop κ σ) : Prop where
  findWindow : ∀ p, (d.findWindow p).Returns
  windowOwner : ∀ w, Try.Returns (d.windowOwner w)
  threadWindows : ∀ t, (d.threadWindows t).Returns
  className : ∀ w, (d.className w).Returns
  openProcess : ∀ pid, Try.Returns (d.openProcess pid)
  postQuit : ∀ w m, Try.Returns (d.postQuit w m)
  waitForExit : ∀ handle limit, Try.Returns (d.waitForExit handle limit)
  exitCode : ∀ handle, Try.Returns (d.exitCode handle)
  closeProcess : ∀ handle, (d.closeProcess handle).Returns

section Records

variable {κ σ : Type} (d : Desktop κ σ)

lemma Desktop.recorded_findWindow (p : WindowPattern) : d.recorded.findWindow p =
    (d.findWindow p).recorded fun out => .findWindow p out.answer? := rfl

lemma Desktop.recorded_windowOwner (w : WindowId) : d.recorded.windowOwner w =
    Try.recorded (fun _ => .windowOwner w) (d.windowOwner w) := rfl

lemma Desktop.recorded_openProcess (p : ProcessId) : d.recorded.openProcess p =
    Try.recorded (fun out => .openProcess p out.value?) (d.openProcess p) := rfl

lemma Desktop.recorded_closeProcess (handle : Handle) : d.recorded.closeProcess handle =
    (d.closeProcess handle).recorded fun _ => .closeProcess handle := rfl

lemma Desktop.recorded_tracksLooks :
    d.recorded.TracksLooks Recorded.world (Recorded.Adds Desktop.Call.IsLook) d :=
  d.recordedAs_tracksLooks (fun _ _ => trivial) (fun _ => trivial) (fun _ => trivial)
    fun _ => trivial

lemma Desktop.recorded_tracksUses (handle : Handle) :
    d.recorded.TracksUses Recorded.world (Recorded.Adds (Desktop.Call.Uses handle)) d handle :=
  d.recordedAs_tracksUses handle (fun _ _ => trivial) (fun _ => rfl) rfl

end Records

namespace QuitTarget

open Recorded (Adds)

variable {κ σ : Type}

/-- The record does not change what is done, seen through `Recorded.world`. -/
lemma quit_over (d : Desktop κ σ) (t : QuitTarget) (limit : Option Duration) :
    Try.Over Recorded.world (quit d.recorded t limit) (quit d t limit) :=
  (quit_tracks (d.recordedAs_tracks (C := fun _ => True) fun _ => trivial) t limit).toOver

/-! ## Which calls are made -/

lemma locate_recorded (d : Desktop κ σ) (t : QuitTarget) :
    Try.Tracks Recorded.world (Adds Desktop.Call.IsLook) (locate d.recorded t) (locate d t) :=
  locate_tracks d.recorded_tracksLooks t

lemma whileOpen_recorded (d : Desktop κ σ) (t : QuitTarget) (limit : Option Duration)
    (found : Located) (handle : Handle) :
    Try.Tracks Recorded.world (Adds (Desktop.Call.Uses handle))
      (whileOpen d.recorded t limit found handle) (whileOpen d t limit found handle) :=
  whileOpen_tracks (d.recorded_tracksUses handle) t limit found

lemma postAll_returns {d : Desktop κ σ} (returns : d.Returns) (message : QuitMessage)
    (windows : List WindowId) : (postAll d message windows).Returns := by
  induction windows with
  | nil => exact .pure ()
  | cons w rest ih =>
    unfold postAll
    refine (returns.postQuit w message).result.bind fun out => ?_
    cases out with
    | ok _ => exact ih
    | error e => exact (Act.Returns.log _ _ _ _).bind fun _ => ih

/-- While the process is open no release is left to run, and control comes back whenever that of
each primitive does. -/
lemma whileOpen_returns {d : Desktop κ σ} (returns : d.Returns) (t : QuitTarget)
    (limit : Option Duration) (found : Located) (handle : Handle) :
    Try.Returns (whileOpen d t limit found handle) := by
  unfold whileOpen
  refine .bind (.lift (postAll_returns returns _ _)) fun _ => ?_
  refine (Try.Returns.log _ _ _ _).bind fun _ => ?_
  refine (Try.Returns.mapError (returns.waitForExit handle limit)).bind fun waited => ?_
  cases waited with
  | timedOut => exact .fail _
  | exited =>
    refine (Try.Returns.mapError (returns.exitCode handle)).bind fun code => ?_
    exact (Try.Returns.log _ _ _ _).bind fun _ => .pure _

/-- Beyond the calls of `w`, the process was opened and closed again, as
`Desktop.Call.OpenedAndClosed` has it. -/
def Closed (w w₁ : Recorded Desktop.Call σ) : Prop :=
  ∃ calls, w₁.calls = w.calls ++ calls ∧ Desktop.Call.OpenedAndClosed calls

/-- Beyond the calls of `w`, the process was not opened, or it was opened and closed again. -/
def Settled (w w₁ : Recorded Desktop.Call σ) : Prop :=
  ∃ calls, w₁.calls = w.calls ++ calls ∧
    (Desktop.Call.Unopened calls ∨ Desktop.Call.OpenedAndClosed calls)

lemma Settled.of_looks {w w₁ : Recorded Desktop.Call σ}
    (h : Adds Desktop.Call.IsLook w w₁) : Settled w w₁ := by
  obtain ⟨looks, hw₁, hlooks⟩ := h
  exact ⟨looks, hw₁, .inl (.inl hlooks)⟩

lemma Closed.settled {w w₁ : Recorded Desktop.Call σ} (h : Closed w w₁) : Settled w w₁ := by
  obtain ⟨calls, hw₁, hcalls⟩ := h
  exact ⟨calls, hw₁, .inr hcalls⟩

/-- The process that was found is opened, and whatever is done with it, it is closed: the calls are
`Settled` on every way out, an abort included. -/
lemma openAndClose_yields {d : Desktop κ σ} (returns : d.Returns) (t : QuitTarget)
    (limit : Option Duration) (found : Located) {w w₁ : Recorded Desktop.Call σ}
    (h : Adds Desktop.Call.IsLook w w₁) :
    Try.Yields
      (do
        let handle ← Try.mapError QuitError.os (d.recorded.openProcess found.owner)
        ExceptT.mk (Act.ensuring (whileOpen d.recorded t limit found handle).run
          (d.recorded.closeProcess handle)))
      w₁ (fun _ => Settled w) (fun _ => Settled w) (fun _ => Settled w)
      fun k w₂ => k = .aborted ∧ Closed w w₂ := by
  obtain ⟨looks, hw₁, hlooks⟩ := h
  -- Closing ends the calls, with an answer as well as with a panic.
  have close : ∀ (handle : Handle) (w₂ w₃ : Recorded Desktop.Call σ),
      w₂.calls = w₁.calls ++ [.openProcess found.owner (some handle)] →
        Adds (Desktop.Call.Uses handle) w₂ w₃ →
        (d.recorded.closeProcess handle).Yields w₃ (fun _ => Closed w) (fun _ => Closed w)
          fun _ _ => False := by
    intro handle w₂ w₃ hw₂ hw₃
    obtain ⟨uses, hcalls, huses⟩ := hw₃
    have closed : Desktop.Call.OpenedAndClosed
        (looks ++ .openProcess found.owner (some handle) :: uses ++
          [.closeProcess handle]) := ⟨looks, found.owner, handle, uses, rfl, hlooks, huses⟩
    have ends (s : σ) : Closed w ⟨w₃.calls ++ [.closeProcess handle], s⟩ :=
      ⟨_, by simp [hcalls, hw₂, hw₁], closed⟩
    rw [Desktop.recorded_closeProcess, Act.yields_recorded]
    exact ((returns.closeProcess handle).anyway _).imp (fun _ s _ => ends s) (fun _ s _ => ends s)
      fun _ _ h => h
  have unopened : ∀ s : σ,
      Settled w ⟨w₁.calls ++ [.openProcess found.owner none], s⟩ := by
    intro s
    refine ⟨looks ++ [.openProcess found.owner none], by simp [hw₁], .inl (.inr ?_)⟩
    exact ⟨looks, found.owner, rfl, hlooks⟩
  rw [Try.yields_bind, Try.yields_mapError, Desktop.recorded_openProcess, Try.yields_recorded]
  refine ((returns.openProcess found.owner).anyway _).imp (fun r s _ => ?_)
    (fun _ s _ => unopened s) fun _ _ h => h.elim
  cases r with
  | error e => exact unopened s
  | ok handle =>
    have whileOpen := whileOpen_recorded d t limit found handle
    have uses := whileOpen.respects.yields
      ⟨w₁.calls ++ [.openProcess found.owner (some handle)], s⟩
    have back := (whileOpen_returns returns t limit found handle).inherited whileOpen.toOver
    show Try.Yields _ _ _ _ _ _
    rw [Try.yields_mk, Act.yields_ensuring, Try.yields_run]
    refine (Try.Returns.yields (K := fun _ _ => False) back uses).imp (fun _ w₃ h₃ => ?_)
      (fun _ w₃ h₃ => ?_) (fun _ w₃ h₃ => ?_) fun _ _ h => h.elim
    -- After an answer a panic of the closing leaves the callers; after a panic it aborts.
    · exact (close handle _ w₃ rfl h₃).imp (fun _ _ => Closed.settled) (fun _ _ => Closed.settled)
        fun _ _ h => h.elim
    · exact (close handle _ w₃ rfl h₃).imp (fun _ _ => Closed.settled) (fun _ _ => Closed.settled)
        fun _ _ h => h.elim
    · exact (close handle _ w₃ rfl h₃).imp (fun _ _ => Closed.settled) (fun _ _ h => ⟨rfl, h⟩)
        fun _ _ h => h.elim

lemma accepted_returns {d : Desktop κ σ} (returns : d.Returns) (rule : ClassRule)
    (windows : List WindowId) : (accepted d rule windows).Returns := by
  induction windows with
  | nil => exact .pure []
  | cons w rest ih =>
    unfold accepted
    exact (returns.className w).bind fun _ => ih.bind fun _ => .pure _

lemma locate_returns {d : Desktop κ σ} (returns : d.Returns) (t : QuitTarget) :
    Try.Returns (locate d t) := by
  unfold locate
  refine .bind (.lift (returns.findWindow t.instancePattern)) fun found => ?_
  cases found with
  | none => exact .fail _
  | some window =>
    refine (Try.Returns.mapError (returns.windowOwner window)).bind fun owner => ?_
    refine (Try.Returns.lift (returns.threadWindows owner.1)).bind fun windows => ?_
    exact (Try.Returns.lift (accepted_returns returns t.recipients windows)).bind fun _ => .pure _

lemma quit_yields {d : Desktop κ σ} (returns : d.Returns) (t : QuitTarget)
    (limit : Option Duration) (w : Recorded Desktop.Call σ) :
    Try.Yields (quit d.recorded t limit) w (fun _ => Settled w) (fun _ => Settled w)
      (fun _ => Settled w) fun k w₁ => k = .aborted ∧ Closed w w₁ := by
  have looks := locate_recorded d t
  have back := (locate_returns returns t).inherited looks.toOver
  unfold quit
  rw [Try.yields_bind]
  refine (Try.Returns.yields (K := fun _ _ => False) back (looks.respects.yields w)).imp
    (fun found w₁ h => ?_) (fun _ w₁ h => Settled.of_looks h) (fun _ w₁ h => Settled.of_looks h)
    fun _ _ h => h.elim
  rw [Try.yields_ite]
  split
  · rw [Try.yields_bind, Try.yields_log]
    exact openAndClose_yields returns t limit found h
  · exact openAndClose_yields returns t limit found h

/-- An attempt comes back if what is done between opening and closing the process does, since no
other stretch of it has a release. -/
lemma quit_returns_of_opened {d : Desktop κ σ} (returns : d.Returns) (t : QuitTarget)
    (limit : Option Duration)
    (opened : ∀ found handle, (Act.ensuring (whileOpen d t limit found handle).run
      (d.closeProcess handle)).Returns) : Try.Returns (quit d t limit) := by
  have opens (found : Located) : Try.Returns
      (do
        let handle ← Try.mapError QuitError.os (d.openProcess found.owner)
        ExceptT.mk (Act.ensuring (whileOpen d t limit found handle).run
          (d.closeProcess handle))) :=
    (Try.Returns.mapError (returns.openProcess _)).bind (opened found)
  unfold quit
  refine (locate_returns returns t).bind fun found => ?_
  exact .ite ((Try.Returns.log _ _ _ _).bind fun _ => opens found) (opens found)

/-- An attempt comes back if closing a process never panics, as nothing can panic twice then. -/
lemma quit_returns {d : Desktop κ σ} (returns : d.Returns)
    (closing : ∀ handle, (d.closeProcess handle).Calm) (t : QuitTarget) (limit : Option Duration) :
    Try.Returns (quit d t limit) :=
  quit_returns_of_opened returns t limit fun found handle =>
    .ensuring (whileOpen_returns returns t limit found handle) (returns.closeProcess handle)
      (closing handle)

/-- Without a window of the instance nothing else is asked, and the attempt fails. -/
lemma quit_yields_of_none (d : Desktop κ σ) (t : QuitTarget) (limit : Option Duration)
    (w : Recorded Desktop.Call σ)
    (h : (d.findWindow t.instancePattern w.world).outcome = .returned none) :
    Try.Yields (quit d.recorded t limit) w (fun _ _ => False)
      (fun e w₁ => e = .targetNotFound t.instancePattern ∧
        w₁.calls = w.calls ++ [.findWindow t.instancePattern (some none)])
      (fun _ _ => False) fun _ _ => False := by
  unfold quit locate
  rw [Try.yields_bind, Try.yields_bind, Try.yields_monadLift, Desktop.recorded_findWindow,
    Act.yields_recorded]
  refine Act.Yields.of_outcome h fun s => ?_
  rw [Try.yields_fail]
  exact ⟨rfl, rfl⟩

/-- **Every process handle is given back.**  On a desktop whose primitives may answer anything and
panic at any call (`Desktop.Returns`), an attempt to make an application leave opens the process at
most once.  If that gave a handle, this very handle is closed once, as the last call; and windows
are asked to quit, and the process is waited for and looked at, only in between.  Without a window
of the instance the attempt fails and asks nothing else. -/
theorem quit_calls (d : Desktop κ σ) (returns : d.Returns) (t : QuitTarget)
    (limit : Option Duration) (w : σ) :
    let recorded := (quit d.recorded t limit).run ⟨[], w⟩
    recorded.outcome = ((quit d t limit).run w).outcome ∧
      (Desktop.Call.Unopened recorded.world.calls ∨
        Desktop.Call.OpenedAndClosed recorded.world.calls) ∧
      ((d.findWindow t.instancePattern w).outcome = .returned none →
        recorded.outcome = .returned (.error (.targetNotFound t.instancePattern)) ∧
          recorded.world.calls = [.findWindow t.instancePattern (some none)]) := by
  intro recorded
  refine ⟨(quit_over d t limit).outcome_eq ⟨[], w⟩, ?_, fun h => ?_⟩
  · have settled : Settled ⟨[], w⟩ recorded.world :=
      Act.Yields.ends (Q := fun _ w₁ => Settled ⟨[], w⟩ w₁)
        (Try.yields_run.2 ((quit_yields returns t limit ⟨[], w⟩).imp (fun _ _ h => h)
          (fun _ _ h => h) (fun _ _ h => h) fun _ _ h => h.2.settled))
    obtain ⟨calls, hcalls, h⟩ := settled
    rwa [hcalls]
  · obtain ⟨r, out, h⟩ := (quit_yields_of_none d t limit ⟨[], w⟩ h).answered
    cases r with
    | ok code => exact h.elim
    | error e => exact ⟨by rw [← h.1]; exact out, h.2⟩

/-- A desktop with one instance, whose process can neither be waited for nor closed without a panic.
-/
def brittle : Desktop Empty Unit where
  findWindow _ := pure (some ⟨1⟩)
  windowOwner _ := pure (⟨2⟩, ⟨7⟩)
  threadWindows _ := pure [⟨1⟩]
  className _ := pure (some "App")
  openProcess pid := pure ⟨40, pid⟩
  postQuit _ _ := pure ()
  waitForExit _ _ := ExceptT.mk (Act.panic "cannot wait")
  exitCode _ := pure none
  closeProcess _ := Act.panic "cannot close"

lemma brittle_returns : brittle.Returns where
  findWindow _ := .pure _
  windowOwner _ := .pure _
  threadWindows _ := .pure _
  className _ := .pure _
  openProcess _ := .pure _
  postQuit _ _ := .pure _
  waitForExit _ _ := .panic _
  exitCode _ := .pure _
  closeProcess _ := .panic _

/-- The target that `brittle` has an instance of. -/
def app : QuitTarget := ⟨⟨"App", none⟩, .exactly "App", .appQuit⟩

/-- The process aborts, and the handle is closed before that. -/
theorem brittle_calls :
    ((quit brittle app none).run ()).outcome = .stopped .aborted ∧
      Desktop.Call.OpenedAndClosed ((quit brittle.recorded app none).run ⟨[], ()⟩).world.calls := by
  obtain ⟨same, calls, -⟩ := quit_calls brittle brittle_returns app none ()
  have opened : Desktop.Call.openProcess ⟨7⟩ (some ⟨40, ⟨7⟩⟩) ∈
      ((quit brittle.recorded app none).run ⟨[], ()⟩).world.calls := by decide
  refine ⟨rfl, calls.resolve_left fun unopened => ?_⟩
  obtain looks | ⟨looks, pid, hcalls, hlooks⟩ := unopened
  · exact looks _ opened
  · rw [hcalls] at opened
    obtain looked | failed := List.mem_append.1 opened
    · exact hlooks _ looked
    · cases List.mem_singleton.1 failed

/-- If an attempt does not come back, then the process was opened and closed again, and it is the
closing that has aborted: it panicked during a panic of what was done in between. -/
theorem quit_aborted {d : Desktop κ σ} (returns : d.Returns) (t : QuitTarget)
    (limit : Option Duration) (w : σ) {k : Stop κ}
    (stopped : ((quit d t limit).run w).outcome = .stopped k) :
    k = .aborted ∧
      Desktop.Call.OpenedAndClosed ((quit d.recorded t limit).run ⟨[], w⟩).world.calls := by
  have ended := Act.Yields.ends (Q := fun out w₁ => ∀ k, out = .stopped k →
      k = .aborted ∧ Closed ⟨[], w⟩ w₁)
    (Try.yields_run.2 ((quit_yields returns t limit ⟨[], w⟩).imp
      (fun _ _ _ => nofun) (fun _ _ _ => nofun) (fun _ _ _ => nofun)
      fun k w₁ h k' hk => by cases hk; exact h))
  obtain ⟨rfl, calls, hcalls, closed⟩ :=
    ended k (((quit_over d t limit).outcome_eq ⟨[], w⟩).trans stopped)
  refine ⟨rfl, ?_⟩
  rwa [hcalls]

end QuitTarget

end StartupBench
