import StartupBench.Proofs.Bench.Stale
import StartupBench.Proofs.Quit.Departing

/-!
# An instance that runs already and exits by itself

Before a profile is touched, an instance that runs on it already is asked to quit, and that it is
gone by then is no failure (`Bench.quitStale`).  The instance may exit by itself at any moment of
this, before the first question to the desktop or between any two; the desktop counts the calls that
it answers and lets the process go after so many (`Departing.primitives`).

One of these moments is not provided for: right after the window was found for the second time, when
the attempt asks for the owner of a window that is there no more (`Bench.quitStale_departing`).  At
every other moment the step ends without an error, be it that nothing is found, or that the process
is asked to quit and waited for.
-/

namespace StartupBench

open Simulated (missing)

namespace Bench

variable {κ σ : Type} {get : σ → Departing} {put : Departing → σ → σ} {b : Bench κ σ}

/-- Whether the browser runs (`Bench.isRunning`) is one question to the desktop, and it is counted
as one. -/
lemma isRunning_departing (get_put : ∀ s w, get (put s w) = s) {pid : ProcessId}
    (hd : b.browser.desktop = (Departing.primitives κ pid).within get put) :
    b.isRunning.Over get (do
      let window ← (Departing.primitives κ pid).findWindow b.target.instancePattern
      pure window.isSome) := by
  unfold isRunning Browser.isRunning
  rw [hd]
  exact Act.Over.bind (Act.within_over get_put _) fun _ => Act.Over.pure _

lemma quit_yields_departing (get_put : ∀ s w, get (put s w) = s) {s : Simulated}
    {v : SimulatedWindow} (h : s.Lone b.target v)
    (hd : b.browser.desktop = (Departing.primitives κ v.pid).within get put) {n : Nat}
    (hn : n ≤ s.callsToWait b.target v) {w : σ} (hw : get w = ⟨s, some n⟩) :
    Try.Yields b.quit w (fun _ w₁ => 1 < n ∧ Departing.Due v.pid 0 (get w₁))
      (fun e w₁ => (n = 0 ∧ e = .targetNotFound b.target.instancePattern ∨
        n = 1 ∧ e = .os (missing "GetWindowThreadProcessId")) ∧ Departing.Due v.pid 0 (get w₁))
      (fun _ _ => False) fun _ _ => False := by
  have walk := QuitTarget.quit_tracks ((Departing.primitives κ v.pid).within_tracks get_put)
    b.target b.settings.quitLimit
  have quits := walk.toOver.yields (w := w)
    (hw ▸ QuitTarget.quit_departing h b.settings.quitLimit hn)
  unfold quit Browser.quit
  rw [hd, Try.yields_mapError]
  refine quits.mono (fun _ _ h₁ => h₁) (fun e w₁ h₁ => ?_) fun _ _ hm => hm
  obtain ⟨⟨rfl, rfl⟩ | ⟨rfl, rfl⟩, gone⟩ := h₁
  · exact ⟨.inl ⟨rfl, rfl⟩, gone⟩
  · exact ⟨.inr ⟨rfl, rfl⟩, gone⟩

/-- The step that deals with an instance that runs already fails at one moment only, whichever call
the process exits before. -/
lemma quitStale_yields_departing (get_put : ∀ s w, get (put s w) = s) {s : Simulated}
    {v : SimulatedWindow} (h : s.Lone b.target v)
    (hd : b.browser.desktop = (Departing.primitives κ v.pid).within get put) {n : Nat}
    (hn : n ≤ s.callsToWait b.target v + 1) {w : σ} (hw : get w = ⟨s, some n⟩) :
    Try.Yields b.quitStale w (fun _ w₁ => n ≠ 2 ∧ Departing.Due v.pid 0 (get w₁))
      (fun e w₁ => n = 2 ∧ e = .os (missing "GetWindowThreadProcessId") ∧
        Departing.Due v.pid 0 (get w₁))
      (fun _ _ => False) fun _ _ => False := by
  have looked : (do
      let window ← (Departing.primitives κ v.pid).findWindow b.target.instancePattern
      pure window.isSome : Act κ Departing Bool).Yields (get w)
      (fun seen w₁ => n = 0 ∧ seen = false ∧ Departing.Due v.pid 0 w₁ ∨
        ∃ m, n = m + 1 ∧ seen = true ∧ w₁ = ⟨s, some m⟩) (fun _ _ => False) fun _ _ => False := by
    rw [hw, Act.yields_bind]
    show (Departing.call κ v.pid fun s =>
      (s.findWindow b.target.instancePattern, s)).Yields _ _ _ _
    rw [Departing.yields_call, Act.yields_pure]
    cases n with
    | zero =>
      rw [Departing.turn_now]
      exact .inl ⟨rfl, by rw [h.findWindow_exited]; rfl, h.due_exited⟩
    | succ m =>
      rw [Departing.turn_later]
      exact .inr ⟨m, rfl, by rw [h.findWindow_eq]; rfl, rfl⟩
  unfold quitStale
  rw [Try.yields_bind, Try.yields_lift]
  refine ((isRunning_departing get_put hd).yields looked).mono (fun seen w₁ h₁ => ?_)
    fun _ _ hm => hm
  obtain ⟨rfl, rfl, gone⟩ | ⟨m, rfl, rfl, hw₁⟩ := h₁
  · rw [if_neg Bool.false_ne_true, Try.yields_pure]
    exact ⟨by decide, gone⟩
  · rw [if_pos rfl, Try.yields_bind, Try.yields_log, Try.yields_bind, Try.yields_attempt]
    refine (quit_yields_departing get_put h hd (Nat.le_of_succ_le_succ hn) hw₁).mono
      (fun code w₂ h₂ => ?_) (fun e w₂ h₂ => ?_) fun _ _ hm => hm
    · rw [Try.yields_log]
      exact ⟨by omega, h₂.2⟩
    · obtain ⟨⟨rfl, rfl⟩ | ⟨rfl, rfl⟩, gone⟩ := h₂
      · exact ⟨by decide, gone⟩
      · exact ⟨rfl, rfl, gone⟩

/-- **An instance that exits by itself.**  The only instance that runs already exits by itself when
`n` calls of primitives were answered, at the latest right before it is waited for.  Then the step
that deals with it ends without an error, unless it exits right after its window was found for the
second time (`n = 2`): the owner of the window cannot be told then, and the step fails with the
error of the system.  Either way the process has exited in the end. -/
theorem quitStale_departing {b : Bench Empty σ} (get_put : ∀ s w, get (put s w) = s)
    {s : Simulated} {v : SimulatedWindow} (h : s.Lone b.target v)
    (hd : b.browser.desktop = (Departing.primitives Empty v.pid).within get put) (n : Nat)
    (hn : n ≤ s.callsToWait b.target v + 1) (w : σ) (hw : get w = ⟨s, some n⟩) :
    (b.quitStale.run w).outcome =
        .returned (if n = 2 then .error (.os (missing "GetWindowThreadProcessId")) else .ok ()) ∧
      (get (b.quitStale.run w).world).desktop.isRunning v.pid = false := by
  refine Act.Yields.ends (Q := fun (out : Outcome Empty (Except RunError Unit)) w₁ =>
    out = .returned (if n = 2 then .error (.os (missing "GetWindowThreadProcessId")) else .ok ()) ∧
      (get w₁).desktop.isRunning v.pid = false) ?_
  rw [Try.yields_run]
  refine (quitStale_yields_departing get_put h hd hn hw).imp (fun _ w₁ h₁ => ?_)
    (fun e w₁ h₁ => ?_) (fun _ _ hm => hm.elim) fun _ _ hm => hm.elim
  · exact ⟨by rw [if_neg h₁.1], h₁.2.isRunning⟩
  · obtain ⟨rfl, rfl, gone⟩ := h₁
    exact ⟨rfl, gone.isRunning⟩

/-! ## A lone instance -/

/-- A Mozilla browser whose instance exits by itself (`Departing.primitives`), with collaborators
that do nothing. -/
def fleeting : Bench Empty Departing where
  settings := idle.settings
  browser := .mozilla "App" ((Departing.primitives Empty ⟨10⟩).within id fun s _ => s)
  launcher := { launch := fun _ => pure (), run := fun _ => pure (some 0) }
  tracer := { start := fun _ => pure none, stop := pure () }
  analyzer := { analyze := fun _ _ => pure [] }
  files :=
    { isFile := fun _ => pure true
      isDirectory := fun _ => pure true
      removeDirectory := fun _ => pure ()
      list := fun _ => pure []
      removeFile := fun _ => pure ()
      makeTemporary := fun stem => pure ⟨stem⟩
      write := fun _ _ => pure () }
  output := { write := fun _ => pure (), flush := pure () }
  settle _ := pure false
  interrupted := pure false
  sleep _ := pure ()

lemma fleeting_target : fleeting.target = ⟨⟨"App", none⟩, .exactly "App", .appQuit⟩ := by
  decide +kernel

lemma fleeting_lone :
    loneInstance.Lone fleeting.target ⟨⟨1⟩, ⟨10⟩, ⟨1⟩, "App", none⟩ where
  reachable := loneInstance_reachable
  found := by
    rw [fleeting_target, loneInstance_liveWindows]
    decide
  alone := by
    have own : ∀ u ∈ loneInstance.liveWindows, u.pid = ⟨10⟩ := by
      rw [loneInstance_liveWindows]
      decide
    exact fun u hu _ => own u hu
  owner := ⟨_, loneInstance_process, rfl⟩

/-- The first window of `loneInstance` is the only one on its thread, so that six calls are made
before its process is waited for. -/
lemma fleeting_callsToWait :
    loneInstance.callsToWait fleeting.target ⟨⟨1⟩, ⟨10⟩, ⟨1⟩, "App", none⟩ = 6 := by
  rw [Simulated.callsToWait, Simulated.threadWindows_eq, Simulated.recipients, fleeting_target,
    loneInstance_liveWindows]
  decide

/-- The instance of `fleeting` exits right before it is waited for, and the step succeeds. -/
theorem fleeting_left :
    loneInstance.Lone fleeting.target ⟨⟨1⟩, ⟨10⟩, ⟨1⟩, "App", none⟩ ∧
      (fleeting.quitStale.run ⟨loneInstance, some 7⟩).outcome = .returned (.ok ()) := by
  have inTime := Nat.succ_le_succ (Nat.le_of_eq fleeting_callsToWait.symm)
  refine ⟨fleeting_lone, ?_⟩
  exact (quitStale_departing (fun _ _ => rfl) fleeting_lone rfl 7 inTime ⟨loneInstance, some 7⟩
    rfl).1

/-- The instance of `fleeting` exits between the two calls that look for its window and for the
owner of the window, and the step fails. -/
theorem fleeting_not_left :
    loneInstance.Lone fleeting.target ⟨⟨1⟩, ⟨10⟩, ⟨1⟩, "App", none⟩ ∧
      2 ≤ loneInstance.callsToWait fleeting.target ⟨⟨1⟩, ⟨10⟩, ⟨1⟩, "App", none⟩ + 1 ∧
      (fleeting.quitStale.run ⟨loneInstance, some 2⟩).outcome =
        .returned (.error (.os (missing "GetWindowThreadProcessId"))) := by
  have bound : 2 ≤ loneInstance.callsToWait fleeting.target ⟨⟨1⟩, ⟨10⟩, ⟨1⟩, "App", none⟩ + 1 := by
    rw [fleeting_callsToWait]
    decide
  refine ⟨fleeting_lone, bound, ?_⟩
  have yields := quitStale_yields_departing (b := fleeting) (fun _ _ => rfl) fleeting_lone rfl bound
    (w := ⟨loneInstance, some 2⟩) rfl
  refine Act.Yields.ends (Q := fun (out : Outcome Empty (Except RunError Unit)) _ =>
    out = .returned (.error (.os (missing "GetWindowThreadProcessId")))) ?_
  rw [Try.yields_run]
  exact yields.imp (fun _ _ h₁ => absurd rfl h₁.1) (fun _ _ h₁ => by rw [h₁.2.1])
    (fun _ _ hm => hm.elim) fun _ _ hm => hm.elim

end Bench

end StartupBench
