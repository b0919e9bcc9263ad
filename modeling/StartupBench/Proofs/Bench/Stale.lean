import StartupBench.Proofs.Bench.Tracked
import StartupBench.Proofs.Quit.Remaining

/-!
# Instances that run already

Before a profile is touched, an instance that runs on it already is asked to quit
(`Bench.quitStale`).  One instance is looked for and one is asked: with several of them on a
simulated desktop it depends on their processes and threads whether one is left
(`Simulated.Remains`).  If all that can be found belong to one process, none is
(`Bench.running_past_quitStale`).

Setting up begins with this step and goes on with the rest (`Bench.settleIn`), after the profile was
erased and looked for (`Bench.lookForProfile`).  What the desktop shows at both moments is followed
through the part of the world that the desktop is in (`Desktop.within`), which the files leave
alone.

Two witnesses show the two sides: an instance that is alone has left (`Bench.lone_instance_left`),
and of two instances the second runs on (`Bench.second_instance_runs`).
-/

namespace StartupBench

/-! ## A desktop that is a part of the world -/

/-- A desktop on a part of the world (`Desktop.within`) does there what it does on its own. -/
lemma Desktop.within_tracks {κ σ τ : Type} {get : τ → σ} {put : σ → τ → τ}
    (get_put : ∀ s w, get (put s w) = s) (d : Desktop κ σ) :
    (d.within get put).Tracks get (Same fun _ => ()) d where
  looks :=
    { findWindow := fun _ => (Act.within_over get_put _).tracks
      windowOwner := fun _ => (Act.within_over get_put _).tracks
      threadWindows := fun _ => (Act.within_over get_put _).tracks
      className := fun _ => (Act.within_over get_put _).tracks }
  openProcess _ := (Act.within_over get_put _).tracks
  uses _ :=
    { postQuit := fun _ _ => (Act.within_over get_put _).tracks
      waitForExit := fun _ => (Act.within_over get_put _).tracks
      exitCode := (Act.within_over get_put _).tracks }
  closeProcess _ := (Act.within_over get_put _).tracks

namespace Bench

open Simulated (desktop)

variable {κ σ : Type}

/-! ## Setting up beyond the instances that run already -/

/-- Erase the profile, if that was asked for, and see whether there is one: what `Bench.setUp` does
after `Bench.quitStale`. -/
def lookForProfile (b : Bench κ σ) : Act κ (World σ) Bool := do
  if b.settings.initializeProfile then asking b.eraseProfile
  asking (b.files.isDirectory b.settings.profile)

/-- Looking for the profile is to remove it, if that was asked for, and to look; what both leave
alone is left alone. -/
lemma lookForProfile_frame (b : Bench κ σ) {γ : Type} {f : State → γ} {S : σ → σ → Prop}
    [IsPreorder σ S] (hremove : Try.Respects S (b.files.removeDirectory b.settings.profile))
    (hlook : (b.files.isDirectory b.settings.profile).Respects S) :
    b.lookForProfile.Respects (Frame f S) := by
  have erased : b.eraseProfile.Respects S := by
    unfold eraseProfile
    refine Act.Respects.bind hremove fun out => ?_
    split
    · exact Act.Respects.log _ _ _ _
    · exact Act.Respects.pure _
    · exact Act.Respects.log _ _ _ _
  have asked : ∀ {α : Type} {x : Act κ σ α}, x.Respects S → (asking x).Respects (Frame f S) :=
    fun h w => ⟨rfl, h w.outside⟩
  unfold lookForProfile
  split
  · exact (asked erased).bind fun _ => asked hlook
  · exact asked hlook

/-- What setting up does once no instance is to be asked any more: `Bench.setUp` without
`Bench.quitStale`. -/
def settleIn (b : Bench κ σ) : Try κ (World σ) RunError Unit := do
  if !(← Try.lift b.lookForProfile) then b.createProfile
  b.overridePreload
  b.makeTemporary

lemma setUp_eq_settleIn (b : Bench κ σ) : b.setUp = (do
    trying b.quitStale
    b.settleIn) := by
  have lift_bind : ∀ {α β : Type} (x : Act κ (World σ) α) (f : α → Act κ (World σ) β),
      (Try.lift (x >>= f) : Try κ (World σ) RunError β) =
        Try.lift x >>= fun a => Try.lift (f a) := by
    intro α β x f
    unfold Try.lift
    refine ExceptT.ext ?_
    simp
  rw [setUp_eq]
  unfold prologue settleIn lookForProfile
  by_cases erase : b.settings.initializeProfile
  · simp only [if_pos erase, bind_assoc, lift_bind]
    refine bind_congr fun _ => bind_congr fun _ => bind_congr fun present => ?_
    cases present <;> simp
  · simp only [if_neg erase, bind_assoc]
    refine bind_congr fun _ => bind_congr fun present => ?_
    cases present <;> simp

/-- The instance that the benchmark looks for, and how it is asked (`Browser.quitTarget`). -/
abbrev target (b : Bench κ σ) : QuitTarget := b.browser.quitTarget b.settings.profile

/-- A window by which an instance is found is one that is asked, since the same class is looked for.
-/
lemma accepts_of_fits (b : Bench κ σ) {v : SimulatedWindow}
    (h : Simulated.fits b.target.instancePattern v) :
    b.target.recipients.accepts v.windowClass := by
  have rule : b.target.recipients = .exactly b.target.instancePattern.windowClass := by
    unfold target Browser.quitTarget
    cases b.browser.family <;> rfl
  have hclass : (v.windowClass == b.target.instancePattern.windowClass) = true :=
    (Bool.and_eq_true_iff.1 h).1
  rw [rule]
  exact hclass

lemma asked_of_found (b : Bench κ σ) {s : Simulated} {v : SimulatedWindow}
    (found : s.liveWindows.find? (Simulated.fits b.target.instancePattern) = some v) :
    v ∈ s.recipients b.target.recipients v.thread := by
  have accepted := b.accepts_of_fits (List.find?_some found)
  exact List.mem_filter.2 ⟨List.mem_of_find?_eq_some found, by simpa using accepted⟩

section Simulated

variable {get : σ → Simulated} {put : Simulated → σ → σ} {b : Bench κ σ}

lemma isRunning_within (get_put : ∀ s w, get (put s w) = s)
    (hd : b.browser.desktop = (desktop κ).within get put) :
    b.isRunning.Over get
      (Act.reading fun s => (s.findWindow b.target.instancePattern).isSome) := by
  unfold isRunning Browser.isRunning
  rw [hd]
  exact Act.Over.bind (Act.within_over get_put _) fun _ => Act.Over.pure _

lemma quit_within (get_put : ∀ s w, get (put s w) = s)
    (hd : b.browser.desktop = (desktop κ).within get put) {w : σ} (h : (get w).Numbered) :
    Try.Yields b.quit w
      (fun code w₁ => (get w).Quits b.target b.settings.quitLimit (.ok code) (get w₁))
      (fun e w₁ => ∃ e', e = .ofQuit e' ∧
        (get w).Quits b.target b.settings.quitLimit (.error e') (get w₁))
      (fun _ _ => False) fun _ _ => False := by
  have walk := QuitTarget.quit_tracks ((desktop κ).within_tracks get_put) b.target
    b.settings.quitLimit
  have quits := walk.toOver.yields (QuitTarget.quit_yields_quits h b.target b.settings.quitLimit)
  unfold quit Browser.quit
  rw [hd, Try.yields_mapError]
  exact quits.mono (fun _ _ h => h) (fun e _ h => ⟨e, rfl, h⟩) fun _ _ h => h

/-- An instance that runs already leaves, if there is one, or the attempt fails; the desktop then is
the one after an attempt as `Simulated.Quits` says. -/
lemma quitStale_yields (get_put : ∀ s w, get (put s w) = s)
    (hd : b.browser.desktop = (desktop κ).within get put) {w : σ} (h : (get w).Numbered) :
    Try.Yields b.quitStale w
      (fun _ w₁ =>
        (get w₁ = get w ∧ (get w).findWindow b.target.instancePattern = none) ∨
        ∃ code, (get w).Quits b.target b.settings.quitLimit (.ok code) (get w₁))
      (fun _ w₁ => ∃ e, (get w).Quits b.target b.settings.quitLimit (.error e) (get w₁))
      (fun _ _ => False) fun _ _ => False := by
  unfold quitStale
  rw [Try.yields_bind, Try.yields_lift]
  have looked : (Act.reading fun s : Simulated =>
      (s.findWindow b.target.instancePattern).isSome : Act κ Simulated Bool).Yields (get w)
      (fun seen s₁ => s₁ = get w ∧ seen = ((get w).findWindow b.target.instancePattern).isSome)
      (fun _ _ => False) fun _ _ => False := ⟨rfl, rfl⟩
  refine ((isRunning_within get_put hd).yields looked).mono (fun seen w₁ h₁ => ?_)
    fun _ _ hm => hm
  obtain ⟨hsame, rfl⟩ := h₁
  cases hfind : (get w).findWindow b.target.instancePattern with
  | none =>
    rw [Option.isSome_none, if_neg Bool.false_ne_true, Try.yields_pure]
    exact .inl ⟨hsame, rfl⟩
  | some id =>
    rw [Option.isSome_some, if_pos rfl, Try.yields_bind, Try.yields_log, Try.yields_bind,
      Try.yields_attempt]
    refine (quit_within get_put hd (hsame ▸ h)).mono (fun code w₂ h₂ => ?_)
      (fun e w₂ h₂ => ?_) fun _ _ hm => hm
    · rw [hsame] at h₂
      exact .inr ⟨code, h₂⟩
    · obtain ⟨e', rfl, quits⟩ := h₂
      rw [hsame] at quits
      cases e' with
      | targetNotFound p =>
        -- The instance cannot be gone by then: nothing happens in between.
        have unseen := quits.unseen
        rw [Simulated.findWindow_eq, unseen] at hfind
        cases hfind
      | timeout pid limit => exact ⟨_, quits⟩
      | os e => exact ⟨_, quits⟩

/-- An instance that obeys (`Obedience.onQuit`) leaves, and the attempt does not fail. -/
lemma quitStale_yields_of_obedient (get_put : ∀ s w, get (put s w) = s)
    (hd : b.browser.desktop = (desktop κ).within get put) {w : σ} (h : (get w).Numbered)
    {v : SimulatedWindow} {p : SimulatedProcess}
    (found : (get w).liveWindows.find? (Simulated.fits b.target.instancePattern) = some v)
    (owner : (get w).processes[v.pid]? = some p) (allowed : p.denyOpen = false)
    (obedient : p.obedience = .onQuit) :
    Try.Yields b.quitStale w
      (fun _ w₁ => ∃ code, (get w).Quits b.target b.settings.quitLimit (.ok code) (get w₁))
      (fun _ _ => False) (fun _ _ => False) fun _ _ => False := by
  have own : v ∈ (get w).recipients b.target.recipients v.thread := b.asked_of_found found
  refine (quitStale_yields get_put hd h).mono (fun _ w₁ h₁ => ?_) (fun e w₁ h₁ => ?_)
    fun _ _ hm => hm
  · obtain ⟨-, hnone⟩ | quits := h₁
    · rw [Simulated.findWindow_eq, found] at hnone
      cases hnone
    · exact quits
  · obtain ⟨e, quits⟩ := h₁
    cases QuitTarget.answer_of_quits quits found owner allowed obedient ⟨v, own, rfl⟩

/-- Looking for the profile leaves the desktop alone if the files do. -/
lemma lookForProfile_respects (hremove : ∀ path, Try.Respects (Same get)
      (b.files.removeDirectory path))
    (hlook : ∀ path, (b.files.isDirectory path).Respects (Same get)) :
    b.lookForProfile.Respects (Same fun w => get w.outside) :=
  fun w => (b.lookForProfile_frame (f := fun _ => ()) (hremove _) (hlook _) w).2

/-- **Instances that run already.**  On a simulated desktop, setting up first deals with an instance
that runs already.  If this does not fail, an instance is running at that moment, and still after
the profile was erased and looked for, if and only if one remains (`Simulated.Remains`): one
instance at most is asked to quit.  None is running if all that fit belong to one process. -/
theorem running_past_quitStale {b : Bench Empty σ} (get_put : ∀ s w, get (put s w) = s)
    (hd : b.browser.desktop = (desktop Empty).within get put)
    (hremove : ∀ path, Try.Respects (Same get) (b.files.removeDirectory path))
    (hlook : ∀ path, (b.files.isDirectory path).Respects (Same get)) (w : World σ)
    (hw : (get w.outside).Reachable) :
    let s := get w.outside
    let past := ((trying b.quitStale).run w).world
    b.setUp = (do trying b.quitStale; b.settleIn) ∧
    ∃ answer : Except RunError Unit, ((trying b.quitStale).run w).outcome = .returned answer ∧
      (answer = .ok () → ∃ running,
        (b.isRunning past.outside).outcome = .returned running ∧
        (b.isRunning (b.lookForProfile past).world.outside).outcome = .returned running ∧
        (running = true ↔ s.Remains b.target) ∧
        ((∀ v ∈ s.liveWindows, ∀ v' ∈ s.liveWindows,
          Simulated.fits b.target.instancePattern v → Simulated.fits b.target.instancePattern v' →
            v.pid = v'.pid) → running = false)) := by
  intro s past
  refine ⟨b.setUp_eq_settleIn, ?_⟩
  have ends := Act.Yields.ends (Q := fun out (w₁ : World σ) =>
    ∃ answer : Except RunError Unit, out = .returned answer ∧ (answer = .ok () →
      (get w₁.outside = s ∧ s.findWindow b.target.instancePattern = none) ∨
      ∃ code, s.Quits b.target b.settings.quitLimit (.ok code) (get w₁.outside)))
    (x := (trying b.quitStale).run) (w := w) (by
      rw [Try.yields_run, trying, Try.yields_within]
      exact (quitStale_yields get_put hd hw.numbered).imp
        (fun _ _ h => ⟨_, rfl, fun _ => h⟩) (fun e _ _ => ⟨.error e, rfl, fun h => nomatch h⟩)
        (fun _ _ h => h.elim) fun _ _ h => h.elim)
  obtain ⟨answer, hout, hpast⟩ := ends
  refine ⟨answer, hout, fun hok => ?_⟩
  have looks : ∀ w₁ : σ, (b.isRunning w₁).outcome =
      .returned ((get w₁).findWindow b.target.instancePattern).isSome := by
    intro w₁
    rw [(isRunning_within get_put hd).outcome_eq w₁]
    rfl
  have same : get (b.lookForProfile past).world.outside = get past.outside :=
    lookForProfile_respects hremove hlook past
  refine ⟨_, looks _, by rw [looks, same], ?_⟩
  obtain ⟨hsame, hnone⟩ | ⟨code, quits⟩ := hpast hok
  · have hrest : (get past.outside).findWindow b.target.instancePattern = none := hsame ▸ hnone
    have nothing := Simulated.not_remains_of_findWindow hnone
    simp [hrest, nothing]
  · refine ⟨quits.remains_iff, fun one => ?_⟩
    have nothing := quits.not_remains one
    rw [← quits.remains_iff] at nothing
    exact Bool.eq_false_iff.2 nothing

end Simulated

/-! ## Two instances -/

/-- A Mozilla browser on a simulated desktop, with collaborators that do nothing. -/
def idle : Bench Empty Simulated where
  settings := { exe := "App", profile := "profile", preload := .disabled }
  browser := .mozilla "App" ((desktop Empty).within id fun s _ => s)
  launcher := { launch := fun _ => pure (), run := fun _ => pure (some 0) }
  tracer := { start := fun _ => pure none, stop := pure () }
  analyzer := { analyze := fun _ _ => pure [] }
  files :=
    { isFile := fun _ => pure true
      isDirectory := fun _ => pure true
      removeDirectory := fun _ => pure ()
      list := fun _ => pure []
      removeFile := fun _ => pure ()
      makeTemporary := fun stem => pure ⟨stem⟩
      write := fun _ _ => pure () }
  output := { write := fun _ => pure (), flush := pure () }
  settle _ := pure false
  interrupted := pure false
  sleep _ := pure ()

lemma idle_target : idle.target = ⟨⟨"App", none⟩, .exactly "App", .appQuit⟩ := by
  decide +kernel

open QuitTarget (twoInstances)

lemma idle_quitStale {s : Simulated} (h : s.Reachable) {v : SimulatedWindow}
    {p : SimulatedProcess} (found : s.liveWindows.find? (Simulated.fits ⟨"App", none⟩) = some v)
    (owner : s.processes[v.pid]? = some p) (allowed : p.denyOpen = false)
    (obedient : p.obedience = .onQuit) :
    ((trying idle.quitStale).run ⟨{}, s⟩).outcome = .returned (.ok ()) ∧
      ∃ code, s.Quits idle.target none (.ok code)
        ((trying idle.quitStale).run ⟨{}, s⟩).world.outside := by
  have yields := @quitStale_yields_of_obedient Empty Simulated id (fun s _ => s) idle
    (fun _ _ => rfl) rfl s h.numbered v p (idle_target ▸ found) owner allowed obedient
  refine Act.Yields.ends (Q := fun (out : Outcome Empty (Except RunError Unit))
    (w₁ : World Simulated) => out = .returned (.ok ()) ∧
      ∃ code, s.Quits idle.target none (.ok code) w₁.outside) ?_
  rw [Try.yields_run, trying, Try.yields_within]
  exact yields.imp (fun _ _ quits => ⟨rfl, quits⟩) (fun _ _ hm => hm.elim)
    (fun _ _ hm => hm.elim) fun _ _ hm => hm.elim

/-- One instance with two windows, on two threads of its process. -/
def loneInstance : Simulated :=
  let s := Simulated.empty.addProcess ⟨10⟩ 3 .onQuit
  ((s.addWindow ⟨10⟩ ⟨1⟩ "App" none).2.addWindow ⟨10⟩ ⟨2⟩ "App" none).2

lemma loneInstance_reachable : loneInstance.Reachable :=
  .addWindow _ _ _ _ (.addWindow _ _ _ _ (.addProcess _ _ _ .empty))

lemma loneInstance_process :
    loneInstance.processes[(⟨10⟩ : ProcessId)]? = some { exitCode := 3, obedience := .onQuit } := by
  show (Simulated.empty.setProcess ⟨10⟩ _).processes[(⟨10⟩ : ProcessId)]? = _
  rw [Simulated.getElem?_setProcess, if_pos rfl]

lemma loneInstance_liveWindows : loneInstance.liveWindows =
    [⟨⟨1⟩, ⟨10⟩, ⟨1⟩, "App", none⟩, ⟨⟨2⟩, ⟨10⟩, ⟨2⟩, "App", none⟩] := by
  have listed : loneInstance.windows =
      [⟨⟨1⟩, ⟨10⟩, ⟨1⟩, "App", none⟩, ⟨⟨2⟩, ⟨10⟩, ⟨2⟩, "App", none⟩] := rfl
  simp [Simulated.liveWindows, listed, Simulated.isLive, loneInstance_process]

/-- A lone instance (`loneInstance`) has left when setting up goes on. -/
theorem lone_instance_left :
    loneInstance.Reachable ∧
      ((trying idle.quitStale).run ⟨{}, loneInstance⟩).outcome = .returned (.ok ()) ∧
      (idle.isRunning ((trying idle.quitStale).run ⟨{}, loneInstance⟩).world.outside).outcome =
        .returned false := by
  have first : loneInstance.liveWindows.find? (Simulated.fits ⟨"App", none⟩) =
      some ⟨⟨1⟩, ⟨10⟩, ⟨1⟩, "App", none⟩ := by
    rw [loneInstance_liveWindows]
    decide
  have one : ∀ v ∈ loneInstance.liveWindows, v.pid = ⟨10⟩ := by
    rw [loneInstance_liveWindows]
    decide
  obtain ⟨hout, -⟩ := idle_quitStale loneInstance_reachable first loneInstance_process rfl rfl
  obtain ⟨-, answer, hanswer, hpast⟩ := @running_past_quitStale Simulated id (fun s _ => s) idle
    (fun _ _ => rfl) rfl (fun _ _ => rfl) (fun _ _ => rfl) ⟨{}, loneInstance⟩ loneInstance_reachable
  have hok : answer = .ok () := by
    rw [hout] at hanswer
    cases hanswer
    rfl
  obtain ⟨running, hrunning, -, -, hnone⟩ := hpast hok
  refine ⟨loneInstance_reachable, hout, ?_⟩
  rw [hrunning, hnone fun v hv v' hv' _ _ => (one v hv).trans (one v' hv').symm]

/-- Of two instances (`twoInstances`) the second runs on when setting up goes on. -/
theorem second_instance_runs :
    twoInstances.Reachable ∧
      ((trying idle.quitStale).run ⟨{}, twoInstances⟩).outcome = .returned (.ok ()) ∧
      (idle.isRunning ((trying idle.quitStale).run ⟨{}, twoInstances⟩).world.outside).outcome =
        .returned true := by
  obtain ⟨first, asked⟩ := QuitTarget.twoInstances_first
  obtain ⟨hout, code, quits⟩ := idle_quitStale QuitTarget.twoInstances_reachable first
    (QuitTarget.twoInstances_processes ⟨10⟩) rfl rfl
  have remains : twoInstances.Remains idle.target := by
    rw [idle_target]
    refine ⟨_, ⟨⟨2⟩, ⟨11⟩, ⟨2⟩, "App", none⟩, first, ?_, rfl, ?_⟩
    · rw [QuitTarget.twoInstances_liveWindows]
      exact List.mem_cons_of_mem _ (List.mem_singleton_self _)
    · rintro ⟨-, v, hv, hpid⟩
      rw [asked] at hv
      rw [List.mem_singleton.1 hv] at hpid
      cases hpid
  refine ⟨QuitTarget.twoInstances_reachable, hout, ?_⟩
  rw [(@isRunning_within Empty Simulated id (fun s _ => s) idle (fun _ _ => rfl) rfl).outcome_eq]
  exact congrArg Outcome.returned (quits.remains_iff.2 remains)

end Bench

end StartupBench
