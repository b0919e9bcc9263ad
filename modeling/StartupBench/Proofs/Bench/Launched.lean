import StartupBench.Proofs.Bench.Panics
import StartupBench.Proofs.Bench.Returns
import StartupBench.Proofs.Bench.Stale
import StartupBench.Proofs.Quit.Restless

/-!
# Applications that were launched do not stay behind

The state of a benchmark knows of the application only whether it was launched and has not been seen
to quit (`Bench.State.launched`).  On a restless desktop (`Bench.Hosted`) a run keeps this: as long
as that is not set, all that was launched has exited (`Bench.Closing`), and at no moment does more
than one application run (`Bench.Watched`).

The tear-down looks for the application once.  One that has shown its window by then is asked to
quit; one that has not is missed (`Bench.Missed`), and that is the only way in which an application
outlasts the run.

## How the run is followed

The assertions of `Bench.launchedOutline` are three: before a launch all is `Bench.Quiet`, between a
launch and the end of the shutdown the application is `Bench.Busy`, and after the tear-down all is
`Bench.Gone`.  Each speaks of the whole chronicle so far, and so at every moment.  Most steps are
`Bench.Uneventful`; the four that are not have a lemma each: `Bench.launch_busy`,
`Bench.shutDown_quiet`, `Bench.createProfile_quiet` and `Bench.tearDown_gone`.

What a desktop may do by itself between two calls is `Simulated.Ages`, a preorder that a call of any
primitive keeps.  An attempt to make the application leave that does not fail leaves nothing that
was launched (`Bench.quit_yields`).
-/

namespace StartupBench.Bench

open QuitTarget (Restless)
open Simulated (Unfolds Launches Ages Newcomer AtMostOne AllLeft Shown Tame Sole fits)

variable {κ σ : Type}

/-! ## The surroundings of a run -/

/-- The desktop is restless.  A launch adds one process at most, and one that obeys; if it fails,
and in every other call, only that happens to the desktop which a desktop does by itself.  Control
comes back from every call (`Bench.Returns`). -/
structure Hosted (b : Bench κ σ) (d : Drive κ σ) (s₀ : Simulated) (get : σ → Simulated)
    (put : Simulated → σ → σ) (meanwhile : Act κ σ Unit) : Prop where
  restless : Restless s₀ get put meanwhile
  desktop : b.browser.desktop = Simulated.restless get put meanwhile
  launched : ∀ command w, Try.Yields (b.launcher.launch command) w
    (fun _ w₁ => Launches s₀ (get w) (get w₁)) (fun _ w₁ => Unfolds s₀ (get w) (get w₁))
    fun _ w₁ => Unfolds s₀ (get w) (get w₁)
  others : ∀ a : Ask, a.part ≠ .desktop → (∀ command, a ≠ .launch command) →
    (b.call a).Respects fun w w₁ => Unfolds s₀ (get w) (get w₁)
  interrupted : d.interrupted.Respects fun w w₁ => Unfolds s₀ (get w) (get w₁)
  sleep : ∀ time, (d.sleep time).Respects fun w w₁ => Unfolds s₀ (get w) (get w₁)
  returns : b.Returns d
  /-- To stop a trace may fail, but it does not panic. -/
  calm : ∀ w, Try.Yields b.tracer.stop w (fun _ _ => True) (fun _ _ => True) fun _ _ => False

/-- The desktop has grown older (`Simulated.Ages`) from one world to the other. -/
def Elapsed (s₀ : Simulated) (get : σ → Simulated) (w w₁ : σ) : Prop := Ages s₀ (get w) (get w₁)

instance (s₀ : Simulated) (get : σ → Simulated) : IsPreorder σ (Elapsed s₀ get) where
  refl w := Ages.refl s₀ (get w)
  trans _ _ _ := Ages.trans

/-- A step that launches nothing and does not write whether the application was launched. -/
abbrev Uneventful (s₀ : Simulated) (get : σ → Simulated) :
    World (Chronicled κ σ) → World (Chronicled κ σ) → Prop :=
  Frame State.launched (Since (fun _ => True) (Elapsed s₀ get))

/-- Something looks for a window (`Ask.findWindow`). -/
def Happening.IsLook : Happening κ → Prop
  | .asked (.findWindow _) _ => True
  | _ => False

namespace Hosted

variable {b : Bench κ σ} {d : Drive κ σ} {s₀ : Simulated} {get : σ → Simulated}
  {put : Simulated → σ → σ} {meanwhile : Act κ σ Unit} (h : b.Hosted d s₀ get put meanwhile)
include h

lemma call_respects (a : Ask) (ha : a.part ≠ .launcher) :
    (b.call a).Respects (Elapsed s₀ get) := by
  have asked : ∀ {α : Type} {x : Act κ Simulated α}, x.Respects (Ages s₀) →
      (do meanwhile; x.within get put).Respects (Elapsed s₀ get) := h.restless.respects
  have same : ∀ {α : Type} (question : Simulated → α),
      (Act.step fun s => (question s, s) : Act κ Simulated α).Respects (Ages s₀) :=
    fun _ s => Ages.refl s₀ s
  by_cases hd : a.part = .desktop
  · cases a with
    | findWindow p => rw [call, h.desktop]; exact asked (same fun s => s.findWindow p)
    | windowOwner id => rw [call, h.desktop]; exact asked (same fun s => s.windowOwner id)
    | threadWindows t => rw [call, h.desktop]; exact asked (same fun s => s.threadWindows t)
    | className id => rw [call, h.desktop]; exact asked (same fun s => s.className id)
    | waitForExit handle _ =>
      rw [call, h.desktop]
      exact asked (same fun s => s.waitForExit handle)
    | exitCode handle => rw [call, h.desktop]; exact asked (same fun s => s.exitCode handle)
    | openProcess pid =>
      rw [call, h.desktop]
      exact asked (x := Act.step fun s => s.openProcess pid)
        fun s => Simulated.ages_openProcess s₀ s pid
    | postQuit id message =>
      rw [call, h.desktop]
      exact asked (x := Act.step fun s => s.postQuit id message)
        fun s => Simulated.ages_postQuit s₀ s id message
    | closeProcess handle =>
      rw [call, h.desktop]
      exact asked (Simulated.closeProcess_respects s₀ handle)
    | _ => cases hd
  · intro w
    refine (h.others a hd (fun command hlaunch => ha ?_) w).ages
    rw [hlaunch]
    rfl

/-- What the parts other than the launcher do: in any of their calls the desktop only grows older
(`Elapsed`). -/
lemma keeps {K : Part → Prop} {C : Happening κ → Prop} (hK : ¬K .launcher)
    (hC : ∀ a out, K a.part → C (.asked a out)) : b.Keeps d K C (Elapsed s₀ get) :=
  .of_asked hC (fun a ha => h.call_respects a fun hpart => hK (hpart ▸ ha))
    (fun _ w => (h.interrupted w).ages) fun _ time w => (h.sleep time w).ages

/-- An attempt to make the application leave comes back: on a restless desktop nothing panics while
the process is open (`QuitTarget.quit_returns_of_opened`). -/
lemma quits : Try.Returns b.quit := by
  have turn : meanwhile.Calm := Act.PanicsIn.of_yields fun w =>
    (h.restless.answers w).imp (fun _ _ h => h) (fun _ _ h => h) fun _ _ _ => trivial
  have asked : ∀ {α : Type} (question : Simulated → α × Simulated),
      (do meanwhile; (Act.step question).within get put).Calm := fun _ =>
    turn.bind fun _ => .within (.of_returned fun _ => ⟨_, rfl⟩)
  have uses : (Simulated.restless get put meanwhile).UsesPanicIn (fun _ => False)
      b.settings.quitLimit :=
    { postQuit := fun w m => asked fun s => s.postQuit w m
      waitForExit := fun handle => asked fun s => (s.waitForExit handle, s)
      exitCode := fun handle => asked fun s => (s.exitCode handle, s) }
  have returns := h.returns.desktop
  unfold quit Browser.quit
  rw [h.desktop] at returns ⊢
  exact .mapError (QuitTarget.quit_returns_of_opened returns _ _ fun found handle =>
    .ensuring_of_calm (QuitTarget.whileOpen_returns returns _ _ found handle)
      (QuitTarget.whileOpen_panicsIn uses _ found handle) (returns.closeProcess handle))

/-- Every call of a run comes back, also where there is a chronicle of it
(`Bench.chronicledRunner`). -/
lemma chronicledRunner_returns : (b.chronicledRunner d).Returns :=
  (h.returns.driven h.quits).inherited (watchedRunner_over (b.chronicling_faithful d))

/-- Nothing is asked but the launcher: the rest is `Keeps` with no condition on what happens. -/
lemma keeps_others : b.Keeps d (· ≠ .launcher) (fun _ => True) (Elapsed s₀ get) :=
  h.keeps (fun hne => hne rfl) fun _ _ _ => trivial

end Hosted

/-! ## What is kept in a run -/

section Kept

variable (s₀ : Simulated) (get : σ → Simulated) (p : WindowPattern)

/-- The desktop is tame, and at no moment so far more than one newcomer was running. -/
structure Watched (w : Chronicled κ σ) : Prop where
  tame : Tame s₀ p (get w.world)
  one : AtMostOne s₀ (get w.world)
  seen : ∀ m ∈ w.calls, AtMostOne s₀ (get m.after)

/-- A tear-down has begun (`Happening.begunTearDown`), and nothing was looked for since. -/
def Begun (moments : List (Moment κ σ)) : Prop :=
  ∃ before begun between, moments = before ++ begun :: between ∧
    begun.happening = .begunTearDown ∧ ∀ m ∈ between, ¬m.happening.IsLook

/-- The moment at which a tear-down looked for the application and found none. -/
def LookedInVain (moments : List (Moment κ σ)) (m : Moment κ σ) : Prop :=
  ∃ before after, moments = before ++ m :: after ∧ Begun before ∧
    m.happening = .asked (.findWindow p) (.returned none)

/-- The tear-down found no application (`LookedInVain`), and the desktop has only grown older since.
-/
def Missed (w : Chronicled κ σ) : Prop :=
  ∃ m, LookedInVain p w.calls m ∧ (get m.after).findWindow p = none ∧
    Ages s₀ (get m.after) (get w.world)

/-- All that was launched has exited, and no moment so far had two of them. -/
def Quiet (w : World (Chronicled κ σ)) : Prop :=
  Watched s₀ get p w.outside ∧ AllLeft s₀ (get w.outside.world)

/-- The application was launched, and the state knows of it. -/
def Busy (w : World (Chronicled κ σ)) : Prop :=
  Watched s₀ get p w.outside ∧ w.state.launched = true

/-- If nothing is known of an application that was launched, all that was launched has exited or was
`Missed`. -/
def Closing (w : World (Chronicled κ σ)) : Prop :=
  Watched s₀ get p w.outside ∧ (w.state.launched = false →
    AllLeft s₀ (get w.outside.world) ∨ Missed s₀ get p w.outside)

/-- All that was launched has exited or was `Missed`, and the state does not know of an application
any more. -/
def Gone (w : World (Chronicled κ σ)) : Prop :=
  Closing s₀ get p w ∧ w.state.launched = false

end Kept

section Frames

variable {s₀ : Simulated} {get : σ → Simulated} {p : WindowPattern} {C : Happening κ → Prop}

lemma Watched.since {w w₁ : Chronicled κ σ} (hw : Watched s₀ get p w)
    (h : Since C (Elapsed s₀ get) w w₁) : Watched s₀ get p w₁ := by
  obtain ⟨hages, l, hcalls, hl⟩ := h
  refine ⟨hw.tame.ages hages, hw.one.ages hages, fun m hm => ?_⟩
  rw [hcalls] at hm
  obtain hbefore | hnew := List.mem_append.1 hm
  · exact hw.seen m hbefore
  · exact hw.one.ages (hl m hnew).2

lemma Begun.since {w w₁ : Chronicled κ σ} (hw : Begun w.calls)
    (h : Since (fun h => ¬h.IsLook) (Elapsed s₀ get) w w₁) : Begun w₁.calls := by
  obtain ⟨before, begun, between, hcalls, hbegun, hbetween⟩ := hw
  obtain ⟨-, l, hcalls₁, hl⟩ := h
  refine ⟨before, begun, between ++ l, ?_, hbegun, fun m hm => ?_⟩
  · rw [hcalls₁, hcalls, List.append_assoc, List.cons_append]
  · obtain hm | hm := List.mem_append.1 hm
    · exact hbetween m hm
    · exact (hl m hm).1

lemma Missed.since {w w₁ : Chronicled κ σ} (hw : Missed s₀ get p w)
    (h : Since C (Elapsed s₀ get) w w₁) : Missed s₀ get p w₁ := by
  obtain ⟨m, ⟨before, after, hcalls, hbegun, hasked⟩, hnone, hages⟩ := hw
  obtain ⟨hages₁, l, hcalls₁, -⟩ := h
  refine ⟨m, ⟨before, after ++ l, ?_, hbegun, hasked⟩, hnone, hages.trans hages₁⟩
  rw [hcalls₁, hcalls, List.append_assoc, List.cons_append]

variable {w w₁ : World (Chronicled κ σ)}

lemma Quiet.frame (hw : Quiet s₀ get p w) (h : Uneventful s₀ get w w₁) : Quiet s₀ get p w₁ :=
  ⟨hw.1.since h.2, hw.2.ages h.2.1⟩

lemma Busy.frame (hw : Busy s₀ get p w) (h : Uneventful s₀ get w w₁) : Busy s₀ get p w₁ :=
  ⟨hw.1.since h.2, h.1.trans hw.2⟩

lemma Closing.frame (hw : Closing s₀ get p w) (h : Uneventful s₀ get w w₁) :
    Closing s₀ get p w₁ :=
  ⟨hw.1.since h.2, fun hlaunched => (hw.2 (h.1.symm.trans hlaunched)).imp
    (fun hleft => hleft.ages h.2.1) fun hmissed => hmissed.since h.2⟩

lemma Gone.frame (hw : Gone s₀ get p w) (h : Uneventful s₀ get w w₁) : Gone s₀ get p w₁ :=
  ⟨hw.1.frame h, h.1.trans hw.2⟩

lemma Quiet.closing (hw : Quiet s₀ get p w) : Closing s₀ get p w := ⟨hw.1, fun _ => .inl hw.2⟩

lemma Busy.closing (hw : Busy s₀ get p w) : Closing s₀ get p w := by
  refine ⟨hw.1, fun hlaunched => ?_⟩
  rw [hw.2] at hlaunched
  cases hlaunched

/-- A step that is `Uneventful` leaves all `Quiet`, whichever way it ends. -/
lemma quiet_step {α : Type} {x : Try κ (World (Chronicled κ σ)) RunError α}
    (hw : Quiet s₀ get p w) (hx : Try.Respects (Uneventful s₀ get) x) :
    Try.Yields x w (fun _ => Quiet s₀ get p) (fun _ => Closing s₀ get p)
      fun _ => Closing s₀ get p :=
  (hx.yields w).imp (fun _ _ h₁ => hw.frame h₁) (fun _ _ h₁ => (hw.frame h₁).closing)
    (fun _ _ h₁ => (hw.frame h₁).closing) fun _ _ _ => trivial

/-- The end of a step is noted, and that is `Uneventful`. -/
lemma ended_step {x : Try κ (World (Chronicled κ σ)) RunError Unit}
    {I : World (Chronicled κ σ) → Prop} {step : Subject.Step}
    (hx : Try.Yields x w (fun _ => I) (fun _ => Closing s₀ get p) fun _ => Closing s₀ get p)
    (hI : ∀ w w₁, Uneventful s₀ get w w₁ → I w → I w₁) :
    Try.Yields (Try.noted (fun out => happens (.ended ⟨step, .ofTry out⟩)) x) w
      (fun _ => I) (fun _ => Closing s₀ get p) fun _ => Closing s₀ get p := by
  rw [Try.yields_noted]
  exact hx.mono (fun _ w₁ h₁ => hI w₁ _ (happens_frame trivial w₁) h₁)
    (fun _ w₁ h₁ => h₁.frame (happens_frame trivial w₁))
    fun _ w₁ h₁ => h₁.frame (happens_frame trivial w₁)

lemma begun_happens (w : World (Chronicled κ σ)) :
    Begun (happens .begunTearDown w).outside.calls :=
  ⟨w.outside.calls, ⟨.begunTearDown, w.outside.world⟩, [], rfl, rfl, fun _ hm => nomatch hm⟩

end Frames

/-! ## The steps that are about the application -/

section Steps

variable {b : Bench κ σ} {d : Drive κ σ} {s₀ : Simulated} {get : σ → Simulated}
  {put : Simulated → σ → σ} {meanwhile : Act κ σ Unit} (h : b.Hosted d s₀ get put meanwhile)
include h

/-- After a launch one application runs at most, whether the launcher says that it succeeded or not.
-/
lemma launch_watched {w : World (Chronicled κ σ)} (command : Command)
    (hw : Quiet s₀ get b.target.instancePattern w) :
    Try.Yields (trying (b.chronicled.launcher.launch command)) w
      (fun _ w₁ => Watched s₀ get b.target.instancePattern w₁.outside)
      (fun _ => Quiet s₀ get b.target.instancePattern)
      fun _ => Quiet s₀ get b.target.instancePattern := by
  obtain ⟨hwatched, hleft⟩ := hw
  have failed : ∀ (out : Outcome κ (Except RunError Unit)) (s : σ),
      Unfolds s₀ (get w.outside.world) (get s) →
      Quiet s₀ get b.target.instancePattern { w with outside :=
        ⟨w.outside.calls ++ [⟨.asked (.launch command) out, s⟩], s⟩ } :=
    fun out s hunfolds => Quiet.frame ⟨hwatched, hleft⟩
      ⟨rfl, since_snoc (C := fun _ => True) trivial hunfolds.ages⟩
  rw [trying, Try.yields_within]
  show Try.Yields (Try.chronicled (.asked (.launch command)) (b.launcher.launch command)) _ _ _ _
  rw [Try.yields_chronicled]
  refine (h.launched command w.outside.world).mono (fun _ s hs => ?_) (fun _ s hs => failed _ s hs)
    fun _ s hs => failed _ s hs
  obtain ⟨htame, hone⟩ := hs.spec hwatched.tame hleft
  refine ⟨htame, hone, fun m hm => ?_⟩
  obtain hbefore | hnew := List.mem_append.1 hm
  · exact hwatched.seen m hbefore
  · rw [List.mem_singleton.1 hnew]
    exact hone

/-- To look for the application is a moment of the chronicle, and what is answered is what the
desktop shows at that moment. -/
lemma isRunning_yields (w : Chronicled κ σ) :
    b.chronicled.isRunning.Yields w
      (fun seen w₁ => ∃ s, Elapsed s₀ get w.world s ∧
        seen = ((get s).findWindow b.target.instancePattern).isSome ∧
        w₁ = ⟨w.calls ++ [⟨.asked (.findWindow b.target.instancePattern)
          (.returned ((get s).findWindow b.target.instancePattern)), s⟩], s⟩)
      fun _ _ => False := by
  unfold isRunning Browser.isRunning
  rw [Act.yields_bind]
  show ((b.call (.findWindow b.target.instancePattern)).chronicled (.asked _)).Yields w _ _
  rw [Act.yields_chronicled, call, h.desktop]
  refine (h.restless.step (f := fun s => (s.findWindow b.target.instancePattern, s)) (w := w.world)
    (R := fun answer s => Ages s₀ (get w.world) s ∧
      answer = s.findWindow b.target.instancePattern)
    fun s hunfolds => ⟨hunfolds.ages, rfl⟩).imp (fun answer s hs => ?_) (fun _ _ hm => hm)
      fun _ _ _ => trivial
  obtain ⟨hages, rfl⟩ := hs
  exact ⟨s, hages, rfl, rfl⟩

/-- After an attempt to make the application leave that did not fail, all that was launched has
exited (`AllLeft`). -/
lemma quit_yields {w : Chronicled κ σ} (hw : Watched s₀ get b.target.instancePattern w) :
    Try.Yields b.chronicled.quit w
      (fun _ w₁ => Since (fun _ => True) (Elapsed s₀ get) w w₁ ∧ AllLeft s₀ (get w₁.world))
      (fun _ w₁ => Since (fun _ => True) (Elapsed s₀ get) w w₁ ∧
        (Shown s₀ b.target.instancePattern (get w.world) → AllLeft s₀ (get w₁.world)))
      fun _ _ => False := by
  have walk := (h.keeps_others.tracks none).quit_tracks nofun
  have leaves : Try.Yields b.quit w.world (fun _ s => AllLeft s₀ (get s))
      (fun _ s => Shown s₀ b.target.instancePattern (get w.world) → AllLeft s₀ (get s))
      fun _ _ => False := by
    unfold quit Browser.quit
    rw [Try.yields_mapError, h.desktop]
    exact (QuitTarget.quit_allLeft h.restless _ (fun _ => b.accepts_of_fits) hw.tame hw.one).imp
      (fun _ _ h => h) (fun _ _ h => h) (fun _ _ h => h) fun _ _ _ => trivial
  refine ((walk.respects.yields w).and (walk.toOver.yields leaves)).imp (fun _ _ h => h)
    (fun _ _ h => h) (fun _ _ h => h.2) fun _ _ _ => trivial

/-- An application that is asked to leave and does so is not noted any more: all is `Quiet` again.
-/
lemma quit_quiet {w : World (Chronicled κ σ)} (hw : Busy s₀ get b.target.instancePattern w) :
    Try.Yields
      (do
        let _ ← trying b.chronicled.quit
        Try.lift (note fun s => { s with launched := false }))
      w (fun _ => Quiet s₀ get b.target.instancePattern)
      (fun _ => Closing s₀ get b.target.instancePattern)
      fun _ => Closing s₀ get b.target.instancePattern := by
  unfold note
  rw [Try.yields_bind, trying, Try.yields_within]
  refine (quit_yields h hw.1).mono (fun _ w₁ h₁ => ?_) (fun _ w₁ h₁ => ?_) fun _ _ hm => hm.elim
  · rw [Try.yields_lift, Act.yields_update]
    exact ⟨hw.1.since h₁.1, h₁.2⟩
  · have busy : Busy s₀ get b.target.instancePattern { w with outside := w₁ } :=
      hw.frame ⟨rfl, h₁.1⟩
    exact busy.closing

/-- An application that makes a profile (`Bench.createProfile`) is gone when the profile is made. -/
lemma createProfile_quiet {w : World (Chronicled κ σ)}
    (hw : Quiet s₀ get b.target.instancePattern w) :
    Try.Yields b.chronicled.createProfile w (fun _ => Quiet s₀ get b.target.instancePattern)
      (fun _ => Closing s₀ get b.target.instancePattern)
      fun _ => Closing s₀ get b.target.instancePattern := by
  unfold createProfile
  rw [Try.yields_bind, Try.yields_log]
  cases b.chronicled.browser.profileCreation b.chronicled.settings.profile with
  | launchAndQuit extra =>
    have tracks := h.keeps_others.tracks none
    have awaited := b.settings.patience.await_tracks (tracks.isRunning_tracks nofun)
      (tracks.interrupted nofun) (tracks.sleep nofun)
    have waits : Try.Respects (Uneventful s₀ get) (trying (b.settings.patience.await
        b.chronicled.isRunning b.chronicled.interrupted b.chronicled.sleep)) :=
      (trying_tracks awaited).respects
    dsimp only
    rw [Try.yields_bind]
    refine (launch_watched h _ hw).mono (fun _ w₁ h₁ => ?_) (fun _ _ h₁ => h₁.closing)
      fun _ _ h₁ => h₁.closing
    -- The launch is noted before the wait, so that an application that comes late is known of.
    unfold note
    rw [Try.yields_bind, Try.yields_lift, Act.yields_update, Try.yields_bind]
    have busy : Busy s₀ get b.target.instancePattern
        { w₁ with state := { w₁.state with launched := true } } := ⟨h₁, rfl⟩
    refine (waits.yields _).imp (fun _ w₂ h₂ => ?_) (fun _ w₂ h₂ => (busy.frame h₂).closing)
      (fun _ w₂ h₂ => (busy.frame h₂).closing) fun _ _ _ => trivial
    exact quit_quiet h (busy.frame h₂)
  | runToEnd extra =>
    have runs : ∀ command, Try.Respects (Uneventful s₀ get)
        (trying (b.chronicled.launcher.run command)) := by
      intro command
      have hrun : (b.call (.run command)).Respects (Elapsed s₀ get) :=
        fun w => (h.others (.run command) nofun (fun _ => nofun) w).ages
      exact (trying_tracks (Act.chronicled_tracks (fun _ => trivial) hrun)).respects
    dsimp only
    rw [Try.yields_bind]
    refine ((runs _).yields w).imp (fun _ w₁ h₁ => ?_) (fun _ _ h₁ => (hw.frame h₁).closing)
      (fun _ _ h₁ => (hw.frame h₁).closing) fun _ _ _ => trivial
    rw [Try.yields_log]
    exact hw.frame h₁

lemma setUp_quiet {w : World (Chronicled κ σ)} (hw : Quiet s₀ get b.target.instancePattern w) :
    Try.Yields b.chronicled.setUp w (fun _ => Quiet s₀ get b.target.instancePattern)
      (fun _ => Closing s₀ get b.target.instancePattern)
      fun _ => Closing s₀ get b.target.instancePattern := by
  have tracks := h.keeps_others.tracks none
  have stale : Try.Respects (Uneventful s₀ get) (trying b.chronicled.quitStale) :=
    (trying_tracks (tracks.quitStale_tracks nofun)).respects
  have look : b.chronicled.lookForProfile.Respects (Uneventful s₀ get) := by
    unfold lookForProfile
    have found := (asking_tracks (f := State.launched) (tracks.isDirectory nofun
      b.settings.profile)).respects
    split
    · exact Act.Respects.bind (asking_tracks (tracks.eraseProfile_tracks nofun)).respects
        fun _ => found
    · exact found
  have override : Try.Respects (Uneventful s₀ get) b.chronicled.overridePreload :=
    (tracks.overridePreload_tracks nofun fun _ _ => rfl).respects
  have temporary : Try.Respects (Uneventful s₀ get) b.chronicled.makeTemporary :=
    (tracks.makeTemporary_tracks nofun fun _ _ => rfl).respects
  have rest : ∀ w₁, Quiet s₀ get b.target.instancePattern w₁ →
      Try.Yields (do b.chronicled.overridePreload; b.chronicled.makeTemporary) w₁
        (fun _ => Quiet s₀ get b.target.instancePattern)
        (fun _ => Closing s₀ get b.target.instancePattern)
        fun _ => Closing s₀ get b.target.instancePattern :=
    fun w₁ h₁ => quiet_step h₁ (override.bind fun _ => temporary)
  rw [setUp_eq_settleIn]
  unfold settleIn
  rw [Try.yields_bind]
  refine (quiet_step hw stale).mono (fun _ w₁ h₁ => ?_) (fun _ _ h => h) fun _ _ h => h
  rw [Try.yields_bind]
  refine (quiet_step h₁ (Try.Respects.lift look)).mono (fun present w₂ h₂ => ?_) (fun _ _ h => h)
    fun _ _ h => h
  split
  · rw [Try.yields_bind]
    exact (createProfile_quiet h h₂).mono (fun _ w₃ h₃ => rest w₃ h₃) (fun _ _ h => h)
      fun _ _ h => h
  · exact rest w₂ h₂

lemma launch_busy {w : World (Chronicled κ σ)} (hw : Quiet s₀ get b.target.instancePattern w) :
    Try.Yields b.chronicled.launch w (fun _ => Busy s₀ get b.target.instancePattern)
      (fun _ => Closing s₀ get b.target.instancePattern)
      fun _ => Closing s₀ get b.target.instancePattern := by
  unfold launch note
  rw [Try.yields_bind, Try.yields_ofExcept]
  cases b.chronicled.launchCommand with
  | error e => exact hw.closing
  | ok command =>
    dsimp only
    rw [Try.yields_bind]
    refine (launch_watched h command hw).mono (fun _ w₁ h₁ => ?_) (fun _ _ h₁ => h₁.closing)
      fun _ _ h₁ => h₁.closing
    rw [Try.yields_lift, Act.yields_update]
    exact ⟨h₁, rfl⟩

lemma shutDown_quiet {w : World (Chronicled κ σ)} (hw : Busy s₀ get b.target.instancePattern w) :
    Try.Yields b.chronicled.shutDown w (fun _ => Quiet s₀ get b.target.instancePattern)
      (fun _ => Closing s₀ get b.target.instancePattern)
      fun _ => Closing s₀ get b.target.instancePattern := by
  unfold shutDown
  rw [Try.yields_bind, Try.yields_log]
  exact quit_quiet h hw

/-! ## The tear-down -/

/-- To stop a trace neither looks for the application nor panics, so that the tear-down goes on to
its second step. -/
lemma stopTrace_closing {w : World (Chronicled κ σ)}
    (hw : Closing s₀ get b.target.instancePattern w) (hbegun : Begun w.outside.calls) :
    b.chronicled.stopTrace.Yields w
      (fun _ w₁ => Closing s₀ get b.target.instancePattern w₁ ∧ Begun w₁.outside.calls)
      fun _ _ => False := by
  have unlooked : ∀ a (out : Outcome κ a.Answer), a.part = .tracer →
      ¬(Happening.asked a out).IsLook := by
    intro a out ha
    cases a with
    | findWindow p => cases ha
    | _ => exact id
  have keeps : b.Keeps d (· = .tracer) (fun h => ¬h.IsLook) (Elapsed s₀ get) :=
    h.keeps (by decide) unlooked
  have walk :=
    ((keeps.tracks none).stopTrace_tracks (f := State.launched) rfl fun _ _ => rfl).respects
  have calm : b.chronicled.stopTrace.Yields w (fun _ _ => True) fun _ _ => False := by
    unfold Bench.stopTrace stateOf note
    rw [Act.yields_bind, Act.yields_reading]
    split
    · rw [Act.yields_bind, Act.yields_update, Act.yields_bind, asking, Act.yields_within,
        Try.yields_result]
      show Try.Yields (Try.chronicled (.asked .stopTrace) b.tracer.stop) _ _ _ _
      rw [Try.yields_chronicled]
      exact (h.calm _).mono (fun _ _ _ => trivial) (fun _ _ _ => trivial) fun _ _ hm => hm
    · trivial
  refine ((walk.yields w).and calm).imp (fun _ w₁ h₁ => ?_) (fun _ _ hm => hm.2)
    fun _ _ _ => trivial
  obtain ⟨⟨hlaunched, hsince⟩, -⟩ := h₁
  exact ⟨hw.frame ⟨hlaunched, hsince.weaken⟩, hbegun.since hsince⟩

/-- An application that is found is asked to leave; if none is found, none had shown its window at
that moment, and those launched are `Missed`. -/
lemma quitLaunched_gone {w : World (Chronicled κ σ)}
    (hw : Closing s₀ get b.target.instancePattern w) (hbegun : Begun w.outside.calls) :
    b.chronicled.quitLaunched.Yields w (fun _ => Gone s₀ get b.target.instancePattern)
      fun _ _ => False := by
  unfold quitLaunched stateOf note
  rw [Act.yields_bind, Act.yields_reading]
  cases hlaunched : w.state.launched with
  | false =>
    rw [if_neg Bool.false_ne_true, Act.yields_update]
    exact ⟨⟨hw.1, fun _ => hw.2 hlaunched⟩, rfl⟩
  | true =>
    rw [if_pos rfl, Act.yields_bind, asking, Act.yields_within]
    refine (isRunning_yields h w.outside).mono (fun seen w₁ h₁ => ?_) fun _ _ hm => hm
    obtain ⟨s, hages, rfl, rfl⟩ := h₁
    have watched : Watched s₀ get b.target.instancePattern
        (⟨w.outside.calls ++ [⟨.asked (.findWindow b.target.instancePattern)
          (.returned ((get s).findWindow b.target.instancePattern)), s⟩], s⟩ : Chronicled κ σ) :=
      hw.1.since (C := fun _ => True) (since_snoc trivial hages)
    cases hfind : (get s).findWindow b.target.instancePattern with
    | none =>
      -- An application that has not shown its window is missed here.
      rw [hfind] at watched
      rw [Option.isSome_none, if_neg Bool.false_ne_true, Act.yields_update]
      refine ⟨⟨watched, fun _ => .inr ⟨_, ⟨_, [], rfl, hbegun, rfl⟩, hfind, ?_⟩⟩, rfl⟩
      exact Ages.refl s₀ (get s)
    | some id =>
      rw [hfind] at watched
      obtain ⟨v, -, hsole⟩ := Sole.of_found watched.tame watched.one hfind
      have gone : ∀ w₂ : Chronicled κ σ, Since (fun _ => True) (Elapsed s₀ get)
          ⟨w.outside.calls ++ [⟨.asked (.findWindow b.target.instancePattern)
            (.returned (some id)), s⟩], s⟩ w₂ → AllLeft s₀ (get w₂.world) →
          Gone s₀ get b.target.instancePattern
            ⟨{ w.state with launched := false }, w₂⟩ :=
        fun w₂ hsince hleft => ⟨⟨watched.since hsince, fun _ => .inl hleft⟩, rfl⟩
      rw [Option.isSome_some, if_pos rfl, Act.yields_bind, Act.yields_log, Act.yields_bind, asking,
        Act.yields_within, Try.yields_result]
      refine (quit_yields h watched).mono (fun _ w₂ h₂ => ?_) (fun _ w₂ h₂ => ?_) fun _ _ hm => hm
      · rw [Act.yields_update]
        exact gone w₂ h₂.1 h₂.2
      · rw [Act.yields_bind, Act.yields_log, Act.yields_update]
        exact gone w₂ h₂.1 (h₂.2 hsole.shown)

lemma tearDown_gone {w : World (Chronicled κ σ)}
    (hw : Closing s₀ get b.target.instancePattern w) (hbegun : Begun w.outside.calls) :
    b.chronicled.tearDown.Yields w (fun _ => Gone s₀ get b.target.instancePattern)
      fun _ => Gone s₀ get b.target.instancePattern := by
  have tracks := h.keeps_others.tracks none
  have restore : b.chronicled.restorePreload.Respects (Uneventful s₀ get) :=
    (tracks.restorePreload_tracks nofun fun _ _ => rfl).respects
  have leave : b.chronicled.leaveTemporary.Respects (Uneventful s₀ get) :=
    (tracks.leaveTemporary_tracks nofun fun _ _ => rfl).respects
  unfold tearDown
  rw [Act.yields_bind]
  refine (stopTrace_closing h hw hbegun).mono (fun _ w₁ h₁ => ?_) fun _ _ hm => hm.elim
  rw [Act.yields_bind]
  refine (quitLaunched_gone h h₁.1 h₁.2).mono (fun _ w₂ h₂ => ?_) fun _ _ hm => hm.elim
  exact ((restore.bind fun _ => leave).keeps fun _ hw => h₂.frame hw).imp (fun _ _ h => h)
    (fun _ _ h => h) fun _ _ _ => trivial

end Steps

/-! ## The run -/

section Run

variable {b : Bench κ σ} {d : Drive κ σ} {s₀ : Simulated} {get : σ → Simulated}
  {put : Simulated → σ → σ} {meanwhile : Act κ σ Unit}

/-- Tearing down takes care of what was launched, the second time as the first: it leads from
`Closing` to `Gone`. -/
lemma tornDown (h : b.Hosted d s₀ get put meanwhile) {w : World (Chronicled κ σ)}
    (hw : Closing s₀ get b.target.instancePattern w) :
    (b.chronicledRunner d).subject.tearDown.Yields w
      (fun _ => Gone s₀ get b.target.instancePattern)
      fun _ => Gone s₀ get b.target.instancePattern := by
  have begun : Closing s₀ get b.target.instancePattern (happens .begunTearDown w) :=
    hw.frame (happens_frame trivial w)
  rw [chronicledRunner_tearDown, Act.yields_noted, Act.yields_bind, Act.yields_update]
  exact (tearDown_gone h begun (begun_happens w)).mono
    (fun _ w₁ h₁ => h₁.frame (happens_frame trivial w₁))
    fun _ w₁ h₁ => h₁.frame (happens_frame trivial w₁)

/-- The run and the applications that it launches. -/
def launchedOutline (h : b.Hosted d s₀ get put meanwhile) :
    Runner.Outline (b.chronicledRunner d) where
  start := Quiet s₀ get b.target.instancePattern
  ready _ := Quiet s₀ get b.target.instancePattern
  prepared _ := Quiet s₀ get b.target.instancePattern
  waiting _ _ := Busy s₀ get b.target.instancePattern
  running _ := Busy s₀ get b.target.instancePattern
  worked _ := Busy s₀ get b.target.instancePattern
  quiet _ := Quiet s₀ get b.target.instancePattern
  closing _ := Closing s₀ get b.target.instancePattern
  gone _ := Gone s₀ get b.target.instancePattern
  torn := Gone s₀ get b.target.instancePattern
  setUp w hw := by
    rw [chronicledRunner_setUp]
    exact ended_step (setUp_quiet h hw) fun _ _ h₁ hw₁ => hw₁.frame h₁
  check _ w _ hw := by
    have uneventful : (b.chronicledRunner d).interrupted.Respects (Uneventful s₀ get) :=
      (h.keeps_others.interrupted_tracks nofun).respects
    refine (uneventful.yields w).imp (fun yes _ h₁ => ?_) (fun _ _ h₁ => (hw.frame h₁).closing)
      fun _ _ _ => trivial
    cases yes with
    | true => exact (hw.frame h₁).closing
    | false => exact hw.frame h₁
  prepare _ w _ hw :=
    quiet_step hw (h.keeps_others.prepare_tracks nofun nofun (fun _ => trivial)
      fun _ _ _ => rfl).respects
  launch _ w _ hw := by
    rw [chronicledRunner_launch]
    exact ended_step (launch_busy h hw) fun _ _ h₁ hw₁ => hw₁.frame h₁
  look _ _ w _ hw := by
    have uneventful : (b.chronicledRunner d).subject.isRunning.Respects (Uneventful s₀ get) :=
      (h.keeps_others.isRunning_tracks nofun fun _ => trivial).respects
    refine (uneventful.yields w).imp (fun yes _ h₁ => ?_) (fun _ _ h₁ => (hw.frame h₁).closing)
      fun _ _ _ => trivial
    cases yes <;> exact hw.frame h₁
  recheck _ _ w _ hw := by
    have uneventful : (b.chronicledRunner d).interrupted.Respects (Uneventful s₀ get) :=
      (h.keeps_others.interrupted_tracks nofun).respects
    refine (uneventful.yields w).imp (fun yes _ h₁ => ?_) (fun _ _ h₁ => (hw.frame h₁).closing)
      fun _ _ _ => trivial
    cases yes with
    | true => exact (hw.frame h₁).closing
    | false => exact hw.frame h₁
  pause _ _ w _ hw := by
    have uneventful : ((b.chronicledRunner d).sleep d.patience.interval).Respects
        (Uneventful s₀ get) := (h.keeps_others.sleep_tracks nofun _).respects
    exact (uneventful.yields w).imp (fun _ _ h₁ => hw.frame h₁)
      (fun _ _ h₁ => (hw.frame h₁).closing) fun _ _ _ => trivial
  timeout _ _ _ hw := hw.closing
  work i w _ hw := by
    have uneventful : Try.Respects (Uneventful s₀ get) ((b.chronicledRunner d).subject.work i) :=
      (h.keeps_others.work_tracks nofun fun _ => trivial).respects
    exact (uneventful.yields w).imp (fun _ _ h₁ => hw.frame h₁)
      (fun _ _ h₁ => (hw.frame h₁).closing) (fun _ _ h₁ => (hw.frame h₁).closing)
      fun _ _ _ => trivial
  shutDown _ w _ hw := by
    rw [chronicledRunner_shutDown]
    exact ended_step (shutDown_quiet h hw) fun _ _ h₁ hw₁ => hw₁.frame h₁
  conclude _ w _ hw :=
    quiet_step hw (h.keeps_others.conclude_tracks nofun nofun nofun (fun _ => trivial)
      fun _ _ _ _ => rfl).respects
  processResults w hw :=
    (quiet_step hw (h.keeps_others.processResults_tracks nofun fun _ => trivial).respects).mono
      (fun _ _ h₁ => h₁.closing) (fun _ _ h₁ => h₁) fun _ _ h₁ => h₁
  tearDown _ _ hw := tornDown h hw
  tearDownAgain _ hw := tornDown h hw.1

end Run

/-- **What was launched does not stay behind.**  Let nothing that fits be found on the desktop at
first.  Then, whatever fails or is interrupted, at no moment of a run does more than one process run
that was launched; and when the run is over, a process that was launched has exited, unless it had
not shown its window at the moment when the tear-down looked for it. -/
theorem launched_exited {b : Bench Empty σ} {d : Drive Empty σ} {get : σ → Simulated}
    {put : Simulated → σ → σ} {meanwhile : Act Empty σ Unit} {w : σ}
    (h : b.Hosted d (get w) get put meanwhile) (hw : (get w).Reachable)
    (hnone : (get w).findWindow b.target.instancePattern = none) (progress : Option Progress) :
    let s := get (b.life d progress w).world.subject.outside
    (∀ m ∈ b.chronicle d progress w, AtMostOne (get w) (get m.after)) ∧
    ∀ pid, Newcomer (get w) s pid → s.isRunning pid = false ∨
      ∃ m, LookedInVain b.target.instancePattern (b.chronicle d progress w) m ∧
        ∀ v ∈ (get m.after).windows, fits b.target.instancePattern v → v.pid ≠ pid := by
  intro s
  have quiet : Quiet (get w) get b.target.instancePattern
      (⟨{}, ⟨[], w⟩⟩ : World (Chronicled Empty σ)) :=
    ⟨⟨.start hw.numbered hnone, AllLeft.start.atMostOne, fun _ hm => nomatch hm⟩, .start⟩
  have gone : Gone (get w) get b.target.instancePattern
      (b.watchedLife .chronicling d progress w).world.subject :=
    Act.Yields.ends (Q := fun _ (w₁ : Runner.World (World (Chronicled Empty σ))) =>
      Gone (get w) get b.target.instancePattern w₁.subject)
      ((((launchedOutline h).total h.chronicledRunner_returns).life_yields progress _ quiet).imp
        (fun _ _ ⟨_, _, h₁⟩ => h₁) (fun _ _ h₁ => h₁.elim id id)
        fun _ _ h₁ => h₁.elim False.elim And.right)
  obtain ⟨⟨watched, hleft⟩, hlaunched⟩ := gone
  refine ⟨watched.seen, fun pid hnew => ?_⟩
  have hleft := hleft hlaunched
  rw [watchedLife_outside (b.chronicling_faithful d)] at hleft
  obtain hleft | ⟨m, hlooked, hfind, hages⟩ := hleft
  · exact .inl (hleft pid hnew.1)
  · rw [watchedLife_outside (b.chronicling_faithful d)] at hages
    by_cases hrun : s.isRunning pid = true
    · refine .inr ⟨m, hlooked, fun v hv hfits hpid => ?_⟩
      have hlive : v ∈ (get m.after).liveWindows :=
        List.mem_filter.2 ⟨hv, Simulated.isLive_of_isRunning (hpid ▸ hages.isRunning hrun)⟩
      rw [Simulated.findWindow_eq, Option.map_eq_none_iff] at hfind
      exact absurd hfits (List.find?_eq_none.1 hfind v hlive)
    · exact .inl (Bool.not_eq_true _ ▸ hrun)

/-! ## An application whose window appears late -/

/-- The process of the application is there, and none of its windows: what a launch in `hosting`
does. -/
def opened (s : Simulated) : Simulated :=
  match s.processes[(⟨1⟩ : ProcessId)]? with
  | none => s.addProcess ⟨1⟩ 0 .onQuit
  | some _ => s

/-- If the process of the application is there, it has a window: what the desktop of `hosting` does
by itself. -/
def withWindow (s : Simulated) : Simulated :=
  match s.processes[(⟨1⟩ : ProcessId)]? with
  | none => s
  | some _ => if s.windows.isEmpty then (s.addWindow ⟨1⟩ ⟨1⟩ "App" none).2 else s

/-- A benchmark that launches an application whose window appears when the desktop is asked next
(`Simulated.restless`). -/
def hosting : Bench Empty Simulated :=
  { idle with
    browser := .mozilla "App" (Simulated.restless id (fun s _ => s) (Act.update withWindow))
    launcher := { launch := fun _ => Try.lift (Act.update opened), run := fun _ => pure (some 0) } }

/-- One iteration of `hosting` that the user does not interrupt. -/
def hostingDrive : Drive Empty Simulated :=
  { iterations := 1, interrupted := pure false, sleep := fun _ => pure () }

lemma empty_processes (pid : ProcessId) : Simulated.empty.processes[pid]? = none :=
  Std.HashMap.getElem?_empty

lemma hosting_hosted : hosting.Hosted hostingDrive Simulated.empty id (fun s _ => s)
    (Act.update withWindow) where
  restless :=
    { get_put := fun _ _ => rfl
      unfolds := by
        intro s
        show Unfolds Simulated.empty s (withWindow s)
        unfold withWindow
        split
        · exact .refl
        · split
          · exact .addWindow _ _ _ .refl ⟨empty_processes _, _, ‹_›⟩
          · exact .refl
      answers := fun _ => trivial }
  desktop := rfl
  launched _ s := by
    show Launches Simulated.empty s (opened s)
    unfold opened
    split
    · exact .inr ⟨s, ⟨1⟩, 0, .refl, ‹_›, .refl⟩
    · exact .inl .refl
  others a hd hl s := by
    cases a with
    | launch command => exact absurd rfl (hl command)
    | findWindow | windowOwner | threadWindows | className | openProcess | postQuit
    | waitForExit | exitCode | closeProcess => exact absurd rfl hd
    | storePreload state =>
      obtain ⟨enabled, size, stride⟩ := state
      cases enabled <;> exact .refl
    | _ => exact .refl
  interrupted _ := .refl
  sleep _ _ := .refl
  returns :=
    { call := by
        intro a
        cases a with
        | closeProcess handle =>
          refine Act.Returns.bind (.update _) fun _ => .within ?_
          exact Act.Returns.world.bind fun s => .ite (.update _) (.panic _)
        | storePreload state =>
          obtain ⟨enabled, size, stride⟩ := state
          cases enabled <;> exact .of_returned fun _ => ⟨_, rfl⟩
        | _ => exact .of_returned fun _ => ⟨_, rfl⟩
      interrupted := .pure _
      sleep := fun _ => .pure _ }
  calm _ := trivial

lemma withWindow_empty : withWindow Simulated.empty = Simulated.empty := by
  unfold withWindow
  rw [empty_processes]

/-- The desktop of `hosting` after a launch. -/
def afterLaunch : Simulated := Simulated.empty.addProcess ⟨1⟩ 0 .onQuit

lemma opened_empty : opened Simulated.empty = afterLaunch := by
  unfold opened
  rw [empty_processes]
  rfl

lemma afterLaunch_process :
    afterLaunch.processes[(⟨1⟩ : ProcessId)]? = some ⟨0, .onQuit, false, false⟩ := by
  rw [afterLaunch, Simulated.addProcess, Simulated.getElem?_setProcess, if_pos rfl]

/-- The desktop of `hosting` once the application has shown its window. -/
def afterLook : Simulated :=
  { afterLaunch with lastWindow := 1, windows := [⟨⟨1⟩, ⟨1⟩, ⟨1⟩, "App", none⟩] }

lemma withWindow_afterLaunch : withWindow afterLaunch = afterLook := by
  unfold withWindow
  rw [afterLaunch_process]
  rfl

lemma hosting_quitTarget : hosting.browser.quitTarget hosting.settings.profile =
    ⟨⟨"App", none⟩, .exactly "App", .appQuit⟩ := by
  show hosting.target = _
  decide +kernel

lemma hosting_isRunning (s : Simulated) :
    hosting.isRunning.Yields s
      (fun seen s₁ => seen = ((withWindow s).findWindow ⟨"App", none⟩).isSome ∧ s₁ = withWindow s)
      (fun _ _ => False) fun _ _ => False := by
  unfold isRunning Browser.isRunning
  rw [hosting_quitTarget]
  exact ⟨rfl, rfl⟩

/-- The process of the application is there and has exited. -/
def HasExited (s : Simulated) : Prop :=
  s.processes[(⟨1⟩ : ProcessId)]? = some ⟨0, .onQuit, true, false⟩

lemma hosting_quit : Try.Yields hosting.quit afterLook (fun _ => HasExited) (fun _ _ => False)
    (fun _ _ => False) fun _ _ => False := by
  have process := afterLaunch_process
  unfold quit Browser.quit
  rw [hosting_quitTarget]
  simp [HasExited, afterLook, QuitTarget.quit, QuitTarget.locate, QuitTarget.accepted,
    QuitTarget.whileOpen, QuitTarget.postAll, hosting, Browser.mozilla, Simulated.restless,
    Desktop.after, Desktop.within, Simulated.desktop, withWindow, Simulated.findWindow, fits,
    Simulated.isLive, Simulated.windowOwner, Simulated.liveWindow?, Simulated.threadWindows,
    Simulated.className, ClassRule.accepts, Simulated.openProcess, Simulated.postQuit,
    Simulated.modifyProcess, Simulated.setProcess, Simulated.waitForExit, Simulated.exitCode,
    Simulated.closeProcess, Simulated.closeHandle, Try.step, Try.within, process]

/-- What a set-up of `hosting` leaves in the state. -/
def acquired : State := { savedPreload := some .disabled, temporary := some "launchbench-" }

/-- The run of `hosting`, step by step: nothing fails, and the application exits when it is shut
down. -/
def hostingOutline : Runner.Outline (hosting.driven hostingDrive) where
  start w := w = ⟨{}, Simulated.empty⟩
  ready i w :=
    if i = 0 then w = ⟨acquired, Simulated.empty⟩ else w.state = acquired ∧ HasExited w.outside
  prepared _ w := w = ⟨{ acquired with tracing := true }, Simulated.empty⟩
  waiting _ n w := n = 0 ∧ w = ⟨{ acquired with tracing := true, launched := true }, afterLaunch⟩
  running _ w := w = ⟨{ acquired with tracing := true, launched := true }, afterLook⟩
  worked _ w := w = ⟨{ acquired with tracing := true, launched := true }, afterLook⟩
  quiet _ w := w.state = { acquired with tracing := true } ∧ HasExited w.outside
  closing c w := c = .finished ∧ w.state = acquired ∧ HasExited w.outside
  gone c w := c = .finished ∧ HasExited w.outside
  torn _ := False
  halted _ _ := False
  setUp := by
    rintro _ rfl
    have unseen : Try.Yields hosting.quitStale Simulated.empty (fun _ s => s = Simulated.empty)
        (fun _ _ => False) (fun _ _ => False) fun _ _ => False := by
      unfold quitStale
      rw [Try.yields_bind, Try.yields_lift]
      refine (hosting_isRunning _).mono (fun _ _ h => ?_) fun _ _ h => h
      obtain ⟨rfl, rfl⟩ := h
      rw [withWindow_empty]
      rfl
    show Try.Yields hosting.setUp _ _ _ _ _
    unfold setUp
    rw [Try.yields_bind, trying, Try.yields_within]
    refine unseen.mono (fun _ s h => ?_) (fun _ _ h => h.elim) fun _ _ h => h.elim
    subst h
    rfl
  check := by
    intro i w _ h
    exact h
  prepare i w hi h := by
    obtain rfl : i = 0 := Nat.lt_one_iff.1 hi
    subst h
    rfl
  launch := by
    rintro i _ hi rfl
    refine ⟨rfl, ?_⟩
    show (⟨_, opened Simulated.empty⟩ : World Simulated) = _
    rw [opened_empty]
  look := by
    rintro i n _ hi ⟨rfl, rfl⟩
    show (asking hosting.isRunning).Yields _ _ _ _
    rw [asking, Act.yields_within]
    refine (hosting_isRunning _).mono (fun seen s h => ?_) fun _ _ h => h.elim
    obtain ⟨rfl, rfl⟩ := h
    dsimp only
    rw [withWindow_afterLaunch]
    simp [Simulated.findWindow, afterLook, fits, Simulated.isLive, afterLaunch_process]
  -- The first look finds the application.
  recheck _ _ _ _ h := nomatch h.1
  pause _ _ _ _ h := nomatch h.1
  timeout _ _ _ h := nomatch h.1
  work := by
    rintro i _ hi rfl
    rfl
  shutDown := by
    rintro i _ hi rfl
    show Try.Yields hosting.shutDown _ _ _ _ _
    unfold shutDown
    rw [Try.yields_bind, Try.yields_log, Try.yields_bind, trying, Try.yields_within]
    exact hosting_quit.mono (fun _ s h => ⟨rfl, h⟩) (fun _ _ h => h.elim) fun _ _ h => h.elim
  conclude := by
    rintro i ⟨_, s⟩ hi ⟨rfl, h⟩
    exact ⟨rfl, h⟩
  processResults := by
    rintro ⟨_, s⟩ ⟨rfl, h⟩
    exact ⟨rfl, rfl, h⟩
  tearDown := by
    rintro _ ⟨_, s⟩ ⟨rfl, rfl, h⟩
    exact ⟨rfl, h⟩
  tearDownAgain _ h := h.elim

/-- The run of `hosting` comes to its end without a failure.  The one process that was launched is
there and has exited, and at no moment was another one running that was launched. -/
theorem hosting_exited :
    (hosting.life hostingDrive none Simulated.empty).outcome =
        .returned (.ok ⟨1, none, none, .tornDown⟩) ∧
      (hosting.life hostingDrive none Simulated.empty).world.subject.outside.processes[
        (⟨1⟩ : ProcessId)]? = some ⟨0, .onQuit, true, false⟩ ∧
      ∀ m ∈ hosting.chronicle hostingDrive none Simulated.empty,
        AtMostOne Simulated.empty m.after := by
  have hnone : Simulated.empty.findWindow hosting.target.instancePattern = none := rfl
  have watched := (@launched_exited Simulated hosting hostingDrive id (fun s _ => s)
    (Act.update withWindow) Simulated.empty hosting_hosted .empty hnone none).1
  have finished := Act.Yields.ends (Q := fun out (w : Runner.World (World Simulated)) =>
      out = .returned (.ok ⟨1, none, none, .tornDown⟩) ∧ HasExited w.subject.outside)
    ((hostingOutline.life_yields none ⟨{}, Simulated.empty⟩ rfl).imp
      (fun _ w₁ ⟨c, hc, hfinished, h⟩ => by subst hfinished; exact ⟨hc.symm, h⟩)
      (fun _ _ h => h.elim (nomatch ·.1) False.elim) fun _ _ h => h.elim False.elim (·.2.elim))
  exact ⟨finished.1, finished.2, watched⟩

end StartupBench.Bench
