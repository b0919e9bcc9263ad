import StartupBench.Proofs.Bench.Chronicle
import StartupBench.Proofs.Bench.Stale

/-!
# Making the profile

Setting up looks for the profile once (`Bench.inspect`).  If it is there then, nothing is launched
and it is there at the end.  Otherwise the browser is to make it, and that has gone well as soon as
the browser could be run to its end, whatever its exit code (Mozilla), or was seen and has left
again (Chromium); `Bench.Initializes` says which worlds that leads to.  Nobody looks whether the
profile is there now (`Bench.profile_of_setUp`).

The statement is about success (`Try.Succeeds`): what is known of the world after a set-up that did
not fail.  It is taken apart along the parts of the set-up by `Try.succeeds_bind`.  `Bench.Shows`
says what a benchmark has to do with a profile: it sees whether the profile is there, and neither
the preload setting nor temporary directories have anything to do with it.
-/

namespace StartupBench

namespace Try

variable {κ σ τ ε ε' α β : Type}

/-- Run from `w`, the computation answers `a`, without an error, and leaves `w₁`. -/
def Succeeds (x : Try κ σ ε α) (w : σ) (a : α) (w₁ : σ) : Prop :=
  (x.run w).outcome = .returned (.ok a) ∧ (x.run w).world = w₁

lemma Succeeds.of_yields {x : Try κ σ ε α} {w w₁ : σ} {a : α} {R : α → σ → Prop}
    {E : ε → σ → Prop} {P : String → σ → Prop} {H : Stop κ → σ → Prop} (h : Try.Succeeds x w a w₁)
    (hx : Try.Yields x w R E P H) : R a w₁ := by
  obtain ⟨out, rfl⟩ := h
  exact Act.Yields.of_returned hx out

/-- A computation in two parts succeeds if and only if both do (`Succeeds`), the second from the
world that the first left. -/
lemma succeeds_bind {x : Try κ σ ε α} {f : α → Try κ σ ε β} {w w₂ : σ} {b : β} :
    Try.Succeeds (x >>= f) w b w₂ ↔
      ∃ a w₁, Try.Succeeds x w a w₁ ∧ Try.Succeeds (f a) w₁ b w₂ := by
  unfold Succeeds
  rw [ExceptT.run_bind, Act.bind_run]
  rcases x.run w with ⟨(e | a) | m | k, w₁, n₁⟩
  · simp [Act.pure_run]
  · simp
  · simp
  · simp

lemma succeeds_log {level : Log.Level} {component : Log.Component} {message : String}
    {fields : List (String × String)} {w w₁ : σ} {a : Unit} :
    Try.Succeeds (Try.log level component message fields : Try κ σ ε Unit) w a w₁ ↔ w₁ = w :=
  ⟨fun h => h.2.symm, fun h => ⟨rfl, h.symm⟩⟩

lemma succeeds_within {get : τ → σ} {put : σ → τ → τ} {x : Try κ σ ε α} {w w₁ : τ} {a : α} :
    Try.Succeeds (Try.within get put x) w a w₁ ↔
      ∃ s, Try.Succeeds x (get w) a s ∧ w₁ = put s w := by
  constructor
  · rintro ⟨out, rfl⟩
    exact ⟨_, ⟨out, rfl⟩, rfl⟩
  · rintro ⟨s, ⟨out, rfl⟩, rfl⟩
    exact ⟨out, rfl⟩

end Try

namespace Bench

variable {κ σ : Type}

lemma trying_succeeds {ε α : Type} {x : Try κ σ ε α} {w w₁ : World σ} {a : α} :
    Try.Succeeds (trying x) w a w₁ ↔
      ∃ s, Try.Succeeds x w.outside a s ∧ w₁ = { w with outside := s } := Try.succeeds_within

/-! ## Looking for the profile -/

/-- What setting up does before it knows whether the profile is there: `Bench.quitStale` and
`Bench.lookForProfile`. -/
def inspect (b : Bench κ σ) : Try κ (World σ) RunError Bool := do
  trying b.quitStale
  Try.lift b.lookForProfile

lemma setUp_eq_inspect (b : Bench κ σ) : b.setUp = (do
    let there ← b.inspect
    if !there then b.createProfile
    b.overridePreload
    b.makeTemporary) := by
  rw [setUp_eq_settleIn]
  unfold settleIn inspect
  simp only [bind_assoc]

/-! ## Making it -/

/-- The browser has made the profile, as far as anybody looked: it was run to its end, whatever its
exit code, or it was launched, seen and asked to quit, and has left. -/
inductive Initializes (b : Bench κ σ) : σ → σ → Prop
  | ran {s s₁ : σ} {extra : List RawText} {status : Option Int}
      (creation : b.browser.profileCreation b.settings.profile = .runToEnd extra)
      (run : Try.Succeeds (b.launcher.run
        ⟨b.settings.exe, b.browser.launchArguments b.settings.profile extra⟩) s status s₁) :
      Initializes b s s₁
  | launched {s s₁ s₂ s₃ : σ} {extra : List RawText} {code : Option Int}
      (creation : b.browser.profileCreation b.settings.profile = .launchAndQuit extra)
      (launch : Try.Succeeds (b.launcher.launch
        ⟨b.settings.exe, b.browser.launchArguments b.settings.profile extra⟩) s () s₁)
      (seen : Try.Succeeds (b.settings.patience.await b.isRunning b.interrupted b.sleep) s₁ () s₂)
      (left : Try.Succeeds b.quit s₂ code s₃) : Initializes b s s₃

/-- Making the profile (`Bench.createProfile`) succeeds only once the browser has made it, as far as
anybody looked. -/
lemma createProfile_succeeds {b : Bench κ σ} {w w₁ : World σ}
    (h : Try.Succeeds b.createProfile w () w₁) : b.Initializes w.outside w₁.outside := by
  unfold createProfile at h
  obtain ⟨_, w₂, hlog, h⟩ := Try.succeeds_bind.1 h
  cases Try.succeeds_log.1 hlog
  cases hcreation : b.browser.profileCreation b.settings.profile with
  | runToEnd extra =>
    rw [hcreation] at h
    obtain ⟨status, w₃, hrun, h⟩ := Try.succeeds_bind.1 h
    cases Try.succeeds_log.1 h
    obtain ⟨s, run, rfl⟩ := trying_succeeds.1 hrun
    exact .ran hcreation run
  | launchAndQuit extra =>
    rw [hcreation] at h
    obtain ⟨_, w₃, hlaunch, h⟩ := Try.succeeds_bind.1 h
    obtain ⟨s, launch, rfl⟩ := trying_succeeds.1 hlaunch
    obtain ⟨_, w₄, ⟨-, rfl⟩, h⟩ := Try.succeeds_bind.1 h
    obtain ⟨_, w₅, hseen, h⟩ := Try.succeeds_bind.1 h
    obtain ⟨s₁, seen, rfl⟩ := trying_succeeds.1 hseen
    obtain ⟨code, w₆, hleft, -, rfl⟩ := Try.succeeds_bind.1 h
    obtain ⟨s₂, left, rfl⟩ := trying_succeeds.1 hleft
    exact .launched hcreation launch seen left

/-! ## Setting up -/

/-- A benchmark sees whether the profile is there (`present`), and neither the preload setting nor
temporary directories have anything to do with it. -/
structure Shows (b : Bench κ σ) (present : σ → Bool) : Prop where
  look : b.files.isDirectory b.settings.profile = Act.reading present
  load : Try.Respects (Same present) b.browser.preload.load
  store : ∀ v, Try.Respects (Same present) (b.browser.preload.store v)
  makeTemporary : ∀ stem, Try.Respects (Same present) (b.files.makeTemporary stem)

section Present

variable {b : Bench κ σ} {present : σ → Bool} (h : b.Shows present) {w : World σ}
include h

/-- What is answered by `Bench.inspect` is what is there. -/
lemma inspect_shows : Try.Yields b.inspect w (fun there w₁ => there = present w₁.outside)
    (fun _ _ => True) fun _ _ => True := by
  have look : ∀ w : World σ, (asking (b.files.isDirectory b.settings.profile)).Yields w
      (fun there w₁ => there = present w₁.outside) fun _ _ => True := by
    intro w
    rw [asking, Act.yields_within, h.look, Act.yields_reading]
  unfold inspect lookForProfile
  rw [Try.yields_bind]
  refine Try.Yields.anyway (fun _ w₁ => ?_) (fun _ _ => trivial) fun _ _ => trivial
  rw [Try.yields_lift]
  split
  · rw [Act.yields_bind]
    exact Act.Yields.anyway (fun _ w₂ => look w₂) fun _ _ => trivial
  · exact look w₁

/-- The preload setting and the temporary directory leave the profile as it is. -/
lemma settle_shows (hs : w.state.temporary = none) :
    Try.Yields (do b.overridePreload; b.makeTemporary) w
      (fun _ w₁ => present w₁.outside = present w.outside) (fun _ _ => True)
      fun _ _ => True := by
  unfold overridePreload makeTemporary trying tryingIo trying stateOf note asking
  simp only [Try.yields_bind, Try.yields_within, Try.yields_log, Try.yields_lift,
    Try.yields_mapError, Act.yields_update, Act.yields_reading, Act.yields_within]
  refine (h.load.yields w.outside).imp (fun v s hload => ?_) (fun _ _ _ => trivial)
    (fun _ _ _ => trivial) fun _ _ _ => trivial
  refine ((h.store _).yields s).imp (fun _ s₁ hstore => ?_) (fun _ _ _ => trivial)
    (fun _ _ _ => trivial) fun _ _ _ => trivial
  refine ((h.makeTemporary _).yields s₁).imp (fun path s₂ hmake => ?_) (fun _ _ _ => trivial)
    (fun _ _ _ => trivial) fun _ _ _ => trivial
  rw [hs, discardTemporary, Act.yields_pure]
  exact hmake.trans (hstore.trans hload)

end Present

/-- A benchmark does what it does: it tracks itself (`Bench.Tracks`), so that the walk along its
pieces applies. -/
lemma tracks_self (b : Bench κ σ) :
    b.Tracks id (Same fun _ => ()) (fun _ => True) b :=
  .of_calls rfl rfl rfl fun _ _ => ⟨fun _ => rfl, fun _ => rfl⟩

/-- Until the preload setting is overridden, no temporary directory is noted in the state. -/
lemma inspect_respects (b : Bench κ σ) :
    Try.Respects (Same fun w => w.state) b.inspect := by
  have asked : ∀ {α : Type} (x : Act κ σ α), (asking x).Respects (Same fun w => w.state) :=
    fun _ _ => rfl
  have looked : b.lookForProfile.Respects (Same fun w => w.state) := by
    unfold lookForProfile
    split
    · exact (asked _).bind fun _ => asked _
    · exact asked _
  exact Try.Respects.bind (asked _) fun _ => Try.Respects.lift looked

/-- **Setting up and the profile.**  Setting up looks for the profile once, after an instance that
runs already was dealt with and the profile was erased if that was asked for.  If it is there, then
setting up succeeds only with the profile there, and it does the same whatever the launcher would
do.  If it is not, then setting up succeeds only after the browser has made it as far as anybody
looked (`Initializes`); whether it is there in the end is as the browser has left it. -/
theorem profile_of_setUp {b : Bench κ σ} {present : σ → Bool} (h : b.Shows present) {w : σ}
    {w₁ : World σ} (done : Try.Succeeds b.setUp ⟨{}, w⟩ () w₁) :
    ∃ there looked, Try.Succeeds b.inspect ⟨{}, w⟩ there looked ∧
      there = present looked.outside ∧
      (there = true → present w₁.outside = true ∧
        ∀ launcher, Try.Succeeds { b with launcher := launcher }.setUp ⟨{}, w⟩ () w₁) ∧
      (there = false → ∃ made, Try.Succeeds b.createProfile looked () made ∧
        b.Initializes looked.outside made.outside ∧
        present w₁.outside = present made.outside) := by
  have whole := done
  rw [setUp_eq_inspect] at done
  obtain ⟨there, looked, inspected, rest⟩ := Try.succeeds_bind.1 done
  have hlooked : there = present looked.outside := inspected.of_yields (inspect_shows h)
  have hnone : looked.state.temporary = none := by
    have same := inspected.of_yields (Try.Respects.yields b.inspect_respects ⟨{}, w⟩)
    exact congrArg State.temporary same
  refine ⟨there, looked, inspected, hlooked, ?_, ?_⟩
  · rintro rfl
    refine ⟨(rest.of_yields (settle_shows h hnone)).trans hlooked.symm, fun launcher => ?_⟩
    rw [setUp_eq_inspect]
    exact Try.succeeds_bind.2 ⟨true, looked, inspected, rest⟩
  · rintro rfl
    obtain ⟨_, made, hmade, settled⟩ := Try.succeeds_bind.1 rest
    have made_none : made.state.temporary = none := by
      have frame := (b.tracks_self.createProfile_tracks (f := State.temporary) trivial trivial
        trivial fun _ _ => rfl).respects
      exact (hmade.of_yields (Try.Respects.yields frame looked)).1.trans hnone
    exact ⟨made, hmade, createProfile_succeeds hmade,
      settled.of_yields (settle_shows h made_none)⟩

/-! ## A browser that does not make its profile -/

/-- A Mozilla browser of which nothing is running.  The world is whether its profile is there, and
to run the browser ends with a failure after it did this to the profile. -/
def bare (effect : Bool → Bool) : Bench Empty Bool where
  settings := { exe := "App", profile := "profile", preload := .disabled }
  browser := .mozilla "App"
    { findWindow := fun _ => pure none
      windowOwner := fun _ => pure (⟨1⟩, ⟨1⟩)
      threadWindows := fun _ => pure []
      className := fun _ => pure none
      openProcess := fun pid => pure ⟨1, pid⟩
      postQuit := fun _ _ => pure ()
      waitForExit := fun _ _ => pure .exited
      exitCode := fun _ => pure (some 0)
      closeProcess := fun _ => pure () }
  launcher :=
    { launch := fun _ => pure ()
      run := fun _ => Try.step fun there => (.ok (some 1), effect there) }
  tracer := { start := fun _ => pure none, stop := pure () }
  analyzer := { analyze := fun _ _ => pure [] }
  files :=
    { isFile := fun _ => pure true
      isDirectory := fun _ => Act.reading id
      removeDirectory := fun _ => pure ()
      list := fun _ => pure []
      removeFile := fun _ => pure ()
      makeTemporary := fun stem => pure ⟨stem⟩
      write := fun _ _ => pure () }
  output := { write := fun _ => pure (), flush := pure () }
  settle _ := pure false
  interrupted := pure false
  sleep _ := pure ()

lemma bare_shows (effect : Bool → Bool) : (bare effect).Shows id where
  look := rfl
  load _ := rfl
  store _ := Try.Respects.ite (Try.Respects.fail _) (Try.Respects.pure _)
  makeTemporary _ _ := rfl

/-- The state of `bare` after setting up. -/
def bareState : State := { savedPreload := some .disabled, temporary := some ⟨"launchbench-"⟩ }

/-- A browser that makes its profile, though it ends with a failure: setting up succeeds, and the
profile is there. -/
theorem bare_made :
    (bare fun _ => true).Shows id ∧
      Try.Succeeds (bare fun _ => true).setUp ⟨{}, false⟩ () ⟨bareState, true⟩ ∧
      ∃ looked made, Try.Succeeds (bare fun _ => true).inspect ⟨{}, false⟩ false looked ∧
        (bare fun _ => true).Initializes looked.outside made ∧ made = true := by
  have done : Try.Succeeds (bare fun _ => true).setUp ⟨{}, false⟩ () ⟨bareState, true⟩ :=
    ⟨rfl, rfl⟩
  obtain ⟨there, looked, inspected, -, -, absent⟩ := profile_of_setUp (bare_shows _) done
  have out : Outcome.returned (Except.ok false) = .returned (.ok there) := inspected.1
  cases out
  obtain ⟨made, -, initialized, same⟩ := absent rfl
  exact ⟨bare_shows _, done, looked, made.outside, inspected, initialized, same.symm⟩

/-- A browser that does not make its profile: setting up succeeds all the same, and the profile is
not there. -/
theorem bare_not_made :
    (bare id).Shows id ∧ Try.Succeeds (bare id).setUp ⟨{}, false⟩ () ⟨bareState, false⟩ ∧
      ((bare id).files.isDirectory (bare id).settings.profile false).outcome = .returned false :=
  ⟨bare_shows id, ⟨rfl, rfl⟩, rfl⟩

end Bench

end StartupBench
