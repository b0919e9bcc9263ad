import StartupBench.Proofs.Act.Answers
import StartupBench.Proofs.Bench.Chronicle

/-!
# A tear-down that is repeated

A tear-down looks at four things in the state: whether a trace is being captured, whether the
browser may be running, the preload setting to be written back, and the temporary directory.  It
gives each of them back at most once, and the state forgets each of them whether or not it could be
given back.  So after one tear-down has come back nothing is left (`Bench.State.Bare`), and another
one asks nobody for anything and changes nothing (`Bench.tearDown_again`).

What a tear-down asks for is told by the chronicle of the benchmark (`Bench.GivesBack`): for each
thing that is held, the call that gives it back, in the order of the four.  For the browser that is
whether it runs, and then whatever it takes to make it quit (`Bench.Quits`).  The steps are followed
one after the other from any state, and each makes its calls and nothing else (`Bench.Made`).
-/

namespace StartupBench.Bench

variable {κ σ : Type}

/-! ## Nothing is left -/

/-- Nothing is held that a tear-down gives back: no trace, no browser, no setting and no directory.
-/
structure State.Bare (s : State) : Prop where
  tracing : s.tracing = false
  launched : s.launched = false
  savedPreload : s.savedPreload = none
  temporary : s.temporary = none

section Bare

variable (b : Bench κ σ) {w : World σ}

lemma stopTrace_of_bare (h : w.state.Bare) : b.stopTrace w = ⟨.returned (), w, []⟩ := by
  unfold Bench.stopTrace stateOf
  rw [Act.bind_run]
  dsimp only [Act.reading]
  rw [h.tracing]
  rfl

lemma quitLaunched_of_bare (h : w.state.Bare) : b.quitLaunched w = ⟨.returned (), w, []⟩ := by
  have same : { w.state with launched := false } = w.state := by
    rw [← h.launched]
  unfold quitLaunched stateOf note
  rw [Act.bind_run]
  dsimp only [Act.reading]
  rw [h.launched, if_neg Bool.false_ne_true]
  dsimp only [Act.update]
  rw [same]
  rfl

lemma restorePreload_of_bare (h : w.state.Bare) :
    b.restorePreload w = ⟨.returned (), w, []⟩ := by
  have same : { w.state with savedPreload := none } = w.state := by
    rw [← h.savedPreload]
  unfold restorePreload stateOf note
  rw [Act.bind_run]
  dsimp only [Act.reading]
  rw [Act.bind_run]
  dsimp only [Act.update]
  rw [same, h.savedPreload]
  rfl

lemma leaveTemporary_of_bare (h : w.state.Bare) :
    b.leaveTemporary w = ⟨.returned (), w, []⟩ := by
  have same : { w.state with temporary := none } = w.state := by
    rw [← h.temporary]
  unfold leaveTemporary stateOf note
  rw [Act.bind_run]
  dsimp only [Act.reading]
  rw [Act.bind_run]
  dsimp only [Act.update]
  rw [same, h.temporary]
  rfl

/-- Where nothing is left (`State.Bare`), a tear-down does nothing, and says nothing either. -/
lemma tearDown_of_bare (h : w.state.Bare) : b.tearDown w = ⟨.returned (), w, []⟩ := by
  unfold tearDown
  rw [Act.bind_run, b.stopTrace_of_bare h]
  dsimp only
  rw [Act.bind_run, b.quitLaunched_of_bare h]
  dsimp only
  rw [Act.bind_run, b.restorePreload_of_bare h]
  dsimp only
  rw [b.leaveTemporary_of_bare h]
  rfl

end Bare

/-! ## What is asked for -/

section Asks

variable (b : Bench κ σ)

/-- The pattern by which the browser is found on the desktop. -/
def pattern : WindowPattern := (b.browser.quitTarget b.settings.profile).instancePattern

/-- What is asked for on account of the browser: nothing if it was not launched; otherwise whether
it runs, and then whatever it takes to make it quit. -/
def Quits (launched : Bool) (asks : List Ask) : Prop :=
  if launched then ∃ more, asks = .findWindow b.pattern :: more ∧ ∀ a ∈ more, a.part = .desktop
  else asks = []

/-- What is asked for on account of the temporary directory: to remove it, if there is one and it is
not to be kept. -/
def removals (temporary : Option Path) : List Ask :=
  if b.settings.keepTemporary then [] else temporary.toList.map .removeDirectory

/-- What a tear-down in this state asks for: every thing that is held is given back, once, in this
order. -/
def GivesBack (s : State) (asks : List Ask) : Prop :=
  ∃ quitting, b.Quits s.launched quitting ∧
    asks = (if s.tracing then [.stopTrace] else []) ++ quitting ++
      s.savedPreload.toList.map .storePreload ++ b.removals s.temporary

end Asks

/-- From `w` to `w₁` these calls were made, in this order, and the state became this one. -/
def Made (state : State) (asks : List Ask) (w w₁ : World (Chronicled κ σ)) : Prop :=
  w₁.state = state ∧ ∃ moments, w₁.outside.calls = w.outside.calls ++ moments ∧
    asksIn moments = asks

lemma Made.noted (s : State) (w : World (Chronicled κ σ)) :
    Made s [] w { w with state := s } := by
  refine ⟨rfl, [], ?_, rfl⟩
  rw [List.append_nil]

lemma Made.trans {s s₁ : State} {asks more : List Ask} {w w₁ w₂ : World (Chronicled κ σ)}
    (h : Made s asks w w₁) (h₁ : Made s₁ more w₁ w₂) : Made s₁ (asks ++ more) w w₂ := by
  obtain ⟨-, moments, hmoments, rfl⟩ := h
  obtain ⟨hs, moments₁, hmoments₁, rfl⟩ := h₁
  refine ⟨hs, moments ++ moments₁, ?_, List.filterMap_append⟩
  rw [hmoments₁, hmoments, List.append_assoc]

section Pieces

variable (b : Bench κ σ) (w : World (Chronicled κ σ))

/-- One call of a collaborator is the only one that is `Made` by it. -/
lemma ask_makes (a : Ask) :
    (asking (b.ask a)).Yields w (fun _ => Made w.state [a] w) fun _ _ => True := by
  rw [asking, Act.yields_within, ask, Act.yields_chronicled]
  exact Act.Yields.anyway (fun _ s => ⟨rfl, _, rfl, rfl⟩) fun _ _ => trivial

lemma stopTrace_makes :
    b.chronicled.stopTrace.Yields w
      (fun _ => Made { w.state with tracing := false }
        (if w.state.tracing then [.stopTrace] else []) w)
      fun _ _ => True := by
  unfold Bench.stopTrace stateOf note
  rw [Act.yields_bind, Act.yields_reading]
  cases tracing : w.state.tracing with
  | false =>
    have same : { w.state with tracing := false } = w.state := by
      rw [← tracing]
    rw [same]
    exact Made.noted w.state w
  | true =>
    have noted := Made.noted { w.state with tracing := false } w
    rw [if_pos rfl, if_pos rfl, Act.yields_bind, Act.yields_update, Act.yields_bind]
    refine (b.ask_makes _ .stopTrace).mono (fun out w₁ h => ?_) fun _ _ _ => trivial
    cases out with
    | ok _ => exact noted.trans h
    | error e => exact noted.trans h

/-- Whatever it takes to make the browser quit (`Bench.quit`) is asked of the desktop. -/
lemma quit_makes :
    (asking b.chronicled.quit.result).Yields w
      (fun _ w₁ => ∃ asks, Made w.state asks w w₁ ∧ ∀ a ∈ asks, a.part = .desktop)
      fun _ _ => True := by
  let C : Happening κ → Prop := fun h => ∃ a, h.ask? = some a ∧ a.part = .desktop
  have tracks : b.chronicled.Tracks Recorded.world (Since C (Same fun _ => ())) (· = .desktop) b :=
    chronicled_tracks (fun a _ ha => ⟨a, rfl, ha⟩) fun _ _ _ => rfl
  have quit : (asking b.chronicled.quit.result).Respects
      (Frame id (Since C (Same fun _ => ()))) :=
    (asking_tracks (tracks.quit_tracks rfl).result).respects
  refine (quit.yields w).imp (fun _ w₁ h => ?_) (fun _ _ _ => trivial) fun _ _ _ => trivial
  obtain ⟨hstate, -, moments, hmoments, hC⟩ := h
  refine ⟨asksIn moments, ⟨hstate, moments, hmoments, rfl⟩, fun a ha => ?_⟩
  obtain ⟨m, hm, hask⟩ := List.mem_filterMap.1 ha
  obtain ⟨a', hask', hpart⟩ := (hC m hm).1
  rw [Option.some.inj (hask.symm.trans hask')]
  exact hpart

lemma isRunning_makes :
    (asking b.chronicled.isRunning).Yields w (fun _ => Made w.state [.findWindow b.pattern] w)
      fun _ _ => True := by
  rw [asking, Act.yields_within]
  show Act.Yields (b.ask (.findWindow b.pattern) >>= fun window => pure window.isSome) _ _ _
  rw [Act.yields_bind]
  exact Act.yields_within.1 (b.ask_makes w (.findWindow b.pattern))

lemma quitLaunched_makes :
    b.chronicled.quitLaunched.Yields w
      (fun _ w₁ => ∃ asks, b.Quits w.state.launched asks ∧
        Made { w.state with launched := false } asks w w₁)
      fun _ _ => True := by
  unfold quitLaunched stateOf note
  rw [Act.yields_bind, Act.yields_reading]
  cases launched : w.state.launched with
  | false => exact ⟨[], rfl, Made.noted _ w⟩
  | true =>
    rw [if_pos rfl, Act.yields_bind]
    refine (b.isRunning_makes w).mono (fun running w₁ h => ?_) fun _ _ _ => trivial
    have forgets : ∀ {w₂ : World (Chronicled κ σ)} {more : List Ask}, Made w.state more w₁ w₂ →
        (∀ a ∈ more, a.part = .desktop) → ∃ asks, b.Quits true asks ∧
          Made { w.state with launched := false } asks w
            { w₂ with state := { w₂.state with launched := false } } := by
      intro w₂ more hmore hdesktop
      have forgotten := Made.noted { w₂.state with launched := false } w₂
      have made := (h.trans hmore).trans forgotten
      rw [List.append_nil] at made
      refine ⟨_, ⟨more, rfl, hdesktop⟩, ?_, made.2⟩
      rw [hmore.1]
    cases running with
    | false =>
      have still : Made w.state [] w₁ w₁ := ⟨h.1, (Made.noted w₁.state w₁).2⟩
      exact forgets still fun a ha => absurd ha List.not_mem_nil
    | true =>
      rw [if_pos rfl, Act.yields_bind, Act.yields_log, Act.yields_bind]
      refine (b.quit_makes w₁).mono (fun out w₂ h₂ => ?_) fun _ _ _ => trivial
      obtain ⟨more, hmore, hdesktop⟩ := h₂
      rw [h.1] at hmore
      cases out with
      | ok _ => exact forgets hmore hdesktop
      | error e => exact forgets hmore hdesktop

lemma restorePreload_makes :
    b.chronicled.restorePreload.Yields w
      (fun _ => Made { w.state with savedPreload := none }
        (w.state.savedPreload.toList.map .storePreload) w)
      fun _ _ => True := by
  have noted := Made.noted { w.state with savedPreload := none } w
  unfold restorePreload stateOf note
  rw [Act.yields_bind, Act.yields_reading, Act.yields_bind, Act.yields_update]
  cases w.state.savedPreload with
  | none => exact noted
  | some before =>
    dsimp only
    rw [Act.yields_bind]
    refine (b.ask_makes _ (.storePreload before)).mono (fun out w₁ h => ?_) fun _ _ _ => trivial
    cases out with
    | ok _ => exact noted.trans h
    | error e => exact noted.trans h

lemma leaveTemporary_makes :
    b.chronicled.leaveTemporary.Yields w
      (fun _ => Made { w.state with temporary := none } (b.removals w.state.temporary) w)
      fun _ _ => True := by
  have noted := Made.noted { w.state with temporary := none } w
  unfold leaveTemporary stateOf note removals
  rw [Act.yields_bind, Act.yields_reading, Act.yields_bind, Act.yields_update]
  cases w.state.temporary with
  | none =>
    rw [Option.toList_none, List.map_nil, ite_self]
    exact noted
  | some path =>
    have settings : b.chronicled.settings = b.settings := rfl
    dsimp only
    rw [settings]
    by_cases keep : b.settings.keepTemporary = true
    · rw [if_pos keep, if_pos keep]
      exact noted
    · rw [if_neg keep, if_neg keep, Act.yields_bind, Act.yields_log, Act.yields_bind]
      refine (b.ask_makes _ (.removeDirectory path)).mono (fun out w₁ h => ?_) fun _ _ _ => trivial
      cases out with
      | ok _ => exact noted.trans h
      | error e => exact noted.trans h

/-- A tear-down that comes back has given back what was held (`GivesBack`), and nothing is left
(`State.Bare`). -/
lemma tearDown_makes :
    b.chronicled.tearDown.Yields w
      (fun _ w₁ => w₁.state.Bare ∧ ∃ asks, b.GivesBack w.state asks ∧ Made w₁.state asks w w₁)
      fun _ _ => True := by
  unfold tearDown
  rw [Act.yields_bind]
  refine (b.stopTrace_makes w).mono (fun _ w₁ h₁ => ?_) fun _ _ _ => trivial
  rw [Act.yields_bind]
  refine (b.quitLaunched_makes w₁).mono (fun _ w₂ h₂ => ?_) fun _ _ _ => trivial
  obtain ⟨quitting, hquits, h₂⟩ := h₂
  rw [Act.yields_bind]
  refine (b.restorePreload_makes w₂).mono (fun _ w₃ h₃ => ?_) fun _ _ _ => trivial
  refine (b.leaveTemporary_makes w₃).mono (fun _ w₄ h₄ => ?_) fun _ _ _ => trivial
  have all := ((h₁.trans h₂).trans h₃).trans h₄
  rw [h₁.1] at hquits
  rw [h₃.1, h₂.1, h₁.1] at h₄ all
  rw [h₄.1]
  exact ⟨⟨rfl, rfl, rfl, rfl⟩, _, ⟨quitting, hquits, rfl⟩, all⟩

end Pieces

/-! ## Once and again -/

/-- The world, of which nothing has been asked yet: its chronicle is empty. -/
def unasked (w : World σ) : World (Chronicled κ σ) := ⟨w.state, ⟨[], w.outside⟩⟩

/-- The chronicle changes nothing of a tear-down (`Act.Over`). -/
lemma tearDown_over (b : Bench κ σ) :
    b.chronicled.tearDown.Over (World.map Recorded.world) b.tearDown := by
  have tracks : b.chronicled.Tracks Recorded.world (Since (fun _ => True) (Same fun _ => ()))
      (fun _ => True) b := chronicled_tracks (fun _ _ _ => trivial) fun _ _ _ => rfl
  let f : State → Unit := fun _ => ()
  have torn := tracks.tearDown_tracks (f := f) trivial trivial trivial trivial fun _ _ _ _ _ => rfl
  exact torn.toOver

/-- **A tear-down that came back is not done twice.**  From whatever state and in whatever way the
collaborators end their calls: a tear-down that comes back has asked for each thing that was held to
be given back, once (`GivesBack`), and after it a further tear-down comes back at once, without a
call of a collaborator and without a notice, and changes neither the state nor the world around it.
-/
theorem tearDown_again (b : Bench κ σ) {w w₁ : World σ} (torn : b.tearDown.Answers w () w₁) :
    (∀ outside, b.tearDown ⟨w₁.state, outside⟩ = ⟨.returned (), ⟨w₁.state, outside⟩, []⟩) ∧
      ∃ moments : List (Moment κ σ),
        b.chronicled.tearDown.Answers (unasked w) () ⟨w₁.state, ⟨moments, w₁.outside⟩⟩ ∧
        b.GivesBack w.state (asksIn moments) ∧
        b.chronicled.tearDown ⟨w₁.state, ⟨moments, w₁.outside⟩⟩ =
          ⟨.returned (), ⟨w₁.state, ⟨moments, w₁.outside⟩⟩, []⟩ := by
  obtain ⟨came, rfl⟩ := torn
  have recorded := b.tearDown_over
  have came' : (b.chronicled.tearDown (unasked w)).outcome = .returned () :=
    (recorded.outcome_eq (unasked w)).trans came
  have left := recorded.world_eq (unasked w)
  obtain ⟨bare, asks, gives, -, moments, calls, rfl⟩ :=
    (b.tearDown_makes (unasked w)).of_returned came'
  rcases hran : (b.chronicled.tearDown (unasked w)).world with ⟨s, moments', outside⟩
  rw [hran] at left bare calls
  have same : (b.tearDown w).world = ⟨s, outside⟩ := left.symm
  obtain rfl : moments' = moments := calls
  rw [same]
  exact ⟨fun o => b.tearDown_of_bare bare, moments', ⟨came', hran⟩, gives,
    b.chronicled.tearDown_of_bare bare⟩

/-- A benchmark that can give nothing back: every call that would do so fails. -/
def stubborn : Bench Empty Unit where
  settings := { exe := "App", profile := "profile", preload := .disabled }
  browser :=
    { family := .mozilla
      exe := "App"
      desktop :=
        { findWindow := fun _ => pure (some ⟨1⟩)
          windowOwner := fun _ => Try.fail ⟨"window_owner", .os .noProcess⟩
          threadWindows := fun _ => pure []
          className := fun _ => pure none
          openProcess := fun pid => pure ⟨1, pid⟩
          postQuit := fun _ _ => pure ()
          waitForExit := fun _ _ => pure .exited
          exitCode := fun _ => pure none
          closeProcess := fun _ => pure () }
      preload :=
        { load := pure .disabled
          store := fun _ => Try.fail (.unsupportedFeature "DLL preloading" "App") } }
  launcher := { launch := fun _ => pure (), run := fun _ => pure none }
  tracer := { start := fun _ => pure none, stop := Try.fail (.traceStop "busy") }
  analyzer := { analyze := fun _ _ => pure [] }
  files :=
    { isFile := fun _ => pure true
      isDirectory := fun _ => pure true
      removeDirectory := fun _ => Try.fail (.os .notEmpty)
      list := fun _ => pure []
      removeFile := fun _ => pure ()
      makeTemporary := fun stem => pure ⟨stem⟩
      write := fun _ _ => pure () }
  output := { write := fun _ => pure (), flush := pure () }
  settle _ := pure false
  interrupted := pure false
  sleep _ := pure ()

/-- All four things are held. -/
def holding : State where
  savedPreload := some .disabled
  temporary := some "traces"
  tracing := true
  launched := true

/-- Every call of the first tear-down of `stubborn` fails, and there is no second one of any of
them. -/
theorem stubborn_torn_once :
    stubborn.tearDown.Answers ⟨holding, ()⟩ () ⟨{}, ()⟩ ∧
      ∃ moments : List (Moment Empty Unit),
        asksIn moments = [.stopTrace, .findWindow stubborn.pattern, .findWindow stubborn.pattern,
          .windowOwner ⟨1⟩, .storePreload .disabled, .removeDirectory "traces"] ∧
        stubborn.chronicled.tearDown ⟨{}, ⟨moments, ()⟩⟩ =
          ⟨.returned (), ⟨{}, ⟨moments, ()⟩⟩, []⟩ := by
  have answers : stubborn.tearDown.Answers ⟨holding, ()⟩ () ⟨{}, ()⟩ := ⟨rfl, rfl⟩
  obtain ⟨-, moments, ⟨-, torn⟩, -, again⟩ := stubborn.tearDown_again answers
  have calls : (stubborn.chronicled.tearDown (unasked ⟨holding, ()⟩)).world.outside.calls =
      moments := congrArg (fun w => w.outside.calls) torn
  refine ⟨answers, moments, ?_, again⟩
  rw [← calls]
  rfl

end StartupBench.Bench
