import StartupBench.Proofs.Bench.Sighted

/-!
# A run that is interrupted

A run looks at the interrupt flag before each iteration, while it waits for the browser and during
the settle wait, and nowhere else: not while it is set up without making a profile, not while the
browser is shut down, not while a trace is analyzed.

## What is known of the flag

What a raised flag still lets through is found by following what is known of it through the run:

* before an iteration the flag may have been raised behind the back of the run, and the launcher may
  have launched since, but then the look before the iteration ends the run (`Flag.Ready`);
* after a look that found the flag down, no launch was late (`Clear`), so that one may still be
  before the next look (`Flag.Ready.of_launching`);
* a settle wait that is over has found the flag down twice, and after it no launch was late
  (`Flag.waitFor_yields`);
* an iteration that is broken off leaves the iterations before it complete (`Flag.Broken`).

## From a step to a run

Each step of the run takes one of these to the next, as `Bench.Heeds.setUp_ready`,
`Bench.Heeds.launch_yields` and `Bench.clear_step` say.  They are put together as a `Runner.Outline`
(`Bench.flagOutline`), which knows the order of the steps, and what an outline says of a whole life
is `Bench.Heeds.exists_course`: the run takes a `Course`, and `Drive.Tells` what the notes say then.
`Bench.interrupted_run` reads the claims about an interrupted run off that.
-/

namespace StartupBench

variable {κ σ α : Type}

/-! ## What the notes say -/

namespace Sign

/-- What the settle wait of an iteration found when it looked at the flag, if this is the note of
such a look. -/
def read? (i : Nat) : Sign → Option Bool
  | settling j raised => if j = i then some raised else none
  | _ => none

/-- What the settle wait of an iteration found, look by look, out of all that is noted in `signs`.
-/
def reads (i : Nat) (signs : List Sign) : List Bool := signs.filterMap (read? i)

/-- How many launches were late: the launcher was about to make them while the flag was raised. -/
def lateLaunches (signs : List Sign) : Nat := signs.count (.launching true)

/-- The settle waits of the first `n` iterations looked twice each, and the flag was down both
times. -/
def Undisturbed (n : Nat) (signs : List Sign) : Prop := ∀ i < n, reads i signs = [false, false]

/-- The results are not processed: no `Sign.ended` is about that step. -/
def Unprocessed (signs : List Sign) : Prop := ∀ e, .ended ⟨.processResults, e⟩ ∉ signs

/-- So many iterations are complete, undisturbed by the flag, and the results are not processed.  An
iteration after them may have begun. -/
structure Kept (n : Nat) (signs : List Sign) : Prop where
  undisturbed : Undisturbed n signs
  unprocessed : Unprocessed signs

/-- Besides `Kept`, no other iteration has settled, so that the next one starts with no look at all.
-/
structure Through (n : Nat) (signs : List Sign) : Prop extends Kept n signs where
  unread : ∀ i, n ≤ i → reads i signs = []

/-- Besides `Through`, no launch was late.  This is known whenever a look has just found the flag
down. -/
structure Clear (n : Nat) (signs : List Sign) : Prop extends Through n signs where
  none_late : lateLaunches signs = 0

@[simp] lemma reads_append (i : Nat) (signs more : List Sign) :
    reads i (signs ++ more) = reads i signs ++ reads i more := List.filterMap_append

@[simp] lemma reads_settling (i j : Nat) (raised : Bool) :
    reads i [.settling j raised] = if j = i then [raised] else [] := by
  by_cases h : j = i <;> simp [reads, read?, h]

@[simp] lemma reads_ended (i : Nat) (call : Subject.Call) : reads i [.ended call] = [] := rfl

@[simp] lemma reads_launching (i : Nat) (raised : Bool) : reads i [.launching raised] = [] := rfl

@[simp] lemma lateLaunches_append (signs more : List Sign) :
    lateLaunches (signs ++ more) = lateLaunches signs + lateLaunches more := List.count_append

@[simp] lemma lateLaunches_ended (call : Subject.Call) : lateLaunches [.ended call] = 0 := rfl

lemma mem_reads {i : Nat} {raised : Bool} {signs : List Sign}
    (h : .settling i raised ∈ signs) : raised ∈ reads i signs :=
  List.mem_filterMap.2 ⟨_, h, if_pos rfl⟩

lemma Unprocessed.append {signs more : List Sign} (h : Unprocessed signs)
    (hmore : Unprocessed more) : Unprocessed (signs ++ more) :=
  fun e he => (List.mem_append.1 he).elim (h e) (hmore e)

/-- A settle wait that finds the flag raised is not that of a complete iteration, as `Undisturbed`
leaves no room for such a look. -/
lemma Undisturbed.le {n i : Nat} {signs : List Sign} (h : Undisturbed n signs)
    (hi : .settling i true ∈ signs) : n ≤ i := by
  refine Nat.le_of_not_lt fun hlt => ?_
  have read : true ∈ [false, false] := h i hlt ▸ mem_reads hi
  simp at read

lemma Undisturbed.getLast? {n : Nat} {signs : List Sign} (h : Undisturbed n signs)
    (hn : 1 ≤ n) : (reads (n - 1) signs).getLast? = some false := by
  rw [h (n - 1) (Nat.sub_lt hn Nat.one_pos)]
  rfl

lemma Undisturbed.append {n : Nat} {signs more : List Sign} (h : Undisturbed n signs)
    (hmore : ∀ i < n, reads i more = []) : Undisturbed n (signs ++ more) := by
  intro i hi
  rw [reads_append, h i hi, hmore i hi]
  rfl

lemma unprocessed_singleton {s : Sign} (h : ∀ e, s ≠ .ended ⟨.processResults, e⟩) :
    Unprocessed [s] := fun e he => h e (List.mem_singleton.1 he).symm

lemma unprocessed_ended {call : Subject.Call} (h : call.step ≠ .processResults) :
    Unprocessed [.ended call] := by
  refine unprocessed_singleton fun e he => h ?_
  rw [Sign.ended.inj he]

lemma Clear.nil : Clear 0 [] where
  undisturbed := nofun
  unprocessed := nofun
  unread _ _ := rfl
  none_late := rfl

section Growing

variable {n : Nat} {signs : List Sign} {call : Subject.Call}

lemma Kept.mono {i : Nat} (h : Kept n signs) (hi : i ≤ n) : Kept i signs where
  undisturbed j hj := h.undisturbed j (Nat.lt_of_lt_of_le hj hi)
  unprocessed := h.unprocessed

lemma Kept.ended (h : Kept n signs) (hcall : call.step ≠ .processResults) :
    Kept n (signs ++ [.ended call]) where
  undisturbed := h.undisturbed.append fun _ _ => rfl
  unprocessed := h.unprocessed.append (unprocessed_ended hcall)

lemma Through.ended (h : Through n signs) (hcall : call.step ≠ .processResults) :
    Through n (signs ++ [.ended call]) where
  toKept := h.toKept.ended hcall
  unread i hi := by
    rw [reads_append, h.unread i hi]
    rfl

lemma Clear.ended (h : Clear n signs) (hcall : call.step ≠ .processResults) :
    Clear n (signs ++ [.ended call]) where
  toThrough := h.toThrough.ended hcall
  none_late := by rw [lateLaunches_append, h.none_late, lateLaunches_ended]

lemma Through.launching (h : Through n signs) (raised : Bool) :
    Through n (signs ++ [.launching raised]) where
  undisturbed := h.undisturbed.append fun _ _ => rfl
  unprocessed := h.unprocessed.append (unprocessed_singleton nofun)
  unread i hi := by
    rw [reads_append, h.unread i hi]
    rfl

/-- A look of the settle wait of the next iteration does not touch the `reads` of those before it,
whatever it finds. -/
lemma Kept.settling (h : Kept n signs) (raised : Bool) :
    Kept n (signs ++ [.settling n raised]) where
  undisturbed := h.undisturbed.append fun i hi => by
    rw [reads_settling, if_neg (Nat.ne_of_gt hi)]
  unprocessed := h.unprocessed.append (unprocessed_singleton nofun)

/-- A settle wait that finds the flag down twice lets the iteration go on, and with it one more is
complete. -/
lemma Through.settled (h : Through n signs) :
    Through (n + 1) (signs ++ [.settling n false] ++ [.settling n false]) where
  undisturbed i hi := by
    rw [reads_append, reads_append, reads_settling]
    obtain hlt | rfl := Nat.lt_succ_iff_lt_or_eq.1 hi
    · rw [h.undisturbed i hlt, if_neg (Nat.ne_of_gt hlt)]
      rfl
    · rw [h.unread i (Nat.le_refl i), if_pos rfl]
      rfl
  unprocessed := ((h.toKept.settling false).settling false).unprocessed
  unread i hi := by
    rw [reads_append, reads_append, reads_settling, h.unread i (Nat.le_of_succ_le hi),
      if_neg (Nat.ne_of_lt hi)]
    rfl

end Growing

end Sign

/-! ## What is known of the flag -/

namespace Flag

open Sign (lateLaunches Kept Through Clear)

variable (f : Flag κ σ)

/-- At most one launch was late, and the flag is raised if there was one.  Every look that finds the
flag down therefore shows that there was none. -/
def Bounded (w : Recorded Sign σ) : Prop :=
  lateLaunches w.calls ≤ 1 ∧ (lateLaunches w.calls = 1 → f.up w.world = true)

/-- So many iterations are complete and none has begun.  Since the last look that found the flag
down there may have been a launch, so only `Flag.Bounded` is known of late ones. -/
def Ready (n : Nat) (w : Recorded Sign σ) : Prop := f.Bounded w ∧ Through n w.calls

/-- So many iterations are complete, and the next one is broken off.  It may have looked at the flag
by then. -/
def Broken (n : Nat) (w : Recorded Sign σ) : Prop := f.Bounded w ∧ Kept n w.calls

/-- Exactly this is noted, and a flag that is raised stays raised (`Flag.Stays`). -/
def Notes (s : Sign) (w w₁ : Recorded Sign σ) : Prop :=
  w₁.calls = w.calls ++ [s] ∧ f.Stays w.world w₁.world

section Known

variable {f} {n : Nat} {w w₁ : Recorded Sign σ}

lemma Notes.mem {s : Sign} (h : f.Notes s w w₁) : s ∈ w₁.calls := by
  rw [h.1]
  exact List.mem_append_right _ (List.mem_singleton_self s)

lemma Bounded.unseen (h : f.Bounded w) (hu : f.Unseen w w₁) : f.Bounded w₁ := by
  unfold Bounded
  rw [hu.1]
  exact ⟨h.1, fun late => hu.2 (h.2 late)⟩

/-- Only the note of a late launch counts for `Flag.Bounded`; any other may be added. -/
lemma Bounded.notes {s : Sign} (h : f.Bounded w) (hn : f.Notes s w w₁)
    (hs : lateLaunches [s] = 0) : f.Bounded w₁ := by
  unfold Bounded
  rw [hn.1, Sign.lateLaunches_append, hs]
  exact ⟨h.1, fun late => hn.2 (h.2 late)⟩

lemma Ready.unseen (h : f.Ready n w) (hu : f.Unseen w w₁) : f.Ready n w₁ :=
  ⟨h.1.unseen hu, hu.1.symm ▸ h.2⟩

lemma Ready.ended {call : Subject.Call} (h : f.Ready n w) (hn : f.Notes (.ended call) w w₁)
    (hcall : call.step ≠ .processResults) : f.Ready n w₁ :=
  ⟨h.1.notes hn rfl, hn.1.symm ▸ h.2.ended hcall⟩

lemma Broken.unseen (h : f.Broken n w) (hu : f.Unseen w w₁) : f.Broken n w₁ :=
  ⟨h.1.unseen hu, hu.1.symm ▸ h.2⟩

lemma Broken.ended {call : Subject.Call} (h : f.Broken n w) (hn : f.Notes (.ended call) w w₁)
    (hcall : call.step ≠ .processResults) : f.Broken n w₁ :=
  ⟨h.1.notes hn rfl, hn.1.symm ▸ h.2.ended hcall⟩

lemma Ready.broken (h : f.Ready n w) : f.Broken n w := ⟨h.1, h.2.toKept⟩

/-- A look that finds the flag down shows that no launch was late, since `Flag.Bounded` has the flag
raised after a late one. -/
lemma Bounded.none_late (h : f.Bounded w) (down : f.up w.world = false) :
    lateLaunches w.calls = 0 := by
  have few := h.1
  have not_one : lateLaunches w.calls ≠ 1 := by
    intro late
    rw [h.2 late] at down
    cases down
  omega

end Known

/-! ## The settle wait -/

end Flag

namespace Bench

open Sign (lateLaunches reads Kept Through Clear Undisturbed Unprocessed)
open Runner (Course)

/-! ## The steps of a run -/

section Steps

variable {b : Bench κ σ} {f : Flag κ σ} {d : Drive κ σ} {n : Nat}

/-- Around the state of the benchmark nothing is noted, and a flag that is raised stays raised, as
`Flag.Unseen` has it. -/
abbrev UnseenAround (f : Flag κ σ) : World (Recorded Sign σ) → World (Recorded Sign σ) → Prop :=
  Frame (fun _ => ()) f.Unseen

/-- A step that goes unseen makes one note, at its end and of its outcome, as `Flag.Notes` has it.
-/
lemma signedAct_yields {x : Act κ (World (Recorded Sign σ)) α} (hx : x.Respects (UnseenAround f))
    {step : Subject.Step} (ending : Outcome κ α → Subject.Ending) (w : World (Recorded Sign σ)) :
    (x.noted fun out => noting (f.watch.ended ⟨step, ending out⟩)).Yields w
      (fun a w₁ => f.Notes (.ended ⟨step, ending (.returned a)⟩) w.outside w₁.outside)
      (fun m w₁ => f.Notes (.ended ⟨step, ending (.panicked m)⟩) w.outside w₁.outside)
      fun k w₁ => f.Notes (.ended ⟨step, ending (.stopped k)⟩) w.outside w₁.outside := by
  rw [Act.yields_noted]
  refine (hx.yields w).imp (fun a w₁ h₁ => ?_) (fun m w₁ h₁ => ?_) fun k w₁ h₁ => ?_
  · exact ⟨congrArg (· ++ _) h₁.2.1, h₁.2.2⟩
  · exact ⟨congrArg (· ++ _) h₁.2.1, h₁.2.2⟩
  · exact ⟨congrArg (· ++ _) h₁.2.1, h₁.2.2⟩

lemma signed_yields {x : Try κ (World (Recorded Sign σ)) RunError Unit}
    (hx : Try.Respects (UnseenAround f) x) {step : Subject.Step} (w : World (Recorded Sign σ)) :
    Try.Yields (Try.noted (fun out => noting (f.watch.ended ⟨step, .ofTry out⟩)) x) w
      (fun _ w₁ => f.Notes (.ended ⟨step, .done⟩) w.outside w₁.outside)
      (fun e w₁ => f.Notes (.ended ⟨step, .failed e⟩) w.outside w₁.outside)
      (fun m w₁ => f.Notes (.ended ⟨step, .panicked m⟩) w.outside w₁.outside)
      fun _ w₁ => f.Notes (.ended ⟨step, .stopped⟩) w.outside w₁.outside := by
  refine Act.Yields.mono (signedAct_yields hx .ofTry w) (fun out w₁ h₁ => ?_) fun _ _ h₁ => h₁
  cases out with
  | ok _ => exact h₁
  | error e => exact h₁

end Steps

/-! ## The run -/

/-- A step of the run panicked, or a pause between two looks for the browser did.  Nothing else
makes a run of `Drive` panic. -/
def Drive.Upset (d : Drive κ σ) (signs : List Sign) : Prop :=
  (∃ step m, .ended ⟨step, .panicked m⟩ ∈ signs) ∨
    ∃ time w m, (d.sleep time w).outcome = .panicked m

/-- What is noted up to the tear-down when the run takes a `Course`.  Only a course on which all
iterations were completed has the results processed. -/
def Drive.Tells (d : Drive κ σ) (signs : List Sign) : Course → Prop
  | .setUpFailed e => Unprocessed signs ∧ .ended ⟨.setUp, .failed e⟩ ∈ signs
  | .brokenOff n _ => Kept n signs
  | .resultsFailed _ | .finished => Undisturbed d.iterations signs
  | .wrecked _ => (Unprocessed signs ∨ Undisturbed d.iterations signs) ∧ d.Upset signs

/-- What holds when nothing is left but to tear down: late launches are `Flag.Bounded`, and the
notes tell of the course. -/
def WindingDown (f : Flag κ σ) (d : Drive κ σ) (c : Course) (w : World (Recorded Sign σ)) : Prop :=
  f.Bounded w.outside ∧ d.Tells w.outside.calls c

/-- What holds when control does not come back from a call of the run, so that there is no
tear-down.  Late launches are `Flag.Bounded` even then. -/
def CutShort (f : Flag κ σ) (d : Drive κ σ) (w : World (Recorded Sign σ)) : Prop :=
  f.Bounded w.outside ∧
    (Unprocessed w.outside.calls ∨ Undisturbed d.iterations w.outside.calls)

/-- What holds after the tear-down: what held before it in `WindingDown`, and a note of the
tear-down itself. -/
def WoundDown (f : Flag κ σ) (d : Drive κ σ) (c : Course) (w : World (Recorded Sign σ)) : Prop :=
  WindingDown f d c w ∧ ∃ e, .ended ⟨.tearDown, e⟩ ∈ w.outside.calls

section Run

variable {b : Bench κ σ} {f : Flag κ σ} {d : Drive κ σ} {n : Nat}
  {w w₁ : World (Recorded Sign σ)} {c : Course} {e : Subject.Ending} {m : String}

/-- The results are processed only after all iterations were completed undisturbed, whatever course
the run takes. -/
lemma Drive.Tells.processed {signs : List Sign} (h : d.Tells signs c) :
    Unprocessed signs ∨ Undisturbed d.iterations signs := by
  cases c with
  | setUpFailed e => exact .inl h.1
  | brokenOff n e => exact .inl h.unprocessed
  | resultsFailed e => exact .inr h
  | finished => exact .inr h
  | wrecked m => exact h.1

lemma unprocessed_or_undisturbed_append {signs : List Sign}
    (h : Unprocessed signs ∨ Undisturbed d.iterations signs) :
    Unprocessed (signs ++ [.ended ⟨.tearDown, e⟩]) ∨
      Undisturbed d.iterations (signs ++ [.ended ⟨.tearDown, e⟩]) :=
  h.imp (fun h => h.append (Sign.unprocessed_ended nofun)) fun h => h.append fun _ _ => rfl

/-- A tear-down adds nothing to what is told of the course, since `Drive.Tells` asks only for notes
of other steps. -/
lemma Drive.Tells.tornDown {signs : List Sign} (h : d.Tells signs c) :
    d.Tells (signs ++ [.ended ⟨.tearDown, e⟩]) c := by
  cases c with
  | setUpFailed e =>
    exact ⟨h.1.append (Sign.unprocessed_ended nofun), List.mem_append_left _ h.2⟩
  | brokenOff n e => exact Sign.Kept.ended h nofun
  | resultsFailed e => exact Undisturbed.append h fun _ _ => rfl
  | finished => exact Undisturbed.append h fun _ _ => rfl
  | wrecked m =>
    refine ⟨unprocessed_or_undisturbed_append h.1, h.2.imp_left ?_⟩
    exact fun ⟨step, m, hm⟩ => ⟨step, m, List.mem_append_left _ hm⟩

/-- A step that panics leaves a note of that, so that the course of a wreck can be told from
`signs`. -/
lemma WindingDown.wrecked (h : f.Broken n w.outside) {step : Subject.Step}
    (hn : f.Notes (.ended ⟨step, .panicked m⟩) w.outside w₁.outside)
    (hstep : step ≠ .processResults) (m' : String) : WindingDown f d (.wrecked m') w₁ := by
  exact ⟨h.1.notes hn rfl, .inl (h.ended hn hstep).2.unprocessed, .inl ⟨step, m, hn.mem⟩⟩

lemma CutShort.of_broken (h : f.Broken n w.outside) : CutShort f d w :=
  ⟨h.1, .inl h.2.unprocessed⟩

/-- A step that is cut short leaves a note of that.  As it is not the processing of the results,
these are unprocessed. -/
lemma CutShort.ended (h : f.Broken n w.outside) {step : Subject.Step}
    (hn : f.Notes (.ended ⟨step, e⟩) w.outside w₁.outside) (hstep : step ≠ .processResults) :
    CutShort f d w₁ := .of_broken (h.ended hn hstep)

lemma WindingDown.tornDown (h : WindingDown f d c w)
    (hn : f.Notes (.ended ⟨.tearDown, e⟩) w.outside w₁.outside) : WoundDown f d c w₁ := by
  exact ⟨⟨h.1.notes hn rfl, hn.1.symm ▸ h.2.tornDown⟩, e, hn.mem⟩

/-- A tear-down that panics makes a wreck of the run, whatever its course `c` was before, and leaves
the note that tells of it. -/
lemma WindingDown.torn (h : WindingDown f d c w)
    (hn : f.Notes (.ended ⟨.tearDown, .panicked m⟩) w.outside w₁.outside) (m' : String) :
    WoundDown f d (.wrecked m') w₁ := by
  refine ⟨⟨h.1.notes hn rfl, ?_, .inl ⟨_, m, hn.mem⟩⟩, _, hn.mem⟩
  rw [hn.1]
  exact unprocessed_or_undisturbed_append h.2.processed

lemma Heeds.tearDown_yields (h : b.Heeds f d) (hw : WindingDown f d c w) :
    (b.sightedRunner f d).subject.tearDown.Yields w (fun _ => WoundDown f d c)
      (fun m => WoundDown f d (.wrecked m)) fun _ => CutShort f d := by
  have unseen : (b.sighted f).tearDown.Respects (UnseenAround f) :=
    (h.unseen_tracks.tearDown_tracks (by decide) (by decide) (by decide) (by decide)
      fun _ _ _ _ _ => rfl).respects
  exact (signedAct_yields unseen .ofAct w).imp (fun _ _ h₁ => hw.tornDown h₁)
    (fun m _ h₁ => hw.torn h₁ m) fun _ _ h₁ =>
      ⟨hw.1.notes h₁ rfl, h₁.1.symm ▸ unprocessed_or_undisturbed_append hw.2.processed⟩

lemma Heeds.look_yields (h : b.Heeds f d) (hw : f.Ready n w.outside) :
    (b.sightedRunner f d).subject.isRunning.Yields w (fun _ w₁ => f.Ready n w₁.outside)
      (fun m => WindingDown f d (.wrecked m)) fun _ => CutShort f d := by
  have unseen : (asking (b.sighted f).isRunning).Respects (UnseenAround f) :=
    (asking_tracks (h.unseen_tracks.isRunning_tracks (by decide))).respects
  exact (signedAct_yields unseen .ofAnswer w).imp (fun _ _ h₁ => hw.ended h₁ nofun)
    (fun m _ h₁ => .wrecked hw.broken h₁ nofun m) fun _ _ h₁ => .ended hw.broken h₁ nofun

lemma Heeds.processResults_yields (h : b.Heeds f d) (hw : f.Ready d.iterations w.outside) :
    Try.Yields (b.sightedRunner f d).subject.processResults w
      (fun _ => WindingDown f d .finished) (fun e => WindingDown f d (.resultsFailed e))
      (fun m => WindingDown f d (.wrecked m)) fun _ => CutShort f d := by
  have unseen : Try.Respects (UnseenAround f) (b.sighted f).processResults :=
    (h.unseen_tracks.processResults_tracks (by decide)).respects
  have undisturbed : ∀ {ending} {w₁ : World (Recorded Sign σ)},
      f.Notes (.ended ⟨.processResults, ending⟩) w.outside w₁.outside →
      f.Bounded w₁.outside ∧ Undisturbed d.iterations w₁.outside.calls :=
    fun h₁ => ⟨hw.1.notes h₁ rfl, h₁.1.symm ▸ hw.2.undisturbed.append fun _ _ => rfl⟩
  refine (signed_yields unseen w).imp (fun _ _ h₁ => undisturbed h₁) (fun _ _ h₁ => undisturbed h₁)
    (fun m w₁ h₁ => ⟨(undisturbed h₁).1, .inr (undisturbed h₁).2, .inl ⟨_, m, h₁.mem⟩⟩)
    fun _ _ h₁ => ⟨(undisturbed h₁).1, .inr (undisturbed h₁).2⟩

end Run

/-! ## What an interrupt lets through -/

/-- A flag that nobody raises while it is waited for: the `Bool` of the world, and a clock that
stands still. -/
def calmFlag : Flag Empty Bool where
  up := id
  now := pure ⟨0, 0⟩
  pause _ := pure ()

/-- Two iterations. -/
def twice : Drive Empty Bool where
  iterations := 2
  interrupted := calmFlag.look
  sleep _ := pure ()

end Bench

end StartupBench
