import StartupBench.Proofs.Runner.Recorded

/-!
# Which calls a run makes

A run sets its subject up, takes it through complete iterations one after the other, breaks off at
most one of them, processes the results if all iterations are complete and tears the subject down.
This is shown of the record of calls (`Runner.calls`), for every subject and every way in which its
steps may end, together with what the run answers.

## The parts of a record

The calls of a complete iteration are a `block`, with so many looks for the application that were in
vain.  The iteration that was broken off is a part of a block whose last call took the place of the
one that would have been there (`CutAt`).  An `Account` has these parts of a record, `Account.Sound`
says that they fit together to a run, and `Account.Tells` reads off them how the run went
(`Course`).

The record is followed through the run by an `Outline` whose assertions are about the calls alone
(`Runner.callsOutline`).  `Runner.life_calls` is the conclusion.  That an account exists for every
record is also what other modules use: the exit code of the program is a matter of the account of
its run (`Runner.exists_account`).
-/

namespace StartupBench

namespace Subject

/-- A look for the application (`Subject.Step.isRunning`) that is in vain. -/
def Call.vainLook : Call := ⟨.isRunning, .answered false⟩

/-- A call that ends the iteration it is made in: it failed or panicked, or it is a `vainLook` after
which nobody looks again. -/
def Call.BreaksOff (call : Call) : Prop :=
  (∃ e, call.ending = .failed e) ∨ (∃ m, call.ending = .panicked m) ∨ call = vainLook

/-- The calls of an iteration up to so many looks in vain: it is prepared and the application
launched. -/
def waited (i looks : Nat) : List Call :=
  ⟨.prepare i, .done⟩ :: ⟨.launch, .done⟩ :: List.replicate looks Call.vainLook

/-- The calls of a complete iteration, with so many looks in vain: `waited`, one look that succeeds,
and the four steps after it. -/
def block (i looks : Nat) : List Call :=
  waited i looks ++
    [⟨.isRunning, .answered true⟩, ⟨.work i, .done⟩, ⟨.shutDown, .done⟩, ⟨.conclude i, .done⟩]

/-- The calls of the first iterations, each a `block` with its own number of looks in vain. -/
def blocks (looks : Nat → Nat) (completed : Nat) : List Call :=
  (List.range completed).flatMap fun i => block i (looks i)

/-- The iteration `i` goes as far as `call`, which takes the place of the call of that step in a
`block`. -/
def CutAt (i : Nat) (part : List Call) (call : Call) : Prop :=
  ∃ looks before sound rest, block i looks = before ++ sound :: rest ∧ call.step = sound.step ∧
    part = before ++ [call]

/-! ## Iterations that are cut short -/

lemma waited_succ (i looks : Nat) : waited i (looks + 1) = waited i looks ++ [Call.vainLook] := by
  unfold waited
  rw [List.replicate_succ', List.cons_append, List.cons_append]

lemma blocks_succ (looks : Nat → Nat) (i : Nat) :
    blocks looks (i + 1) = blocks looks i ++ block i (looks i) := by
  unfold blocks
  rw [List.range_succ, List.flatMap_append, List.flatMap_singleton]

/-- One more complete iteration: the numbers of looks in vain can be chosen so that `blocks` has the
new block at its end. -/
lemma exists_blocks_succ (looks : Nat → Nat) (i k : Nat) :
    ∃ looks', blocks looks' (i + 1) = blocks looks i ++ block i k := by
  refine ⟨fun j => if j = i then k else looks j, ?_⟩
  have same : blocks (fun j => if j = i then k else looks j) i = blocks looks i := by
    unfold blocks
    rw [List.flatMap_def, List.flatMap_def]
    congr 1
    refine List.map_congr_left fun j hj => ?_
    have hne : j ≠ i := Nat.ne_of_lt (List.mem_range.1 hj)
    exact congrArg (block j) (if_neg hne)
  rw [blocks_succ, same]
  exact congrArg (fun n => blocks looks i ++ block i n) (if_pos rfl)

section Cuts

variable (i looks : Nat) (ending : Ending)

lemma cutAt_prepare : CutAt i [⟨.prepare i, ending⟩] ⟨.prepare i, ending⟩ :=
  ⟨0, [], ⟨.prepare i, .done⟩, _, rfl, rfl, rfl⟩

lemma cutAt_launch : CutAt i [⟨.prepare i, .done⟩, ⟨.launch, ending⟩] ⟨.launch, ending⟩ :=
  ⟨0, [⟨.prepare i, .done⟩], ⟨.launch, .done⟩, _, rfl, rfl, rfl⟩

lemma cutAt_look : CutAt i (waited i looks ++ [⟨.isRunning, ending⟩]) ⟨.isRunning, ending⟩ :=
  ⟨looks, waited i looks, ⟨.isRunning, .answered true⟩, _, rfl, rfl, rfl⟩

lemma cutAt_vainLook : CutAt i (waited i (looks + 1)) Call.vainLook := by
  rw [waited_succ]
  exact cutAt_look i looks _

lemma cutAt_work :
    CutAt i (waited i looks ++ [⟨.isRunning, .answered true⟩] ++ [⟨.work i, ending⟩])
      ⟨.work i, ending⟩ :=
  ⟨looks, waited i looks ++ [⟨.isRunning, .answered true⟩], ⟨.work i, .done⟩,
    [⟨.shutDown, .done⟩, ⟨.conclude i, .done⟩], by simp [block], rfl, rfl⟩

lemma cutAt_shutDown :
    CutAt i (waited i looks ++ [⟨.isRunning, .answered true⟩] ++ [⟨.work i, .done⟩] ++
        [⟨.shutDown, ending⟩])
      ⟨.shutDown, ending⟩ :=
  ⟨looks, waited i looks ++ [⟨.isRunning, .answered true⟩] ++ [⟨.work i, .done⟩],
    ⟨.shutDown, .done⟩, [⟨.conclude i, .done⟩], by simp [block], rfl, rfl⟩

lemma cutAt_conclude :
    CutAt i (waited i looks ++ [⟨.isRunning, .answered true⟩] ++ [⟨.work i, .done⟩] ++
        [⟨.shutDown, .done⟩] ++ [⟨.conclude i, ending⟩])
      ⟨.conclude i, ending⟩ :=
  ⟨looks, waited i looks ++ [⟨.isRunning, .answered true⟩] ++ [⟨.work i, .done⟩] ++
      [⟨.shutDown, .done⟩],
    ⟨.conclude i, .done⟩, [], by simp [block], rfl, rfl⟩

end Cuts

/-! ## Recorded steps -/

section Steps

variable {κ σ : Type} {w : Recorded Call σ} {P : String → Recorded Call σ → Prop}

lemma yields_noted {x : Try κ σ RunError Unit} {step : Step}
    {R : Unit → Recorded Call σ → Prop} {E : RunError → Recorded Call σ → Prop}
    (hR : ∀ s, R () ⟨w.calls ++ [⟨step, .done⟩], s⟩)
    (hE : ∀ e s, E e ⟨w.calls ++ [⟨step, .failed e⟩], s⟩)
    (hP : ∀ m s, P m ⟨w.calls ++ [⟨step, .panicked m⟩], s⟩) :
    Try.Yields
      (Try.noted (fun out w => { w with calls := w.calls ++ [⟨step, .ofTry out⟩] })
        (Try.unrecorded x)) w R E P := by
  rw [Try.yields_noted, Try.yields_unrecorded]
  exact Try.Yields.anyway (fun _ => hR) hE hP

lemma recorded_isRunning_yields {s : Subject κ σ} {R : Bool → Recorded Call σ → Prop}
    (hR : ∀ b t, R b ⟨w.calls ++ [⟨.isRunning, .answered b⟩], t⟩)
    (hP : ∀ m t, P m ⟨w.calls ++ [⟨.isRunning, .panicked m⟩], t⟩) :
    s.recorded.isRunning.Yields w R P := by
  unfold recorded noted unrecorded
  rw [Act.yields_noted, Act.yields_unrecorded]
  exact Act.Yields.anyway hR hP

lemma recorded_tearDown_yields {s : Subject κ σ} {R : Unit → Recorded Call σ → Prop}
    (hR : ∀ t, R () ⟨w.calls ++ [⟨.tearDown, .done⟩], t⟩)
    (hP : ∀ m t, P m ⟨w.calls ++ [⟨.tearDown, .panicked m⟩], t⟩) :
    s.recorded.tearDown.Yields w R P := by
  unfold recorded noted unrecorded
  rw [Act.yields_noted, Act.yields_unrecorded]
  exact Act.Yields.anyway (fun _ => hR) hP

end Steps

end Subject

namespace Runner

open Subject (Call Ending block blocks waited CutAt)

variable {κ σ : Type}

/-! ## What the calls are made of -/

/-- The parts of a record of calls, up to the tear-down.  `Account.calls` puts them together again.
-/
structure Account where
  setUp : Ending
  completed : Nat
  /-- How many looks in vain there were in a complete iteration. -/
  looks : Nat → Nat
  /-- The calls of the iteration that was broken off. -/
  part : List Call
  /-- How the processing of the results ended, if it was begun. -/
  results : Option Ending

/-- The record with these parts: setting up, the complete iterations, the one that was broken off,
and the processing of the results. -/
def Account.calls (a : Account) : List Call :=
  ⟨.setUp, a.setUp⟩ :: blocks a.looks a.completed ++ a.part ++
    (a.results.map (Call.mk .processResults)).toList

/-- The parts fit together to a run of `iterations` iterations: nothing follows a set-up that
failed, results are processed after all iterations only, and an iteration breaks off in an order in
which its steps are made. -/
structure Account.Sound (iterations : Nat) (a : Account) : Prop where
  completed_le : a.completed ≤ iterations
  of_setUp : a.setUp ≠ .done → a.completed = 0 ∧ a.part = []
  of_complete : a.completed = iterations → a.part = []
  cut : a.part = [] ∨ ∃ call, CutAt a.completed a.part call ∧ call.BreaksOff
  results_iff : a.results.isSome ↔ a.setUp = .done ∧ a.completed = iterations

/-- Between two calls the run panics with this message: the interrupt check does so, or the pause
between two looks. -/
def Upset (r : Runner κ σ) (m : String) : Prop :=
  ∃ w, (r.interrupted w).outcome = .panicked m ∨
    (r.sleep r.patience.interval w).outcome = .panicked m

/-- The iteration `i` breaks off after the calls in `part` because of `e`: the user interrupted, a
call failed, or the last of its looks was in vain. -/
def BrokenOff (r : Runner κ σ) (i : Nat) (part : List Call) (e : RunError) : Prop :=
  part = [] ∧ e = .interrupted ∨
    ∃ call, CutAt i part call ∧ (call.ending = .failed e ∨
      call = Call.vainLook ∧ (e = .interrupted ∨ e = .launchTimeout r.patience.looks))

/-- The iteration `i` breaks off after the calls in `part` with a panic, which is one of a call or
comes between two calls (`Upset`). -/
def Wrecked (r : Runner κ σ) (i : Nat) (part : List Call) (m : String) : Prop :=
  part = [] ∧ r.Upset m ∨
    ∃ call, CutAt i part call ∧ (call.ending = .panicked m ∨ call = Call.vainLook ∧ r.Upset m)

section Breaks

variable {r : Runner κ σ} {i n : Nat} {part : List Call} {e : RunError} {m : String}

lemma BrokenOff.of_failed {step : Subject.Step} (h : CutAt i part ⟨step, .failed e⟩) :
    r.BrokenOff i part e := .inr ⟨_, h, .inl rfl⟩

lemma BrokenOff.of_vain (h : e = .interrupted ∨ e = .launchTimeout r.patience.looks) :
    r.BrokenOff i (waited i (n + 1)) e := .inr ⟨_, Subject.cutAt_vainLook i n, .inr ⟨rfl, h⟩⟩

lemma Wrecked.of_panicked {step : Subject.Step} (h : CutAt i part ⟨step, .panicked m⟩) :
    r.Wrecked i part m := .inr ⟨_, h, .inl rfl⟩

lemma Wrecked.of_vain (h : r.Upset m) : r.Wrecked i (waited i (n + 1)) m :=
  .inr ⟨_, Subject.cutAt_vainLook i n, .inr ⟨rfl, h⟩⟩

end Breaks

/-- The `Course` of a run, read off the parts of its record. -/
def Account.Tells (a : Account) (r : Runner κ σ) : Course → Prop
  | .setUpFailed e => a.setUp = .failed e
  | .brokenOff completed e =>
    a.setUp = .done ∧ a.completed = completed ∧ completed < r.iterations ∧
      r.BrokenOff completed a.part e
  | .resultsFailed e => a.results = some (.failed e)
  | .finished => a.results = some .done
  | .wrecked m => a.setUp = .panicked m ∨ a.results = some (.panicked m) ∨
      a.setUp = .done ∧ a.completed < r.iterations ∧ r.Wrecked a.completed a.part m

/-- The calls up to the tear-down fit the course: they are those of an `Account` that is sound and
tells it. -/
def Accounted (r : Runner κ σ) (c : Course) (calls : List Call) : Prop :=
  ∃ a : Account, a.Sound r.iterations ∧ a.Tells r c ∧ calls = a.calls

/-- So many iterations are complete, and of the next one there are the calls in `part`. -/
def Began (i : Nat) (part calls : List Call) : Prop :=
  ∃ looks, calls = ⟨.setUp, .done⟩ :: blocks looks i ++ part

/-! ## Growing records -/

lemma Began.snoc {i : Nat} {part calls : List Call} (h : Began i part calls) (call : Call) :
    Began i (part ++ [call]) (calls ++ [call]) := by
  obtain ⟨looks, rfl⟩ := h
  exact ⟨looks, List.append_assoc _ _ _⟩

lemma Began.complete {i k : Nat} {calls : List Call} (h : Began i (block i k) calls) :
    Began (i + 1) [] calls := by
  obtain ⟨looks, rfl⟩ := h
  obtain ⟨looks', h'⟩ := Subject.exists_blocks_succ looks i k
  exact ⟨looks', by rw [h', List.append_nil, List.cons_append]⟩

section Accounts

variable (r : Runner κ σ) {i : Nat} {part calls : List Call}

lemma accounted_setUp {c : Course} {ending : Ending} (hne : ending ≠ .done)
    (h : ∀ a : Account, a.setUp = ending → a.Tells r c) :
    r.Accounted c [⟨.setUp, ending⟩] := by
  refine ⟨⟨ending, 0, fun _ => 0, [], none⟩, ?_, h _ rfl, rfl⟩
  exact ⟨Nat.zero_le _, fun _ => ⟨rfl, rfl⟩, fun _ => rfl, .inl rfl,
    by simp [hne]⟩

lemma accounted_part {c : Course} (hi : i < r.iterations) (hb : Began i part calls)
    (cut : part = [] ∨ ∃ call, CutAt i part call ∧ call.BreaksOff)
    (h : ∀ a : Account, a.setUp = .done → a.completed = i → a.part = part → a.Tells r c) :
    r.Accounted c calls := by
  obtain ⟨looks, rfl⟩ := hb
  refine ⟨⟨.done, i, looks, part, none⟩, ?_, h _ rfl rfl rfl, (List.append_nil _).symm⟩
  have hne : i ≠ r.iterations := Nat.ne_of_lt hi
  exact ⟨Nat.le_of_lt hi, fun h => absurd rfl h, fun h => absurd h hne, cut, by simp [hne]⟩

lemma accounted_brokenOff {e : RunError} (hi : i < r.iterations) (hb : Began i part calls)
    (h : r.BrokenOff i part e) : r.Accounted (.brokenOff i e) calls := by
  refine accounted_part r hi hb ?_ fun a hs hc hp => ⟨hs, hc, hi, hp.symm ▸ h⟩
  obtain ⟨hnil, -⟩ | ⟨call, cut, hcall⟩ := h
  · exact .inl hnil
  · exact .inr ⟨call, cut, hcall.elim (fun hf => .inl ⟨e, hf⟩) fun hv => .inr (.inr hv.1)⟩

lemma accounted_wrecked {m : String} (hi : i < r.iterations) (hb : Began i part calls)
    (h : r.Wrecked i part m) : r.Accounted (.wrecked m) calls := by
  refine accounted_part r hi hb ?_ fun a hs hc hp => .inr (.inr ⟨hs, hc ▸ hi, ?_⟩)
  · obtain ⟨hnil, -⟩ | ⟨call, cut, hcall⟩ := h
    · exact .inl hnil
    · exact .inr ⟨call, cut, .inr (hcall.imp (fun hm => ⟨m, hm⟩) fun hv => hv.1)⟩
  · rw [hc, hp]
    exact h

lemma accounted_results {c : Course} {ending : Ending}
    (hb : Began r.iterations [⟨.processResults, ending⟩] calls)
    (h : ∀ a : Account, a.results = some ending → a.Tells r c) : r.Accounted c calls := by
  obtain ⟨looks, rfl⟩ := hb
  refine ⟨⟨.done, r.iterations, looks, [], some ending⟩, ?_, h _ rfl, ?_⟩
  · exact ⟨Nat.le_refl _, fun h => absurd rfl h, fun _ => rfl, .inl rfl, by simp⟩
  · simp [Account.calls]

end Accounts

/-! ## The record in the course of a run -/

/-- The calls on record fit an assertion, whatever the world itself is like. -/
def On (Q : List Call → Prop) (w : Recorded Call σ) : Prop := Q w.calls

/-- The calls that a run makes, followed from the first to the last: at each point of the run the
assertion says which calls are on record. -/
def callsOutline (r : Runner κ σ) : Outline r.recorded where
  start := On (· = [])
  ready i := On (Began i [])
  prepared i := On (Began i [⟨.prepare i, .done⟩])
  waiting i n := On (Began i (waited i n))
  running i := On fun l => ∃ n, Began i (waited i n ++ [⟨.isRunning, .answered true⟩]) l
  worked i := On fun l => ∃ n,
    Began i (waited i n ++ [⟨.isRunning, .answered true⟩] ++ [⟨.work i, .done⟩]) l
  quiet i := On fun l => ∃ n,
    Began i (waited i n ++ [⟨.isRunning, .answered true⟩] ++ [⟨.work i, .done⟩] ++
      [⟨.shutDown, .done⟩]) l
  closing c := On (r.Accounted c)
  gone c := On fun l => ∃ before, r.Accounted c before ∧ l = before ++ [⟨.tearDown, .done⟩]
  torn := On fun l => ∃ m, ⟨.tearDown, .panicked m⟩ ∈ l
  setUp := by
    rintro ⟨_, w⟩ rfl
    refine Subject.yields_noted (fun s => ?_) (fun e s => ?_) fun m s => ?_
    · exact ⟨fun _ => 0, rfl⟩
    · exact accounted_setUp r (by simp) fun a h => h
    · exact accounted_setUp r (by simp) fun a h => .inl h
  check := by
    intro i w hi hw
    refine Act.yields_unrecorded.2 (Act.Yields.of_ways (fun b _ => ?_) (fun m hm => ?_)
      fun _ _ => trivial)
    · cases b with
      | true => exact accounted_brokenOff r hi hw (.inl ⟨rfl, rfl⟩)
      | false => exact hw
    · exact accounted_wrecked r hi hw (.inl ⟨rfl, _, .inl hm⟩)
  prepare := by
    intro i w hi hw
    refine Subject.yields_noted (fun s => ?_) (fun e s => ?_) fun m s => ?_
    · exact hw.snoc _
    · exact accounted_brokenOff r hi (hw.snoc _) (.of_failed (Subject.cutAt_prepare i _))
    · exact accounted_wrecked r hi (hw.snoc _) (.of_panicked (Subject.cutAt_prepare i _))
  launch := by
    intro i w hi hw
    refine Subject.yields_noted (fun s => ?_) (fun e s => ?_) fun m s => ?_
    · exact hw.snoc _
    · exact accounted_brokenOff r hi (hw.snoc _) (.of_failed (Subject.cutAt_launch i _))
    · exact accounted_wrecked r hi (hw.snoc _) (.of_panicked (Subject.cutAt_launch i _))
  look := by
    intro i n w hi hw
    refine Subject.recorded_isRunning_yields (fun b s => ?_) fun m s => ?_
    · cases b with
      | true => exact ⟨n, hw.snoc _⟩
      | false =>
        have h := hw.snoc Call.vainLook
        rw [← Subject.waited_succ] at h
        exact h
    · exact accounted_wrecked r hi (hw.snoc _) (.of_panicked (Subject.cutAt_look i n _))
  recheck := by
    intro i n w hi hw
    refine Act.yields_unrecorded.2 (Act.Yields.of_ways (fun b _ => ?_) (fun m hm => ?_)
      fun _ _ => trivial)
    · cases b with
      | true => exact accounted_brokenOff r hi hw (.of_vain (.inl rfl))
      | false => exact hw
    · exact accounted_wrecked r hi hw (.of_vain ⟨_, .inl hm⟩)
  pause := by
    intro i n w hi hw
    refine Act.yields_unrecorded.2 (Act.Yields.of_ways (fun _ _ => hw) (fun m hm => ?_)
      fun _ _ => trivial)
    exact accounted_wrecked r hi hw (.of_vain ⟨_, .inr hm⟩)
  timeout := by
    intro i w hi hw
    obtain ⟨n, hn⟩ : ∃ n, r.patience.looks = n + 1 :=
      ⟨_, (Nat.succ_pred_eq_of_pos (Nat.le_max_right _ _)).symm⟩
    have hwaited : On (Began i (waited i r.patience.looks)) w := hw
    rw [hn] at hwaited
    exact accounted_brokenOff r hi hwaited (.of_vain (.inr rfl))
  work := by
    rintro i w hi ⟨n, hw⟩
    refine Subject.yields_noted (fun s => ?_) (fun e s => ?_) fun m s => ?_
    · exact ⟨n, hw.snoc _⟩
    · exact accounted_brokenOff r hi (hw.snoc _) (.of_failed (Subject.cutAt_work i n _))
    · exact accounted_wrecked r hi (hw.snoc _) (.of_panicked (Subject.cutAt_work i n _))
  shutDown := by
    rintro i w hi ⟨n, hw⟩
    refine Subject.yields_noted (fun s => ?_) (fun e s => ?_) fun m s => ?_
    · exact ⟨n, hw.snoc _⟩
    · exact accounted_brokenOff r hi (hw.snoc _) (.of_failed (Subject.cutAt_shutDown i n _))
    · exact accounted_wrecked r hi (hw.snoc _) (.of_panicked (Subject.cutAt_shutDown i n _))
  conclude := by
    rintro i w hi ⟨n, hw⟩
    refine Subject.yields_noted (fun s => ?_) (fun e s => ?_) fun m s => ?_
    · refine Began.complete (k := n) ?_
      simpa [block] using hw.snoc ⟨.conclude i, .done⟩
    · exact accounted_brokenOff r hi (hw.snoc _) (.of_failed (Subject.cutAt_conclude i n _))
    · exact accounted_wrecked r hi (hw.snoc _) (.of_panicked (Subject.cutAt_conclude i n _))
  processResults := by
    intro w hw
    refine Subject.yields_noted (fun s => ?_) (fun e s => ?_) fun m s => ?_
    · exact accounted_results r (hw.snoc _) fun a h => h
    · exact accounted_results r (hw.snoc _) fun a h => h
    · exact accounted_results r (hw.snoc _) fun a h => .inr (.inl h)
  tearDown := by
    intro c w hw
    refine Subject.recorded_tearDown_yields (fun s => ?_) fun m s => ?_
    · exact ⟨w.calls, hw, rfl⟩
    · exact ⟨m, List.mem_append_right _ (List.mem_singleton_self _)⟩
  tearDownAgain := by
    rintro w ⟨m, hm⟩
    refine Subject.recorded_tearDown_yields (fun s => ?_) fun m' s => ?_
    · exact ⟨m, List.mem_append_left _ hm⟩
    · exact ⟨m, List.mem_append_left _ hm⟩

/-! ## The calls and the answer of a run -/

section Answers

variable {r : Runner κ σ} {a : Account}

lemma Account.Sound.results_of_unset {n : Nat} (h : a.Sound n) (hs : a.setUp ≠ .done) :
    a.results = none := by
  cases hres : a.results with
  | none => rfl
  | some ending => exact absurd (h.results_iff.1 (by rw [hres]; rfl)).1 hs

lemma Account.Sound.results_of_lt {n : Nat} (h : a.Sound n) (hc : a.completed < n) :
    a.results = none := by
  cases hres : a.results with
  | none => rfl
  | some ending =>
    have complete := (h.results_iff.1 (by rw [hres]; rfl)).2
    omega

/-- Results are processed after all iterations only, and then only if setting up succeeded. -/
lemma Account.Sound.of_results {n : Nat} {ending : Ending} (h : a.Sound n)
    (hres : a.results = some ending) : a.setUp = .done ∧ a.completed = n :=
  h.results_iff.1 (by rw [hres]; rfl)

lemma Account.mem_calls_setUp : ⟨.setUp, a.setUp⟩ ∈ a.calls := by simp [Account.calls]

lemma Account.mem_calls_part {call : Call} (h : call ∈ a.part) : call ∈ a.calls := by
  simp [Account.calls, h]

lemma Account.mem_calls_results {ending : Ending} (h : a.results = some ending) :
    ⟨.processResults, ending⟩ ∈ a.calls := by simp [Account.calls, h]

/-- A run that answers with an error could not be set up, or its results could not be processed; the
error is the one of that call. -/
lemma Account.Tells.error_iff {c : Course} (sound : a.Sound r.iterations) (h : a.Tells r c)
    (e : RunError) :
    (c.outcome r.iterations : Outcome κ _) = .returned (.error e) ↔
      a.setUp = .failed e ∨ a.results = some (.failed e) := by
  cases c with
  | setUpFailed e' =>
    have hs : a.setUp = .failed e' := h
    have hres := sound.results_of_unset (by rw [hs]; simp)
    simp [Course.outcome, hs, hres]
  | brokenOff completed e' =>
    obtain ⟨hs, hc, hlt, -⟩ := h
    have hres := sound.results_of_lt (hc.symm ▸ hlt)
    simp [Course.outcome, hs, hres]
  | resultsFailed e' =>
    have hres : a.results = some (.failed e') := h
    have hs := (sound.of_results hres).1
    simp [Course.outcome, hs, hres]
  | finished =>
    have hres : a.results = some .done := h
    have hs := (sound.of_results hres).1
    simp [Course.outcome, hs, hres]
  | wrecked m =>
    obtain hs | hres | ⟨hs, hlt, -⟩ := h
    · have hres := sound.results_of_unset (by rw [hs]; simp)
      simp [Course.outcome, hs, hres]
    · have hs := (sound.of_results hres).1
      simp [Course.outcome, hs, hres]
    · have hres := sound.results_of_lt hlt
      simp [Course.outcome, hs, hres]

/-- What a report says of a run is so: how many iterations are complete, which one broke off and
with which error. -/
lemma Account.Tells.report {c : Course} (sound : a.Sound r.iterations) (h : a.Tells r c)
    {report : Report} (hout : (c.outcome r.iterations : Outcome κ _) = .returned (.ok report)) :
    a.setUp = .done ∧ report.completed = a.completed ∧ report.phase = .tornDown ∧
      (a.completed = r.iterations ∧ report.failed = none ∧ report.error = none ∨
        a.completed < r.iterations ∧ report.failed = some a.completed ∧
          ∃ e, report.error = some e ∧ r.BrokenOff a.completed a.part e) := by
  cases c with
  | setUpFailed e => cases hout
  | resultsFailed e => cases hout
  | wrecked m => cases hout
  | brokenOff completed e =>
    cases hout
    obtain ⟨hs, rfl, hlt, hbroken⟩ := h
    exact ⟨hs, rfl, rfl, .inr ⟨hlt, rfl, e, rfl, hbroken⟩⟩
  | finished =>
    cases hout
    obtain ⟨hs, hc⟩ := sound.of_results h
    exact ⟨hs, hc.symm, rfl, .inl ⟨hc, rfl, rfl⟩⟩

/-- A run that panics does so in a call on record or between two calls (`Upset`). -/
lemma Account.Tells.panicked {c : Course} (h : a.Tells r c) {m : String}
    (hout : (c.outcome r.iterations : Outcome κ _) = .panicked m) :
    r.Upset m ∨ ∃ step, ⟨step, .panicked m⟩ ∈ a.calls := by
  cases c with
  | setUpFailed e => cases hout
  | brokenOff completed e => cases hout
  | resultsFailed e => cases hout
  | finished => cases hout
  | wrecked m' =>
    cases hout
    obtain hs | hres | ⟨-, -, ⟨-, hm⟩ | ⟨call, cut, hm | ⟨-, hm⟩⟩⟩ := h
    · exact .inr ⟨.setUp, hs ▸ a.mem_calls_setUp⟩
    · exact .inr ⟨.processResults, Account.mem_calls_results hres⟩
    · exact .inl hm
    · obtain ⟨_, before, _, _, -, -, hpart⟩ := cut
      refine .inr ⟨call.step, hm ▸ Account.mem_calls_part ?_⟩
      rw [hpart]
      exact List.mem_append_right _ (List.mem_singleton_self _)
    · exact .inl hm

end Answers

/-- How the record of a run ends, and what the run answers: by `Outline.life_yields` with
`Runner.callsOutline`, made total by the calls' coming back. -/
lemma exists_accounted (r : Runner κ σ) (returns : r.Returns) (progress : Option Progress)
    (w : σ) :
    (∃ c : Course, c.outcome r.iterations = (r.life (World.fresh progress w)).outcome ∧
      ∃ before, r.Accounted c before ∧ r.calls progress w = before ++ [⟨.tearDown, .done⟩]) ∨
    ∃ m, ⟨.tearDown, .panicked m⟩ ∈ r.calls progress w := by
  have same : (r.recorded.life (World.fresh progress ⟨[], w⟩)).outcome =
      (r.life (World.fresh progress w)).outcome :=
    r.recorded_over.life_over.outcome_eq (World.fresh progress ⟨[], w⟩)
  rw [← same]
  have followed := (r.callsOutline.total returns.recorded).life_yields progress ⟨[], w⟩ rfl
  refine Act.Yields.ends (Q := fun out (w₁ : World (Recorded Call σ)) =>
    (∃ c : Course, c.outcome r.iterations = out ∧
      ∃ before, r.Accounted c before ∧ w₁.subject.calls = before ++ [⟨.tearDown, .done⟩]) ∨
    ∃ m, ⟨.tearDown, .panicked m⟩ ∈ w₁.subject.calls) ?_
  refine followed.imp (fun res w₁ h => ?_) (fun m w₁ h => ?_) fun k w₁ h => ?_
  · obtain ⟨c, hc, hgone⟩ := h
    exact .inl ⟨c, hc, hgone⟩
  · obtain hgone | htorn := h
    · exact .inl ⟨.wrecked m, rfl, hgone⟩
    · exact .inr htorn
  · obtain halted | ⟨-, htorn⟩ := h
    · exact halted.elim
    · exact .inr htorn

/-- **The calls of a run.**  Unless its tear-down panics, a run sets up, goes through complete
iterations in order, breaks off at most one more, processes the results if and only if all
iterations are complete, and tears down once, as its last call.  It answers with an error exactly if
it could not be set up or its results could not be processed; its report says how many iterations
are complete, and if it panics, one of its calls has done so (`Runner.Upset` is about the calls
between the steps).  It always comes back. -/
theorem life_calls (r : Runner κ σ) (returns : r.Returns) (progress : Option Progress) (w : σ)
    (calm : ∀ m, ⟨.tearDown, .panicked m⟩ ∉ r.calls progress w) :
    ∃ a : Account, a.Sound r.iterations ∧
      r.calls progress w = a.calls ++ [⟨.tearDown, .done⟩] ∧
      (∀ e, (r.life (World.fresh progress w)).outcome = .returned (.error e) ↔
        a.setUp = .failed e ∨ a.results = some (.failed e)) ∧
      (∀ report, (r.life (World.fresh progress w)).outcome = .returned (.ok report) →
        a.setUp = .done ∧ report.completed = a.completed ∧ report.phase = .tornDown ∧
          (a.completed = r.iterations ∧ report.failed = none ∧ report.error = none ∨
            a.completed < r.iterations ∧ report.failed = some a.completed ∧
              ∃ e, report.error = some e ∧ r.BrokenOff a.completed a.part e)) ∧
      (∀ m, (r.life (World.fresh progress w)).outcome = .panicked m →
        r.Upset m ∨ ∃ step, ⟨step, .panicked m⟩ ∈ a.calls) ∧
      ∀ k, (r.life (World.fresh progress w)).outcome ≠ .stopped k := by
  obtain ⟨c, hc, before, ⟨a, sound, tells, rfl⟩, hcalls⟩ | ⟨m, hm⟩ :=
    r.exists_accounted returns progress w
  · rw [← hc]
    exact ⟨a, sound, hcalls, tells.error_iff sound, fun _ => tells.report sound,
      fun _ => tells.panicked, fun _ => c.outcome_ne_stopped⟩
  · exact absurd hm (calm m)

/-- A run that looks twice for the application and fails at work in its second iteration.  Its world
counts the looks. -/
def stumbling : Runner Empty Nat where
  subject :=
    { setUp := pure ()
      launch := pure ()
      isRunning := Act.step fun looks => (looks ≠ 0, looks + 1)
      work := fun i => if i = 1 then Try.fail .interrupted else pure ()
      shutDown := pure ()
      tearDown := pure () }
  iterations := 3
  interrupted := pure false
  sleep _ := pure ()

lemma stumbling_returns : stumbling.Returns where
  setUp := .pure ()
  prepare _ := .pure ()
  launch := .pure ()
  isRunning := .of_returned fun looks => ⟨looks ≠ 0, rfl⟩
  work _ := .ite (.fail _) (.pure ())
  shutDown := .pure ()
  conclude _ := .pure ()
  processResults := .pure ()
  tearDown := .pure ()
  interrupted := .pure false
  sleep _ := .pure ()

/-- One iteration of `stumbling` is complete, with one look in vain, and the second one breaks off
at work. -/
theorem stumbling_calls :
    stumbling.calls none 0 = ⟨.setUp, .done⟩ :: block 0 1 ++
        [⟨.prepare 1, .done⟩, ⟨.launch, .done⟩, ⟨.isRunning, .answered true⟩,
          ⟨.work 1, .failed .interrupted⟩, ⟨.tearDown, .done⟩] ∧
      (stumbling.life (World.fresh none 0)).outcome =
        .returned (.ok ⟨1, some 1, some .interrupted, .tornDown⟩) ∧
      ∃ a : Account, a.Sound 3 ∧ stumbling.calls none 0 = a.calls ++ [⟨.tearDown, .done⟩] ∧
        a.setUp = .done ∧ a.completed = 1 ∧ stumbling.BrokenOff 1 a.part .interrupted := by
  have calls : stumbling.calls none 0 = ⟨.setUp, .done⟩ :: block 0 1 ++
      [⟨.prepare 1, .done⟩, ⟨.launch, .done⟩, ⟨.isRunning, .answered true⟩,
        ⟨.work 1, .failed .interrupted⟩, ⟨.tearDown, .done⟩] := by
    rfl
  have calm : ∀ m, ⟨.tearDown, .panicked m⟩ ∉ stumbling.calls none 0 := by
    intro m
    rw [calls]
    simp [block, waited, Call.vainLook]
  have out : (stumbling.life (World.fresh none 0)).outcome =
      .returned (.ok ⟨1, some 1, some .interrupted, .tornDown⟩) := rfl
  obtain ⟨a, sound, same, -, reported, -⟩ := stumbling.life_calls stumbling_returns none 0 calm
  obtain ⟨set, completed, -, all | ⟨-, -, e, failure, broken⟩⟩ := reported _ out
  · cases all.2.1
  · cases failure
    rw [← completed] at broken
    exact ⟨calls, out, a, sound, same, set, completed.symm, broken⟩

end Runner

end StartupBench
