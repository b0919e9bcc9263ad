import StartupBench.Proofs.Bench.Recorded

/-!
# Which samples are recorded

The ledger of a benchmark is only ever added to.  After `k` complete iterations it is the record of
the metrics of these iterations, in order (`Bench.Complete`).  An iteration that fails may have
added to it before it failed: its metrics up to the first that conflicts with what is recorded
(`Bench.Partial`).

The record of events says which metrics were answered in which iteration (`Bench.metricsOf`), and
the ledger is compared with the record of all of them, one after the other (`Ledger.recordAll`).
Only the conclusion of an iteration asks the analyzer and writes the ledger; all other steps are
`Bench.Unmeasured` and keep both.

## Main results

* `Bench.ledger_of_failed`: the ledger of a run that failed in an iteration.
* `Bench.ledger_not_of_complete`: that ledger is not the record of the complete iterations alone.
-/

namespace StartupBench

/-! ## Recording a list of metrics -/

/-- Record metrics up to the first that conflicts with what is recorded (`Ledger.record`), and
answer the conflict if there is one. -/
def Ledger.recordAll (graph : String) (l : Ledger) : List Metric → Ledger × Option RunError
  | [] => (l, none)
  | m :: rest =>
    match l.record ⟨graph, m.name⟩ m.value m.units with
    | .ok l' => Ledger.recordAll graph l' rest
    | .error e => (l, some e)

namespace Ledger

variable {graph : String}

lemma recordAll_cons_of_ok {l l₁ : Ledger} {m : Metric} {rest : List Metric}
    (h : l.record ⟨graph, m.name⟩ m.value m.units = .ok l₁) :
    recordAll graph l (m :: rest) = recordAll graph l₁ rest := by
  rw [recordAll, h]

lemma recordAll_cons_of_error {l : Ledger} {m : Metric} {rest : List Metric} {e : RunError}
    (h : l.record ⟨graph, m.name⟩ m.value m.units = .error e) :
    recordAll graph l (m :: rest) = (l, some e) := by
  rw [recordAll, h]

lemma recordAll_append {l l' : Ledger} {first : List Metric}
    (h : recordAll graph l first = (l', none)) (more : List Metric) :
    recordAll graph l (first ++ more) = recordAll graph l' more := by
  induction first generalizing l with
  | nil =>
    cases h
    rfl
  | cons m rest ih =>
    rw [List.cons_append]
    cases hm : l.record ⟨graph, m.name⟩ m.value m.units with
    | ok l₁ =>
      rw [recordAll_cons_of_ok hm] at h ⊢
      exact ih h
    | error e =>
      rw [recordAll_cons_of_error hm] at h
      cases h

/-- A record without a conflict has none in its first part, and goes on from the ledger which that
part has left. -/
lemma recordAll_of_append {l l' : Ledger} {first more : List Metric}
    (h : recordAll graph l (first ++ more) = (l', none)) :
    ∃ l₁, recordAll graph l first = (l₁, none) ∧ recordAll graph l₁ more = (l', none) := by
  induction first generalizing l with
  | nil => exact ⟨l, rfl, h⟩
  | cons m rest ih =>
    rw [List.cons_append] at h
    cases hm : l.record ⟨graph, m.name⟩ m.value m.units with
    | ok l₁ =>
      rw [recordAll_cons_of_ok hm] at h ⊢
      exact ih h
    | error e =>
      rw [recordAll_cons_of_error hm] at h
      cases h

lemma yields_add {κ : Type} {key : ResultKey} {sample : Float} {units : String} {l : Ledger}
    {R : Unit → Ledger → Prop} {E : RunError → Ledger → Prop} {P : String → Ledger → Prop} :
    Try.Yields (Ledger.add key sample units : Try κ Ledger RunError Unit) l R E P ↔
      match l.record key sample units with
      | .ok l' => R () l'
      | .error e => E e l := by
  unfold Try.Yields Act.Yields
  rw [add_run]
  cases l.record key sample units <;> rfl

end Ledger

namespace Bench

variable {κ σ : Type}

/-- The world with another ledger; the rest of the state and the world around it are kept. -/
def World.withLedger (w : World σ) (ledger : Ledger) : World σ :=
  { w with state := { w.state with ledger } }

lemma record_yields (b : Bench κ σ) (metrics : List Metric) (w : World σ)
    {P : String → World σ → Prop} :
    Try.Yields (b.record metrics) w
      (fun _ w₁ => ∃ l, Ledger.recordAll b.graphName w.state.ledger metrics = (l, none) ∧
        w₁ = w.withLedger l)
      (fun e w₁ => ∃ l, Ledger.recordAll b.graphName w.state.ledger metrics = (l, some e) ∧
        w₁ = w.withLedger l) P := by
  induction metrics generalizing w with
  | nil => exact ⟨w.state.ledger, rfl, rfl⟩
  | cons m rest ih =>
    unfold record
    rw [Try.yields_bind, Try.yields_within, Ledger.yields_add]
    cases hm : w.state.ledger.record ⟨b.graphName, m.name⟩ m.value m.units with
    | ok l =>
      rw [Ledger.recordAll_cons_of_ok hm]
      exact ih (w.withLedger l)
    | error e =>
      rw [Ledger.recordAll_cons_of_error hm]
      exact ⟨w.state.ledger, rfl, rfl⟩

/-! ## What was measured -/

/-- The metrics that an event answers for the iteration `i`: those of an analysis in it, if it
succeeded. -/
def Event.metricsOf (i : Nat) : Event → List Metric
  | .analyzed j (some metrics) => if j = i then metrics else []
  | _ => []

/-- The metrics that were answered in the iteration `i`, in order. -/
def metricsOf (events : List Event) (i : Nat) : List Metric := events.flatMap (Event.metricsOf i)

/-- The metrics that were answered in the first `k` iterations, in order. -/
def metricsBefore (events : List Event) (k : Nat) : List Metric :=
  (List.range k).flatMap (metricsOf events)

/-- A step that neither writes the ledger nor asks the analyzer. -/
abbrev Unmeasured : World (Recorded Event σ) → World (Recorded Event σ) → Prop :=
  Confined State.ledger (· ≠ .analyzer)

lemma metricsOf_append (events more : List Event) (i : Nat) :
    metricsOf (events ++ more) i = metricsOf events i ++ metricsOf more i :=
  List.flatMap_append

lemma metricsOf_adds {w w₁ : Recorded Event σ}
    (h : Recorded.Adds (Event.Of (· ≠ .analyzer)) w w₁) (i : Nat) :
    metricsOf w₁.calls i = metricsOf w.calls i := by
  obtain ⟨more, hcalls, hmore⟩ := h
  have hnone : metricsOf more i = [] := by
    refine List.flatMap_eq_nil_iff.2 fun e he => ?_
    cases e with
    | analyzed j metrics => exact absurd rfl (hmore _ he .analyzer rfl)
    | _ => rfl
  rw [hcalls, metricsOf_append, hnone, List.append_nil]

lemma metricsBefore_succ (events : List Event) (k : Nat) :
    metricsBefore events (k + 1) = metricsBefore events k ++ metricsOf events k := by
  unfold metricsBefore
  rw [List.range_succ, List.flatMap_append, List.flatMap_singleton]

lemma metricsBefore_congr {events events₁ : List Event} {k : Nat}
    (h : ∀ i < k, metricsOf events₁ i = metricsOf events i) :
    metricsBefore events₁ k = metricsBefore events k := by
  unfold metricsBefore
  rw [List.flatMap_def, List.flatMap_def]
  congr 1
  exact List.map_congr_left fun i hi => h i (List.mem_range.1 hi)

/-! ## The ledger -/

/-- The first `k` iterations are recorded without a conflict, and nothing else was measured. -/
def Complete (b : Bench κ σ) (k : Nat) (w : World (Recorded Event σ)) : Prop :=
  (∀ i, k ≤ i → metricsOf w.outside.calls i = []) ∧
    Ledger.recordAll b.graphName {} (metricsBefore w.outside.calls k) = (w.state.ledger, none)

/-- The first `k` iterations are recorded, and of the next one the metrics up to the first that
conflicts with what is recorded. -/
def Partial (b : Bench κ σ) (k : Nat) (w : World (Recorded Event σ)) : Prop :=
  (∀ i, k < i → metricsOf w.outside.calls i = []) ∧
    ∃ l, Ledger.recordAll b.graphName {} (metricsBefore w.outside.calls k) = (l, none) ∧
      w.state.ledger =
        (Ledger.recordAll b.graphName l (metricsOf w.outside.calls k)).1

section Ledgers

variable {b : Bench κ σ} {k : Nat} {w w₁ : World (Recorded Event σ)}

lemma Complete.frame (h : b.Complete k w) (hw : Unmeasured w w₁) : b.Complete k w₁ := by
  have same := metricsOf_adds hw.2
  unfold Complete
  rw [hw.1, metricsBefore_congr fun i _ => same i]
  exact ⟨fun i hi => (same i).trans (h.1 i hi), h.2⟩

lemma Partial.frame (h : b.Partial k w) (hw : Unmeasured w w₁) : b.Partial k w₁ := by
  have same := metricsOf_adds hw.2
  unfold Partial
  rw [hw.1, metricsBefore_congr fun i _ => same i, same k]
  exact ⟨fun i hi => (same i).trans (h.1 i hi), h.2⟩

lemma Complete.partial (h : b.Complete k w) : b.Partial k w := by
  refine ⟨fun i hi => h.1 i (Nat.le_of_lt hi), w.state.ledger, h.2, ?_⟩
  rw [h.1 k (Nat.le_refl k)]
  rfl

/-- An iteration that is recorded as a whole (`Complete`) is recorded as far as its metrics go
(`Partial`). -/
lemma Complete.partial_of_succ (h : b.Complete (k + 1) w) : b.Partial k w := by
  obtain ⟨hnone, hall⟩ := h
  rw [metricsBefore_succ] at hall
  obtain ⟨l, hl, hk⟩ := Ledger.recordAll_of_append hall
  exact ⟨hnone, l, hl, by rw [hk]⟩

lemma Complete.succ (h : b.Complete k w) : b.Complete (k + 1) w := by
  refine ⟨fun i hi => h.1 i (Nat.le_of_succ_le hi), ?_⟩
  rw [metricsBefore_succ, h.1 k (Nat.le_refl k), List.append_nil]
  exact h.2

/-- The metrics of the next iteration are answered: they are added to the record of events, and
those of the iterations before stay as they are. -/
lemma Complete.answered (h : b.Complete k w) (metrics : List Metric) :
    let events := w.outside.calls ++ [.analyzed k (some metrics)]
    (∀ i, k < i → metricsOf events i = []) ∧
      metricsBefore events k = metricsBefore w.outside.calls k ∧
      metricsOf events k = metrics := by
  have other : ∀ i, k ≠ i → metricsOf [.analyzed k (some metrics)] i = [] := by
    intro i hi
    simp [metricsOf, Event.metricsOf, hi]
  intro events
  refine ⟨fun i hi => ?_, metricsBefore_congr fun i hi => ?_, ?_⟩
  · rw [metricsOf_append, h.1 i (Nat.le_of_lt hi), other i (Nat.ne_of_lt hi), List.append_nil]
  · rw [metricsOf_append, other i (Nat.ne_of_gt hi), List.append_nil]
  · rw [metricsOf_append, h.1 k (Nat.le_refl k)]
    simp [metricsOf, Event.metricsOf]

end Ledgers

/-! ## The pieces of an iteration -/

section Pieces

variable (b : Bench κ σ) {k : Nat} {w : World (Recorded Event σ)}

/-- The metrics of an iteration are recorded by `Bench.analyze` in their order, up to the first that
conflicts. -/
lemma analyze_yields (h : b.Complete k w) :
    Try.Yields (b.recorded (some k)).analyze w (fun _ => b.Complete (k + 1)) (fun _ => b.Partial k)
      fun _ _ => True := by
  unfold analyze stateOf note
  rw [Try.yields_bind, Try.yields_lift, Act.yields_reading, Try.yields_bind, Try.yields_lift,
    Act.yields_update]
  have unanswered : ∀ s : σ, b.Partial k
      ⟨{ w.state with kernelFile := none }, ⟨w.outside.calls ++ [.analyzed k none], s⟩⟩ := by
    intro s
    have same : metricsOf (w.outside.calls ++ [.analyzed k none]) = metricsOf w.outside.calls := by
      funext i
      rw [metricsOf_append]
      exact List.append_nil _
    obtain ⟨later, recorded⟩ := h.partial
    refine ⟨fun i hi => (congrFun same i).trans (later i hi), ?_⟩
    dsimp only
    unfold metricsBefore
    rw [same]
    exact recorded
  cases w.state.kernelFile with
  | none => exact h.succ
  | some file =>
    dsimp only
    unfold trying
    rw [Try.yields_bind, Try.yields_within, recorded_analyze, Try.yields_recorded]
    refine Try.Yields.anyway (fun metrics s => ?_) (fun e s => unanswered s) fun _ _ => trivial
    -- From here on the metrics are in the record of events, and the ledger follows.
    obtain ⟨later, before, now⟩ := h.answered metrics
    have recorded := (b.recorded (some k)).record_yields metrics
      ⟨{ w.state with kernelFile := none }, ⟨w.outside.calls ++ [.analyzed k (some metrics)], s⟩⟩
      (P := fun _ _ => True)
    refine recorded.mono (fun _ w₁ h₁ => ?_) (fun e w₁ h₁ => ?_) fun _ _ h => h
    · obtain ⟨l, hl, rfl⟩ := h₁
      refine ⟨later, ?_⟩
      have all : metricsBefore (w.outside.calls ++ [.analyzed k (some metrics)]) (k + 1) =
          metricsBefore w.outside.calls k ++ metrics := by
        rw [metricsBefore_succ, before, now]
      exact (congrArg _ all).trans ((Ledger.recordAll_append h.2 metrics).trans hl)
    · obtain ⟨l, hl, rfl⟩ := h₁
      refine ⟨later, w.state.ledger, (congrArg _ before).trans h.2, ?_⟩
      exact (congrArg Prod.fst ((congrArg _ now).trans hl)).symm

lemma conclude_yields (h : b.Complete k w) :
    Try.Yields (b.recorded (some k)).conclude w (fun _ => b.Complete (k + 1)) (fun _ => b.Partial k)
      fun _ _ => True := by
  have tracked := b.recorded_tracks (some k) (· ≠ .analyzer)
  have stop := (trying_tracks (f := State.ledger) (tracked.stopTrace nofun)).respects
  have purge := (trying_tracks (f := State.ledger) (tracked.purgePrefetch_tracks nofun)).respects
  unfold conclude note
  rw [Try.yields_bind, Try.yields_lift, Act.yields_update, Try.yields_bind]
  refine (stop.yields _).imp (fun _ w₁ h₁ => ?_) (fun _ w₁ h₁ => h.partial.frame h₁)
    (fun _ _ _ => trivial) fun _ _ _ => trivial
  rw [Try.yields_bind]
  refine (b.analyze_yields (h.frame h₁)).mono (fun _ w₂ h₂ => ?_) (fun _ _ h => h) fun _ _ h => h
  exact (purge.yields w₂).imp (fun _ w₃ h₃ => h₂.frame h₃)
    (fun _ w₃ h₃ => h₂.partial_of_succ.frame h₃) (fun _ _ _ => trivial) fun _ _ _ => trivial

end Pieces

/-! ## The run -/

/-- What is recorded at the end of a `Runner.Course`: after an iteration that broke off, a `Partial`
record. -/
def Left (b : Bench κ σ) : Runner.Course → World (Recorded Event σ) → Prop
  | .brokenOff k _ => b.Partial k
  | _ => fun _ => True

lemma Left.frame {b : Bench κ σ} {c : Runner.Course} {w w₁ : World (Recorded Event σ)}
    (h : b.Left c w) (hw : Unmeasured w w₁) : b.Left c w₁ := by
  cases c with
  | brokenOff k e => exact Partial.frame h hw
  | _ => trivial

section Run

variable (b : Bench κ σ) (d : Drive κ σ) {k : Nat} {w : World (Recorded Event σ)}

/-- A step of an iteration in which nothing is measured (`Unmeasured`) leaves the record complete.
-/
lemma Complete.step {b : Bench κ σ} {x : Try κ (World (Recorded Event σ)) RunError Unit}
    (h : b.Complete k w) (hx : Try.Respects Unmeasured x) :
    Try.Yields x w (fun _ => b.Complete k) (fun e => b.Left (.brokenOff k e))
      fun m => b.Left (.wrecked m) :=
  (hx.yields w).imp (fun _ _ hw => h.frame hw) (fun _ _ hw => (h.frame hw).partial)
    (fun _ _ _ => trivial) fun _ _ _ => trivial

lemma complete_check (h : b.Complete k w) :
    (b.recordedRunner d).interrupted.Yields w
      (fun yes => if yes then b.Left (.brokenOff k .interrupted) else b.Complete k)
      fun m => b.Left (.wrecked m) := by
  have asked := ((b.records d (· ≠ .analyzer)).interrupted_tracks (f := State.ledger)
    (by decide)).respects
  refine (asked.yields w).imp (fun yes w₁ hw => ?_) (fun _ _ _ => trivial)
    fun _ _ _ => trivial
  cases yes with
  | true => exact (h.frame hw).partial
  | false => exact h.frame hw

/-- The run and its ledger: `Complete` between iterations, and `Partial` after one that broke off.
-/
def samplesOutline : Runner.Outline (b.recordedRunner d) where
  start w := w.state.ledger = {} ∧ w.outside.calls = []
  ready := b.Complete
  prepared := b.Complete
  waiting k _ := b.Complete k
  running := b.Complete
  worked := b.Complete
  quiet := b.Complete
  closing := b.Left
  gone := b.Left
  torn _ := True
  setUp w h := by
    have complete : b.Complete 0 w := by
      unfold Complete
      rw [h.1, h.2]
      exact ⟨fun _ _ => rfl, rfl⟩
    have setUp := ((b.records d (· ≠ .analyzer)).setUp_tracks (f := State.ledger) nofun nofun
      nofun nofun nofun (fun _ => trivial) fun _ _ _ _ => rfl).respects
    exact (setUp.yields w).imp (fun _ _ hw => complete.frame hw) (fun _ _ _ => trivial)
      (fun _ _ _ => trivial) fun _ _ _ => trivial
  check _ _ _ h := b.complete_check d h
  prepare _ _ _ h := h.step ((b.records d _).prepare_tracks nofun nofun (fun _ => trivial)
    fun _ _ _ => rfl).respects
  launch _ _ _ h := h.step ((b.records d _).launch_tracks nofun (fun _ => trivial)
    fun _ _ => rfl).respects
  look _ _ w _ h := by
    have looked := ((b.records d (· ≠ .analyzer)).isRunning_tracks (f := State.ledger) nofun
      fun _ => trivial).respects
    refine (looked.yields w).imp (fun yes _ hw => ?_) (fun _ _ _ => trivial)
      fun _ _ _ => trivial
    cases yes <;> exact h.frame hw
  recheck _ _ _ _ h := b.complete_check d h
  pause _ _ w _ h := by
    have slept := ((b.records d (· ≠ .analyzer)).sleep_tracks (f := State.ledger) nofun
      d.patience.interval).respects
    exact (slept.yields w).imp (fun _ _ hw => h.frame hw) (fun _ _ _ => trivial)
      fun _ _ _ => trivial
  timeout _ _ _ h := h.partial
  work _ _ _ h := h.step ((b.records d _).work_tracks nofun fun _ => trivial).respects
  shutDown _ _ _ h := h.step ((b.records d _).shutDown_tracks nofun (fun _ => trivial)
    fun _ _ => rfl).respects
  conclude i w _ h := by
    rw [recordedRunner_conclude, Try.yields_noted]
    refine (b.conclude_yields h).mono (fun _ w₁ h₁ => ?_) (fun e w₁ h₁ => ?_) fun _ _ _ => trivial
    · exact h₁.frame (confined_step _ w₁)
    · exact h₁.frame (confined_step _ w₁)
  processResults w h := Try.Yields.anyway (fun _ _ => trivial) (fun _ _ => trivial)
    fun _ _ => trivial
  tearDown c w h := by
    have tearDown := ((b.records d (· ≠ .analyzer)).tearDown_tracks (f := State.ledger) nofun
      nofun nofun nofun trivial (fun _ => trivial) fun _ _ _ _ _ => rfl).respects
    exact (tearDown.yields w).imp (fun _ _ hw => h.frame hw) (fun _ _ _ => trivial)
      fun _ _ _ => trivial
  tearDownAgain _ _ := Act.Yields.anyway (fun _ _ => trivial) fun _ _ => trivial

end Run

/-- **The ledger of a run that failed.**  A run that failed in iteration `k` has recorded the
metrics of the iterations before it, in order, and then those of iteration `k` up to the first that
conflicts with what is recorded (`Ledger.recordAll`). -/
theorem ledger_of_failed (b : Bench Empty σ) (d : Drive Empty σ) (progress : Option Progress)
    (w : σ) (report : Report) (k : Nat)
    (answered : (b.life d progress w).outcome = .returned (.ok report))
    (failed : report.failed = some k) :
    let events := b.events d progress w
    (∀ i, k < i → metricsOf events i = []) ∧
      ∃ l, Ledger.recordAll b.graphName {} (metricsBefore events k) = (l, none) ∧
        (b.life d progress w).world.subject.state.ledger =
          (Ledger.recordAll b.graphName l (metricsOf events k)).1 := by
  intro events
  have followed := (b.samplesOutline d).life_yields progress ⟨{}, ⟨[], w⟩⟩ ⟨rfl, rfl⟩
  rw [← watchedLife_outcome (b.recording_faithful d)] at answered
  obtain ⟨c, hc, left⟩ := followed.of_returned answered
  rw [← watchedLife_state (b.recording_faithful d)]
  cases c with
  | brokenOff completed e =>
    cases hc
    cases failed
    exact left
  | finished =>
    cases hc
    cases failed
  | setUpFailed e => cases hc
  | resultsFailed e => cases hc
  | wrecked m => cases hc

/-- Two metrics of one name with units that conflict: the second of them is refused. -/
def conflicting : List Metric := [⟨"m", 1, "s"⟩, ⟨"m", 2, "ms"⟩]

/-- The metrics that conflict end the run of `sample` in its first iteration. -/
lemma sample_failed : ∃ report,
    ((sample conflicting).life once none .disabled).outcome = .returned (.ok report) ∧
      report.failed = some 0 := by
  have failed : ((sample conflicting).life once none .disabled).outcome.value?.map Report.failed =
      some (some 0) := by decide +kernel
  obtain ⟨report, answered, hfailed⟩ := Option.map_eq_some_iff.1 failed
  exact ⟨report, Outcome.value?_eq_some.1 answered, hfailed⟩

theorem sample_ledger_of_failed :
    let events := (sample conflicting).events once none .disabled
    ∃ report, ((sample conflicting).life once none .disabled).outcome = .returned (.ok report) ∧
      report.failed = some 0 ∧ (∀ i, 0 < i → metricsOf events i = []) ∧
        ∃ l, Ledger.recordAll (sample conflicting).graphName {} (metricsBefore events 0) =
            (l, none) ∧
          ((sample conflicting).life once none .disabled).world.subject.state.ledger =
            (Ledger.recordAll (sample conflicting).graphName l (metricsOf events 0)).1 := by
  intro events
  obtain ⟨report, answered, failed⟩ := sample_failed
  exact ⟨report, answered, failed,
    (sample conflicting).ledger_of_failed once none .disabled report 0 answered failed⟩

/-- The ledger of a run that failed is not always the record of its complete iterations: the first
of two metrics that conflict is recorded, though the iteration fails. -/
theorem ledger_not_of_complete :
    ¬ ∀ (b : Bench Empty PreloadState) (d : Drive Empty PreloadState)
      (progress : Option Progress) (w : PreloadState) (report : Report) (k : Nat),
      (b.life d progress w).outcome = .returned (.ok report) → report.failed = some k →
        (b.life d progress w).world.subject.state.ledger =
          (Ledger.recordAll b.graphName {} (metricsBefore (b.events d progress w) k)).1 := by
  intro claim
  obtain ⟨report, answered, failed⟩ := sample_failed
  have kept : ((sample conflicting).life once none
      .disabled).world.subject.state.ledger.entries.length = 1 := by decide +kernel
  rw [claim _ _ _ _ report 0 answered failed] at kept
  have empty : (Ledger.recordAll (sample conflicting).graphName {}
      (metricsBefore ((sample conflicting).events once none .disabled) 0)).1.entries.length = 0 :=
    rfl
  exact absurd (empty.symm.trans kept) Nat.zero_ne_one

end Bench

end StartupBench
