import StartupBench.Proofs.Bench.Samples
import StartupBench.Proofs.Results.Ledger

/-!
# What a run writes

A run writes its result lines at its very end, and only if all its iterations are complete; until
then the output is not asked for anything (`Bench.Silent`).  The lines of a run without an error are
one for each name under which something was measured (`Bench.output_of_run`).

That is put together from two accounts.  The ledger of a complete run is the record of its metrics
(`Bench.Complete`), in which none was refused, so that its entries are read off the metrics
(`Ledger.entries_of_recordAll`): the names in the order of their bytes, each with all of its values
(`Metric.series`).  The record of events tells what was written (`Bench.written`), and a step that
does not ask the output leaves it as it is.

The invariant of the run is `Bench.Held`: so many iterations are complete and nothing was written
yet.  At the end of a course, `Bench.Said` is what that comes to.  It speaks of runs that are left
by a panic or aborted as well, since those write nothing unless all their iterations are complete
(`Bench.Discreet`).
-/

namespace StartupBench

/-! ## The entries of recorded metrics -/

/-- A metric as a `Reading` that is to be recorded under the name of the graph. -/
def Metric.reading (graph : String) (m : Metric) : Reading := ⟨⟨graph, m.name⟩, m.value, m.units⟩

/-- The metrics of a name, in order. -/
def Metric.named (metrics : List Metric) (name : String) : List Metric :=
  metrics.filter (·.name = name)

/-- The values of all metrics of a name, in order, in the units of the first of them. -/
def Metric.series (metrics : List Metric) (name : String) : Series where
  units := ((Metric.named metrics name).head?.map Metric.units).getD ""
  samples := (Metric.named metrics name).map Metric.value

namespace Ledger

variable {graph : String} {metrics : List Metric} {l : Ledger}

/-- Metrics that are recorded by `Ledger.recordAll` without a conflict are readings that are all
accepted. -/
lemma bookFrom_of_recordAll {l₀ : Ledger} (h : recordAll graph l₀ metrics = (l, none)) :
    bookFrom l₀ (metrics.map (Metric.reading graph)) = l ∧
      acceptedFrom l₀ (metrics.map (Metric.reading graph)) =
        metrics.map (Metric.reading graph) := by
  induction metrics generalizing l₀ with
  | nil =>
    cases h
    exact ⟨rfl, rfl⟩
  | cons m rest ih =>
    cases hm : l₀.record ⟨graph, m.name⟩ m.value m.units with
    | error e =>
      rw [recordAll_cons_of_error hm] at h
      cases h
    | ok l₁ =>
      rw [recordAll_cons_of_ok hm] at h
      have added : (m.reading graph).add l₀ =
          ⟨.returned (.ok ()), l₁, [.event (announcement ⟨graph, m.name⟩ m.value m.units)]⟩ := by
        unfold Reading.add Metric.reading
        rw [add_run, hm]
      obtain ⟨recorded, accepted⟩ := ih h
      rw [List.map_cons]
      refine ⟨?_, ?_⟩
      · rw [bookFrom, List.foldl_cons, added]
        exact recorded
      · rw [acceptedFrom, added, accepted]
        rfl

lemma ofKey_readings (metrics : List Metric) (name : String) :
    ofKey (metrics.map (Metric.reading graph)) ⟨graph, name⟩ =
      (Metric.named metrics name).map (Metric.reading graph) := by
  unfold ofKey Metric.named
  rw [List.filter_map]
  congr 1
  refine List.filter_congr fun m _ => ?_
  simp [Metric.reading]

lemma seriesOf_readings
    (h : accepted (metrics.map (Metric.reading graph)) = metrics.map (Metric.reading graph))
    {name : String} {series : Series}
    (hs : seriesOf (metrics.map (Metric.reading graph)) ⟨graph, name⟩ = some series) :
    series = Metric.series metrics name := by
  obtain ⟨first, hfirst, rfl⟩ := Option.map_eq_some_iff.1 hs
  unfold first? at hfirst
  rw [ofKey_readings, List.head?_map] at hfirst
  obtain ⟨m, hm, rfl⟩ := Option.map_eq_some_iff.1 hfirst
  unfold Metric.series
  rw [h, ofKey_readings, hm, List.map_map]
  rfl

lemma exists_metric_of_entry {e : ResultKey × Series}
    (he : e ∈ (book (metrics.map (Metric.reading graph))).entries) :
    ∃ m ∈ metrics, e.1 = ⟨graph, m.name⟩ := by
  obtain ⟨r, hr, same⟩ := exists_mem_book.1 ⟨e.2, he⟩
  obtain ⟨m, hm, rfl⟩ := List.mem_map.1 hr
  exact ⟨m, hm, same.symm⟩

lemma entry_eq
    (h : accepted (metrics.map (Metric.reading graph)) = metrics.map (Metric.reading graph))
    {e : ResultKey × Series} (he : e ∈ (book (metrics.map (Metric.reading graph))).entries) :
    (⟨graph, e.1.trace⟩, Metric.series metrics e.1.trace) = e := by
  obtain ⟨key, series⟩ := e
  obtain ⟨m, -, rfl⟩ := exists_metric_of_entry he
  have found := (sorted_book _).get? he
  rw [get?_book] at found
  rw [seriesOf_readings h found]

/-- The entries of metrics that are recorded without a conflict: one for each name, in the order of
the bytes, with the `Metric.series` of the name. -/
lemma entries_of_recordAll (h : recordAll graph {} metrics = (l, none)) :
    ∃ names : List String,
      names.Pairwise (fun a b => Utf8.encode a < Utf8.encode b) ∧
        (∀ name, name ∈ names ↔ ∃ m ∈ metrics, m.name = name) ∧
        l.entries = names.map fun name => (⟨graph, name⟩, Metric.series metrics name) := by
  obtain ⟨told, all⟩ := bookFrom_of_recordAll h
  have book_eq : book (metrics.map (Metric.reading graph)) = l := told
  subst book_eq
  refine ⟨(book (metrics.map (Metric.reading graph))).entries.map (·.1.trace), ?_,
    fun name => ⟨fun hname => ?_, ?_⟩, ?_⟩
  · refine List.pairwise_map.2 ((sorted_book _).imp_of_mem fun {a b} ha hb hab => ?_)
    have same : a.1.graph = b.1.graph := by
      rw [← entry_eq all ha, ← entry_eq all hb]
    obtain hab | ⟨_, hab⟩ := ResultKey.before_iff_bytes.1 hab
    · exact absurd hab (same ▸ List.lt_irrefl _)
    · exact hab
  · obtain ⟨e, he, rfl⟩ := List.mem_map.1 hname
    obtain ⟨m, hm, key⟩ := exists_metric_of_entry he
    exact ⟨m, hm, by rw [key]⟩
  · rintro ⟨m, hm, rfl⟩
    obtain ⟨series, he⟩ := exists_mem_book.2 ⟨m.reading graph, List.mem_map_of_mem hm, rfl⟩
    exact List.mem_map.2 ⟨_, he, rfl⟩
  · rw [List.map_map]
    calc (book (metrics.map (Metric.reading graph))).entries
        = (book (metrics.map (Metric.reading graph))).entries.map id := (List.map_id _).symm
      _ = _ := List.map_congr_left fun e he => (entry_eq all he).symm

end Ledger

namespace Bench

variable {κ σ : Type}

/-! ## What was written -/

/-- The bytes that an event wrote: those of a text that could be written. -/
def Event.written : Event → List UInt8
  | .output (.write text true) => Utf8.encode text
  | _ => []

/-- All bytes that were written, in order. -/
def written (events : List Event) : List UInt8 := events.flatMap Event.written

/-- The output was not asked for anything, not even in vain (`Part.output`). -/
def Silent (events : List Event) : Prop := ∀ e ∈ events, e.part ≠ some .output

/-- The run was set up, and so many of its iterations are complete, as the ends of the steps on
record tell. -/
def Concluded (k : Nat) (events : List Event) : Prop :=
  .step ⟨.setUp, .done⟩ ∈ events ∧ ∀ i < k, .step ⟨.conclude i, .done⟩ ∈ events

/-- The bytes of each line and its end. -/
def encodeLines (lines : List String) : List UInt8 :=
  lines.flatMap fun line => Utf8.encode (line ++ "\n")

lemma Confined.mono {γ : Type} {f : State → γ} {K K' : Part → Prop}
    {w w₁ : World (Recorded Event σ)} (h : Confined f K w w₁) (hK : ∀ p, K p → K' p) :
    Confined f K' w w₁ := by
  obtain ⟨same, more, hcalls, hmore⟩ := h
  exact ⟨same, more, hcalls, fun e he p hp => hK p (hmore e he p hp)⟩

lemma written_append (events more : List Event) :
    written (events ++ more) = written events ++ written more := List.flatMap_append

lemma written_write (text : String) :
    written [.output (.write text true)] = Utf8.encode text := List.append_nil _

lemma Silent.written_eq {events : List Event} (h : Silent events) : written events = [] := by
  refine List.flatMap_eq_nil_iff.2 fun e he => ?_
  cases e with
  | output call => exact absurd rfl (h _ he)
  | _ => rfl

section Adds

variable {w w₁ : Recorded Event σ} {K : Part → Prop}

lemma Silent.adds (h : Silent w.calls) (hw : Recorded.Adds (Event.Of (· ≠ .output)) w w₁) :
    Silent w₁.calls := by
  obtain ⟨more, hcalls, hmore⟩ := hw
  rw [hcalls]
  intro e he hpart
  obtain he | he := List.mem_append.1 he
  · exact h e he hpart
  · exact hmore e he .output hpart rfl

lemma written_adds (hw : Recorded.Adds (Event.Of (· ≠ .output)) w w₁) :
    written w₁.calls = written w.calls := by
  obtain ⟨more, hcalls, hmore⟩ := hw
  have silent : Silent more := fun e he hpart => hmore e he .output hpart rfl
  rw [hcalls, written_append, silent.written_eq, List.append_nil]

lemma Concluded.adds {k : Nat} (h : Concluded k w.calls)
    (hw : Recorded.Adds (Event.Of K) w w₁) : Concluded k w₁.calls := by
  obtain ⟨more, hcalls, -⟩ := hw
  rw [hcalls]
  exact ⟨List.mem_append_left _ h.1, fun i hi => List.mem_append_left _ (h.2 i hi)⟩

end Adds

lemma Concluded.succ {k : Nat} {events : List Event} (h : Concluded k events) :
    Concluded (k + 1) (events ++ [.step ⟨.conclude k, .done⟩]) := by
  refine ⟨List.mem_append_left _ h.1, fun i hi => ?_⟩
  obtain hlt | rfl := Nat.lt_succ_iff_lt_or_eq.1 hi
  · exact List.mem_append_left _ (h.2 i hlt)
  · exact List.mem_append_right _ List.mem_cons_self

/-! ## Processing the results -/

section Results

variable (b : Bench κ σ)

lemma recorded_write (i : Option Nat) (text : String) : (b.recorded i).output.write text =
    Try.recorded (fun out => .output (.write text out.value?.isSome)) (b.output.write text) := rfl

lemma recordedRunner_processResults (d : Drive κ σ) :
    (b.recordedRunner d).subject.processResults =
      Try.noted (fun out => noting fun _ => .step ⟨.processResults, .ofTry out⟩)
        (b.recorded none).processResults := rfl

lemma recorded_flush (i : Option Nat) : (b.recorded i).output.flush =
    Try.recorded (fun out => .output (.flush out.value?.isSome)) b.output.flush := rfl

lemma writeLines_yields (i : Option Nat) (lines : List String) (w : Recorded Event σ)
    {E : IoError → Recorded Event σ → Prop} {P : String → Recorded Event σ → Prop}
    (hE : ∀ e w₁, E e w₁) (hP : ∀ m w₁, P m w₁) :
    Try.Yields ((b.recorded i).writeLines lines) w
      (fun _ w₁ => written w₁.calls = written w.calls ++ encodeLines lines) E P := by
  induction lines generalizing w with
  | nil => exact (List.append_nil _).symm
  | cons line rest ih =>
    unfold writeLines
    rw [Try.yields_bind, recorded_write, Try.yields_recorded]
    refine Try.Yields.anyway (fun _ s => ?_) (fun e _ => hE e _) fun m _ => hP m _
    refine (ih _).mono (fun _ w₁ h₁ => ?_) (fun _ _ h => h) fun _ _ h => h
    rw [h₁]
    dsimp only [Outcome.value?, Option.isSome]
    rw [written_append, written_write, List.append_assoc, encodeLines, encodeLines,
      List.flatMap_cons]

/-- Processing the results writes the lines of the ledger (`Ledger.resultLines`), if it succeeds,
and does not change the ledger. -/
lemma processResults_yields (i : Option Nat) (w : World (Recorded Event σ)) :
    Try.Yields (b.recorded i).processResults w
      (fun _ w₁ => written w₁.outside.calls =
        written w.outside.calls ++ encodeLines w.state.ledger.resultLines)
      (fun _ _ => True) fun _ _ => True := by
  unfold processResults stateOf tryingIo trying
  rw [Try.yields_bind, Try.yields_lift, Act.yields_reading, Try.yields_bind, Try.yields_mapError,
    Try.yields_within]
  refine (b.writeLines_yields i _ _ (fun _ _ => trivial) fun _ _ => trivial).mono
    (fun _ w₁ h₁ => ?_) (fun _ _ h => h) fun _ _ h => h
  rw [Try.yields_mapError, Try.yields_within, recorded_flush, Try.yields_recorded]
  refine Try.Yields.anyway (fun _ s => ?_) (fun _ _ => trivial) fun _ _ => trivial
  dsimp only
  rw [written_append, h₁]
  exact List.append_nil _

end Results

/-! ## The run -/

/-- A part that has nothing to do with what is measured and written. -/
abbrev Part.Aside (p : Part) : Prop := p ≠ .analyzer ∧ p ≠ .output

/-- A step that neither measures nor writes. -/
abbrev Unheard : World (Recorded Event σ) → World (Recorded Event σ) → Prop :=
  Confined State.ledger Part.Aside

/-- So many iterations are `Complete`, and nothing was written yet. -/
structure Held (b : Bench κ σ) (k : Nat) (w : World (Recorded Event σ)) : Prop where
  complete : b.Complete k w
  concluded : Concluded k w.outside.calls
  silent : Silent w.outside.calls

/-- What is written at the end of a `Runner.Course` of so many iterations: the lines if it has
finished, and nothing if it was not set up or broke off. -/
def Said (b : Bench κ σ) (iterations : Nat) :
    Runner.Course → World (Recorded Event σ) → Prop
  | .setUpFailed _, w | .brokenOff _ _, w => Silent w.outside.calls
  | .resultsFailed _, w => Concluded iterations w.outside.calls
  | .finished, w =>
    b.Complete iterations w ∧ Concluded iterations w.outside.calls ∧
      written w.outside.calls = encodeLines w.state.ledger.resultLines
  | .wrecked _, w => Silent w.outside.calls ∨ Concluded iterations w.outside.calls

/-- Something was written only if all iterations are complete, and otherwise the record is `Silent`.
-/
def Discreet (n : Nat) (w : World (Recorded Event σ)) : Prop :=
  Silent w.outside.calls ∨ Concluded n w.outside.calls

section Saying

variable {b : Bench κ σ} {k n : Nat} {c : Runner.Course} {w w₁ : World (Recorded Event σ)}

lemma Unheard.adds (hw : Unheard w w₁) :
    Recorded.Adds (Event.Of (· ≠ .output)) w.outside w₁.outside :=
  (Confined.mono hw fun _ hp => hp.2).2

lemma Held.frame (h : b.Held k w) (hw : Unheard w w₁) : b.Held k w₁ where
  complete := h.complete.frame (Confined.mono hw fun _ hp => hp.1)
  concluded := h.concluded.adds hw.2
  silent := h.silent.adds hw.adds

lemma Said.frame (h : b.Said n c w) (hw : Unheard w w₁) : b.Said n c w₁ := by
  cases c with
  | setUpFailed e => exact Silent.adds h hw.adds
  | brokenOff k e => exact Silent.adds h hw.adds
  | resultsFailed e => exact Concluded.adds h hw.2
  | finished =>
    obtain ⟨complete, concluded, wrote⟩ := h
    refine ⟨complete.frame (Confined.mono hw fun _ hp => hp.1), concluded.adds hw.2, ?_⟩
    rw [written_adds hw.adds, wrote, hw.1]
  | wrecked m => exact h.imp (·.adds hw.adds) (·.adds hw.2)

lemma Said.discreet (h : b.Said n c w) : Discreet n w := by
  cases c with
  | setUpFailed e => exact .inl h
  | brokenOff k e => exact .inl h
  | resultsFailed e => exact .inr h
  | finished => exact .inr h.2.1
  | wrecked m => exact h

end Saying

section Run

variable (b : Bench κ σ) (d : Drive κ σ) {k : Nat} {w : World (Recorded Event σ)}

/-- A step of an iteration in which nothing is measured or written (`Unheard`) keeps what is `Held`.
-/
lemma Held.step {b : Bench κ σ} {n : Nat}
    {x : Try κ (World (Recorded Event σ)) RunError Unit} (h : b.Held k w)
    (hx : Try.Respects Unheard x) :
    Try.Yields x w (fun _ => b.Held k) (fun e => b.Said n (.brokenOff k e))
      (fun m => b.Said n (.wrecked m)) fun _ => Discreet n :=
  (hx.yields w).imp (fun _ _ hw => h.frame hw) (fun _ _ hw => (h.frame hw).silent)
    (fun _ _ hw => .inl (h.frame hw).silent) fun _ _ hw => .inl (h.frame hw).silent

lemma held_check {n : Nat} (h : b.Held k w) :
    (b.recordedRunner d).interrupted.Yields w
      (fun yes => if yes then b.Said n (.brokenOff k .interrupted) else b.Held k)
      (fun m => b.Said n (.wrecked m)) fun _ => Discreet n := by
  have asked := ((b.records d Part.Aside).interrupted_tracks (f := State.ledger)
    (by decide)).respects
  refine (asked.yields w).imp (fun yes w₁ hw => ?_) (fun _ _ hw => .inl (h.frame hw).silent)
    fun _ _ hw => .inl (h.frame hw).silent
  cases yes with
  | true => exact (h.frame hw).silent
  | false => exact h.frame hw

/-- The run and what it writes: `Held` while it goes on, and `Said` at the end of its course. -/
def outputOutline : Runner.Outline (b.recordedRunner d) where
  start w := w.state.ledger = {} ∧ w.outside.calls = []
  ready := b.Held
  prepared := b.Held
  waiting k _ := b.Held k
  running := b.Held
  worked := b.Held
  quiet := b.Held
  closing := b.Said d.iterations
  gone := b.Said d.iterations
  torn := Discreet d.iterations
  halted _ := Discreet d.iterations
  setUp w h := by
    have complete : b.Complete 0 w := by
      unfold Complete
      rw [h.1, h.2]
      exact ⟨fun _ _ => rfl, rfl⟩
    have silent : Silent w.outside.calls := by
      rw [h.2]
      exact fun _ he => nomatch he
    have setUp := ((b.recorded_tracks none Part.Aside).setUp_tracks (f := State.ledger)
      ⟨nofun, nofun⟩ ⟨nofun, nofun⟩ ⟨nofun, nofun⟩ ⟨nofun, nofun⟩ ⟨nofun, nofun⟩
      fun _ _ _ _ => rfl).respects
    have noted : ∀ (w₁ : World (Recorded Event σ)) (call : Subject.Call), Unheard w w₁ →
        Unheard w (noting (fun _ => .step call) w₁) := fun w₁ call hw =>
      IsTrans.trans _ _ _ hw (confined_step call w₁)
    rw [recordedRunner_setUp, Try.yields_noted]
    refine (setUp.yields w).imp (fun _ w₁ hw => ?_) (fun e w₁ hw => ?_) (fun m w₁ hw => ?_)
      fun k w₁ hw => ?_
    · exact
        { complete := complete.frame (Confined.mono (noted w₁ _ hw) fun _ hp => hp.1)
          concluded := ⟨List.mem_append_right _ List.mem_cons_self, fun _ hi => nomatch hi⟩
          silent := silent.adds (Unheard.adds (noted w₁ _ hw)) }
    · exact silent.adds (Unheard.adds (noted w₁ _ hw))
    · exact .inl (silent.adds (Unheard.adds (noted w₁ _ hw)))
    · exact .inl (silent.adds (Unheard.adds (noted w₁ _ hw)))
  check _ _ _ h := b.held_check d h
  prepare _ _ _ h := h.step ((b.records d _).prepare_tracks ⟨nofun, nofun⟩ ⟨nofun, nofun⟩
    (fun _ => trivial) fun _ _ _ => rfl).respects
  launch _ _ _ h := h.step ((b.records d _).launch_tracks ⟨nofun, nofun⟩ (fun _ => trivial)
    fun _ _ => rfl).respects
  look _ _ w _ h := by
    have looked := ((b.records d Part.Aside).isRunning_tracks (f := State.ledger)
      ⟨nofun, nofun⟩ fun _ => trivial).respects
    refine (looked.yields w).imp (fun yes _ hw => ?_) (fun _ _ hw => .inl (h.frame hw).silent)
      fun _ _ hw => .inl (h.frame hw).silent
    cases yes <;> exact h.frame hw
  recheck _ _ _ _ h := b.held_check d h
  pause _ _ w _ h := by
    have slept := ((b.records d Part.Aside).sleep_tracks (f := State.ledger) ⟨nofun, nofun⟩
      d.patience.interval).respects
    exact (slept.yields w).imp (fun _ _ hw => h.frame hw)
      (fun _ _ hw => .inl (h.frame hw).silent) fun _ _ hw => .inl (h.frame hw).silent
  timeout _ _ _ h := h.silent
  work _ _ _ h := h.step ((b.records d _).work_tracks ⟨nofun, nofun⟩ fun _ => trivial).respects
  shutDown _ _ _ h := h.step ((b.records d _).shutDown_tracks ⟨nofun, nofun⟩ (fun _ => trivial)
    fun _ _ => rfl).respects
  conclude i w _ h := by
    have apart := ((b.recorded_tracks (some i) (· ≠ .output)).conclude_tracks (f := fun _ => ())
      nofun nofun nofun fun _ _ _ _ => rfl).respects
    have noted : ∀ (w₁ : World (Recorded Event σ)) (call : Subject.Call),
        Confined (fun _ => ()) (· ≠ .output) w w₁ →
          Silent (noting (fun _ => .step call) w₁).outside.calls := fun w₁ call hw =>
      h.silent.adds (IsTrans.trans _ _ _ hw (confined_step call w₁)).2
    rw [recordedRunner_conclude, Try.yields_noted]
    refine ((apart.yields w).and (b.conclude_yields h.complete)).imp (fun _ w₁ h₁ => ?_)
      (fun e w₁ h₁ => ?_) (fun m w₁ h₁ => ?_) fun k w₁ h₁ => ?_
    · exact
        { complete := h₁.2.frame (confined_step _ w₁)
          concluded := (h.concluded.adds h₁.1.2).succ
          silent := noted w₁ _ h₁.1 }
    · exact noted w₁ _ h₁.1
    · exact .inl (noted w₁ _ h₁.1)
    · exact .inl (noted w₁ _ h₁)
  processResults w h := by
    -- The lines are those of the ledger as it is before; the ledger is not changed by writing them.
    have apart := ((b.recorded_tracks none (· ≠ .analyzer)).processResults_tracks
      (f := State.ledger) nofun).respects
    have concluded : ∀ (w₁ : World (Recorded Event σ)) (call : Subject.Call), Unmeasured w w₁ →
        Concluded d.iterations (noting (fun _ => .step call) w₁).outside.calls := fun w₁ call hw =>
      h.concluded.adds (IsTrans.trans _ _ _ hw (confined_step call w₁)).2
    rw [recordedRunner_processResults, Try.yields_noted]
    refine ((apart.yields w).and (b.processResults_yields none w)).imp (fun _ w₁ h₁ => ?_)
      (fun e w₁ h₁ => ?_) (fun m w₁ h₁ => ?_) fun k w₁ h₁ => ?_
    · refine ⟨(h.complete.frame h₁.1).frame (confined_step _ w₁), concluded w₁ _ h₁.1, ?_⟩
      have wrote : written w.outside.calls ++ encodeLines w.state.ledger.resultLines =
          encodeLines w₁.state.ledger.resultLines := by
        rw [h.silent.written_eq, List.nil_append, h₁.1.1]
      exact (written_adds (confined_step (f := State.ledger) _ w₁).2).trans (h₁.2.trans wrote)
    · exact concluded w₁ _ h₁.1
    · exact .inr (concluded w₁ _ h₁.1)
    · exact .inr (concluded w₁ _ h₁)
  tearDown c w h := by
    have tearDown := ((b.records d Part.Aside).tearDown_tracks (f := State.ledger) ⟨nofun, nofun⟩
      ⟨nofun, nofun⟩ ⟨nofun, nofun⟩ ⟨nofun, nofun⟩ trivial (fun _ => trivial)
      fun _ _ _ _ _ => rfl).respects
    exact (tearDown.yields w).imp (fun _ _ hw => h.frame hw)
      (fun _ _ hw => (h.frame hw).discreet) fun _ _ hw => (h.frame hw).discreet
  tearDownAgain w h := by
    have tearDown := ((b.records d Part.Aside).tearDown_tracks (f := State.ledger) ⟨nofun, nofun⟩
      ⟨nofun, nofun⟩ ⟨nofun, nofun⟩ ⟨nofun, nofun⟩ trivial (fun _ => trivial)
      fun _ _ _ _ _ => rfl).respects
    have framed : ∀ w₁, Unheard w w₁ → Discreet d.iterations w₁ := fun _ hw =>
      h.imp (·.adds (Unheard.adds hw)) (·.adds hw.2)
    exact (tearDown.yields w).imp (fun _ => framed) (fun _ => framed) fun _ => framed

end Run

/-- **The output of a run.**  A run without an error writes one line for each name under which
something was measured, in the order of the bytes of the names.  The line tells the name of the
executable (`Bench.graphName`), the name, all values of the name, in order, and the units of the
first of them (`Metric.series`).  A run that was not set up or did not complete all its iterations
writes nothing, also if it is left by a panic or aborted. -/
theorem output_of_run (b : Bench κ σ) (d : Drive κ σ) (progress : Option Progress) (w : σ) :
    let events := b.events d progress w
    let metrics := metricsBefore events d.iterations
    (∀ report, (b.life d progress w).outcome = .returned (.ok report) → report.error = none →
      report.completed = d.iterations ∧
        ∃ names : List String,
          names.Pairwise (fun a b => Utf8.encode a < Utf8.encode b) ∧
            (∀ name, name ∈ names ↔ ∃ m ∈ metrics, m.name = name) ∧
            written events = names.flatMap fun name =>
              Utf8.encode ("RESULT " ++ b.graphName ++ ": " ++ name ++ "= [" ++
                String.intercalate ", " ((Metric.series metrics name).samples.map Decimal.plain) ++
                "] " ++ (Metric.series metrics name).units ++ "\n")) ∧
      (∀ report, (b.life d progress w).outcome = .returned (.ok report) →
        report.completed < d.iterations → Silent events) ∧
      ((.step ⟨.setUp, .done⟩ ∉ events ∨ ∃ i < d.iterations, .step ⟨.conclude i, .done⟩ ∉ events) →
        Silent events) := by
  intro events metrics
  have followed := (b.outputOutline d).life_yields progress ⟨{}, ⟨[], w⟩⟩ ⟨rfl, rfl⟩
  have course : ∀ report, (b.life d progress w).outcome = .returned (.ok report) →
      ∃ c : Runner.Course, c.outcome d.iterations =
        (.returned (.ok report) : Outcome κ (Except RunError Report)) ∧
          b.Said d.iterations c (b.watchedLife .recording d progress w).world.subject := by
    intro report answered
    rw [← watchedLife_outcome (b.recording_faithful d)] at answered
    exact followed.of_returned answered
  refine ⟨fun report answered clean => ?_, fun report answered short => ?_, fun missing => ?_⟩
  · obtain ⟨c, hc, said⟩ := course report answered
    cases c with
    | finished =>
      cases hc
      obtain ⟨complete, -, wrote⟩ := said
      obtain ⟨names, inOrder, measured, entries⟩ := Ledger.entries_of_recordAll complete.2
      refine ⟨rfl, names, inOrder, measured, wrote.trans ?_⟩
      rw [encodeLines, Ledger.resultLines, entries, List.map_map, List.flatMap_map]
      rfl
    | brokenOff completed e =>
      cases hc
      cases clean
    | setUpFailed e => cases hc
    | resultsFailed e => cases hc
    | wrecked m => cases hc
  · obtain ⟨c, hc, said⟩ := course report answered
    cases c with
    | brokenOff completed e => exact said
    | finished =>
      cases hc
      exact absurd short (Nat.lt_irrefl _)
    | setUpFailed e => cases hc
    | resultsFailed e => cases hc
    | wrecked m => cases hc
  · -- This is said of every way out, and of runs that are aborted.
    have ended : Silent events ∨ Concluded d.iterations events := by
      refine Act.Yields.ends (Q := fun _ w₁ => Discreet d.iterations w₁.subject)
        (followed.imp ?_ ?_ ?_)
      · rintro res w₁ ⟨c, -, said⟩
        exact said.discreet
      · rintro m w₁ (wrecked | torn)
        · exact wrecked
        · exact torn
      · rintro k w₁ (halted | ⟨-, torn⟩)
        · exact halted
        · exact torn
    obtain silent | ⟨setUp, concluded⟩ := ended
    · exact silent
    · obtain missing | ⟨i, hi, missing⟩ := missing
      · exact absurd setUp missing
      · exact absurd (concluded i hi) missing

/-- Names in ascending order are determined by which names they are. -/
lemma ascending_unique {names names' : List String}
    (h : names.Pairwise fun a b => Utf8.encode a < Utf8.encode b)
    (h' : names'.Pairwise fun a b => Utf8.encode a < Utf8.encode b)
    (same : ∀ name, name ∈ names ↔ name ∈ names') : names = names' := by
  have distinct : ∀ {l : List String},
      l.Pairwise (fun a b => Utf8.encode a < Utf8.encode b) → l.Nodup := by
    intro l sorted
    refine sorted.imp fun {a b} lt equal => ?_
    rw [equal] at lt
    exact List.lt_irrefl _ lt
  have perm := (List.perm_ext_iff_of_nodup (distinct h) (distinct h')).2 same
  exact perm.eq_of_pairwise (fun a b _ _ lt gt => absurd (List.lt_trans lt gt) (List.lt_irrefl _))
    h h'

/-- A run of `sample` that measures one thing twice and another one once writes two lines. -/
theorem sample_output :
    let bench := sample [⟨"m", 1, "s"⟩, ⟨"n", 2, "ms"⟩, ⟨"m", 3, ""⟩]
    (bench.life once none .disabled).outcome = .returned (.ok ⟨1, none, none, .tornDown⟩) ∧
      written (bench.events once none .disabled) =
        Utf8.encode "RESULT chrome: m= [1, 3] s\nRESULT chrome: n= [2] ms\n" := by
  have ascending : ["m", "n"].Pairwise fun a b => Utf8.encode a < Utf8.encode b := by
    decide +kernel
  have twice : ∀ name, name ∈ ["m", "n", "m"] ↔ name ∈ ["m", "n"] := by
    grind
  intro bench
  have out : (bench.life once none .disabled).outcome =
      .returned (.ok ⟨1, none, none, .tornDown⟩) :=
    Outcome.value?_eq_some.1 (by decide +kernel)
  have measured : (metricsBefore (bench.events once none .disabled) 1).map Metric.name =
      ["m", "n", "m"] := by decide +kernel
  obtain ⟨-, names, inOrder, named, wrote⟩ :=
    (bench.output_of_run once none .disabled).1 _ out rfl
  have both : names = ["m", "n"] := by
    refine ascending_unique inOrder ascending fun name => ?_
    rw [← twice, ← measured, List.mem_map]
    exact named name
  refine ⟨out, wrote.trans ?_⟩
  rw [both]
  decide +kernel

end Bench

end StartupBench
