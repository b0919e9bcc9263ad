import Mathlib.Algebra.Order.Floor.Div
import StartupBench.Proofs.Act.Answers
import StartupBench.Proofs.Desktop.ExitCodes
import StartupBench.Proofs.Program.Deadline

/-!
# How a wait for a process ends

A wait for a process looks at it again and again, with a pause of `pollInterval` after each look in
vain, until the process has exited, a look fails or the limit of the wait has come.  Whatever state
the system has, the looks answer a stream, and so does the clock (`Streams`); all that is asked of
the clock is that it does not go back and that a pause takes its time (`Advances`).

How the wait ends is told by its last look alone, and with a limit the number of looks is bounded by
the number of pauses that the limit has room for (`ProcessTable.waitForExit_ends`).  The looks are
counted in the record of what the system is asked.

## One look

A look asks the system after the child once (`ProcessTable.pollExit_asks`).  It decides the wait if
it fails or sees the process to have exited (`ProcessTable.look_decided`); a look in vain decides it
if the deadline has come, and otherwise the wait pauses and goes on (`ProcessTable.look_in_vain`).

## All of them

`ProcessTable.Concludes` says how the looks conclude, after how many of them and without any fuel.
`ProcessTable.first_concludes` is the induction on the looks that are left.  With a limit the fuel
is never used up, as every pause takes its time (`ProcessTable.Advances.pauses_le`); without one a
process that never exits is waited for as long as there is fuel.
-/

namespace StartupBench

variable {κ σ : Type}

/-- The system was asked after a child, which is what a look at a process begins with. -/
def Inquiry.isPoll : Inquiry → Bool
  | .poll _ _ => true
  | .probe _ _ => false

/-! ## Instants -/

lemma Duration.toNanos_ofNanos (n : ℕ) : (ofNanos n).toNanos = n := Nat.div_add_mod' n perSecond

lemma Instant.after?_eq_some {now : Instant} {d : Duration} (h : ¬now.Overflows d) :
    now.after? d = some (Duration.ofNanos (now.toNanos + d.toNanos)) := by
  have reached : now.after? d ≠ none := fun none => h (after?_eq_none.1 none)
  unfold after? at reached ⊢
  dsimp only at reached ⊢
  split
  · rfl
  · rename_i late
    rw [if_neg late] at reached
    exact absurd rfl reached

namespace ProcessTable

/-! ## Looks and readings of the clock -/

/-- The clock is read, if the time matters.  Without a limit nobody reads it. -/
def Reads (c : ProcessCalls κ σ) (timed : Bool) (w : World σ) (time : Instant) (w₁ : World σ) :
    Prop :=
  if timed then (asking c.now).Answers w time w₁ else w₁ = w

/-- A wait from `w` begins at the time `start`.  Looked at again and again, with a pause after each
look, the process answers the looks as in `polls`, and the clock is read as in `readings` after each
of them.  Without a limit the time does not matter. -/
def Streams (c : ProcessCalls κ σ) (pid : ProcessId) (limit : Option Duration) (w : World σ)
    (start : Instant) (polls : ℕ → Except PrimitiveError Bool) (readings : ℕ → Instant) : Prop :=
  ∃ worlds : ℕ → World σ, Reads c limit.isSome w start (worlds 0) ∧
    ∀ i, ∃ w₁ w₂, (pollExit c pid).result.Answers (worlds i) (polls i) w₁ ∧
      Reads c limit.isSome w₁ (readings i) w₂ ∧
      (asking (c.sleep pollInterval)).Answers w₂ () (worlds (i + 1))

/-- The clock does not go back, and a pause takes its time, which is `pollInterval` at least. -/
structure Advances (start : Instant) (readings : ℕ → Instant) : Prop where
  begins : start.toNanos ≤ (readings 0).toNanos
  pauses : ∀ i, (readings i).toNanos + pollInterval.toNanos ≤ (readings (i + 1)).toNanos

lemma Advances.elapsed {start : Instant} {readings : ℕ → Instant} (h : Advances start readings)
    (i : ℕ) : start.toNanos + i * pollInterval.toNanos ≤ (readings i).toNanos := by
  have steps : ∀ (f : ℕ → ℕ) (a p : ℕ), a ≤ f 0 → (∀ i, f i + p ≤ f (i + 1)) → a + i * p ≤ f i := by
    intro f a p begins pauses
    induction i with
    | zero => simpa using begins
    | succ i ih =>
      have later := pauses i
      rw [Nat.succ_mul]
      omega
  exact steps (fun i => (readings i).toNanos) _ _ h.begins h.pauses

/-- When a wait that begins at `start` ends at the latest, if it has a `limit`. -/
def endsBy (start : Instant) (limit : Option Duration) : Option Instant :=
  limit.map fun t => Duration.ofNanos (start.toNanos + t.toNanos)

/-- The deadline has come, if there is one. -/
def due (deadline : Option Instant) (time : Instant) : Bool := deadline.any fun d => d ≤ time

lemma due_some (d time : Instant) : due (some d) time = decide (d ≤ time) := by
  unfold due
  rw [Option.any_some]

lemma due_some_iff {d time : Instant} :
    due (some d) time = true ↔ d.toNanos ≤ time.toNanos := by
  rw [due_some, decide_eq_true_iff]
  exact Iff.rfl

lemma due_endsBy {start time : Instant} {limit : Option Duration} :
    due (endsBy start limit) time = true ↔
      ∃ t, limit = some t ∧ start.toNanos + t.toNanos ≤ time.toNanos := by
  unfold endsBy
  cases limit with
  | none => simp [due]
  | some t =>
    rw [Option.map_some, due_some_iff, Duration.toNanos_ofNanos]
    simp

/-! ## The record of a wait -/

section Told

variable {c : ProcessCalls κ σ} {α : Type} {w w₁ w₂ w₃ : World σ} {time : Instant}
  {calls calls₁ : List Inquiry} {pid : ProcessId} {deadline : Option Instant}

/-- The world of the process table, with a record of what was asked (`Inquiry`). -/
def told (calls : List Inquiry) (w : World σ) : World (Recorded Inquiry σ) :=
  ⟨w.exitCodes, calls, w.outside⟩

lemma asking_told {x : Act κ σ α} {a : α} (h : (asking x).Answers w a w₁) :
    (asking x.unrecorded).Answers (told calls w) a (told calls w₁) := by
  obtain ⟨out, rfl⟩ := h
  exact ⟨out, rfl⟩

/-- Every look asks the system after the child once, and after nothing else that counts as a poll.
-/
lemma pollExit_asks (c : ProcessCalls κ σ) (pid : ProcessId) (w : World (Recorded Inquiry σ)) :
    (pollExit c.inquiring pid).result.Yields w
      (fun _ w₁ => w₁.outside.calls.countP Inquiry.isPoll =
        w.outside.calls.countP Inquiry.isPoll + 1) fun _ _ => True := by
  have polled : ∀ answer, [Inquiry.poll (rawPid pid) answer].countP Inquiry.isPoll = 1 :=
    fun _ => rfl
  have probed : ∀ answer, [Inquiry.probe (rawPid pid) answer].countP Inquiry.isPoll = 0 :=
    fun _ => rfl
  unfold pollExit
  rw [Try.yields_result, Try.yields_bind, Try.yields_attempt, trying, Try.yields_within,
    c.inquiring_poll, Try.yields_recorded]
  refine Try.Yields.anyway (fun state s => ?_) (fun e s => ?_) fun _ _ => trivial
  · cases state <;> exact List.countP_append
  · cases e with
    | noChild =>
      dsimp only
      rw [Try.yields_bind, Try.yields_attempt, trying, Try.yields_within, c.inquiring_probe,
        Try.yields_recorded]
      refine Try.Yields.anyway (fun _ s => ?_) (fun _ s => ?_) fun _ _ => trivial
      all_goals
        show List.countP _ (_ ++ _ ++ _) = _
        rw [List.countP_append, List.countP_append, polled, probed]
    | _ => exact List.countP_append

lemma pollExit_told {answer : Except PrimitiveError Bool}
    (h : (pollExit c pid).result.Answers w answer w₁) (calls : List Inquiry) :
    ∃ calls₁, (pollExit c.inquiring pid).result.Answers (told calls w) answer (told calls₁ w₁) ∧
      calls₁.countP Inquiry.isPoll = calls.countP Inquiry.isPoll + 1 := by
  have richer : Act.Over (World.map Recorded.world) (pollExit c.inquiring pid).result
      (pollExit c pid).result := (pollExit_tracks (inquiring_tracks c) pid).toOver
  obtain ⟨w', answers, rfl⟩ := Act.Answers.inherited (w := told calls w) richer h
  exact ⟨w'.outside.calls, answers, answers.yields (pollExit_asks c pid _)⟩

lemma deadline_told {limit : Option Duration} (calls : List Inquiry)
    (h : Reads c limit.isSome w time w₁) (fits : ∀ t ∈ limit, ¬time.Overflows t) :
    (ProcessTable.deadline c.inquiring limit).Answers (told calls w) (endsBy time limit)
      (told calls w₁) := by
  cases limit with
  | none =>
    obtain rfl : w₁ = w := h
    exact Act.answers_pure _ _
  | some t =>
    have now : (asking c.now).Answers w time w₁ := h
    refine (asking_told now).bind ?_
    have later : (time.after t : Act κ (World (Recorded Inquiry σ)) Instant) =
        pure (Duration.ofNanos (time.toNanos + t.toNanos)) := by
      unfold Instant.after
      rw [Instant.after?_eq_some (fits t rfl)]
      rfl
    rw [later]
    exact (Act.answers_pure _ _).bind (Act.answers_pure _ _)

lemma reached_told (h : Reads c deadline.isSome w time w₁) :
    (reached c.inquiring deadline).Answers (told calls w) (due deadline time) (told calls w₁) := by
  cases deadline with
  | none =>
    obtain rfl : w₁ = w := h
    exact Act.answers_pure _ _
  | some d =>
    have now : (asking c.now).Answers w time w₁ := h
    rw [due_some]
    exact (asking_told now).bind (Act.answers_pure _ _)

end Told

/-! ## One look after the other -/

section Looks

variable {c : ProcessCalls κ σ} {w w₁ w₂ w₃ : World σ} {time : Instant} {pid : ProcessId}
  (deadline : Option Instant) (calls : List Inquiry)

/-- A look that fails ends the wait, and so does one that sees the process to have exited, whatever
the clock says. -/
lemma look_decided {answer : Except PrimitiveError Bool} {ending : Except PrimitiveError Waited}
    (hp : (pollExit c pid).result.Answers w answer w₁)
    (decides : answer.map (fun _ => Waited.exited) = ending) (still : answer ≠ .ok false) :
    ∃ calls₁, (look c.inquiring pid deadline).Answers (told calls w) (some ending)
        (told calls₁ w₁) ∧
      calls₁.countP Inquiry.isPoll = calls.countP Inquiry.isPoll + 1 := by
  obtain ⟨calls₁, polled, count⟩ := pollExit_told hp calls
  subst decides
  refine ⟨calls₁, polled.bind ?_, count⟩
  cases answer with
  | error e => exact Act.answers_pure _ _
  | ok exited =>
    cases exited with
    | true => exact Act.answers_pure _ _
    | false => exact absurd rfl still

/-- A look in vain ends the wait if the deadline has come, and otherwise there is a pause. -/
lemma look_in_vain (hp : (pollExit c pid).result.Answers w (.ok false) w₁)
    (hr : Reads c deadline.isSome w₁ time w₂)
    (hs : (asking (c.sleep pollInterval)).Answers w₂ () w₃) :
    ∃ calls₁, (look c.inquiring pid deadline).Answers (told calls w)
        (if due deadline time then some (.ok .timedOut) else none)
        (told calls₁ (if due deadline time then w₂ else w₃)) ∧
      calls₁.countP Inquiry.isPoll = calls.countP Inquiry.isPoll + 1 := by
  obtain ⟨calls₁, polled, count⟩ := pollExit_told hp calls
  refine ⟨calls₁, polled.bind ((reached_told hr).bind ?_), count⟩
  cases due deadline time with
  | true => exact Act.answers_pure _ _
  | false => exact (asking_told hs).bind (Act.answers_pure _ _)

/-- How a wait ends, and after how many looks.  All looks before the last one were in vain, and the
deadline had not come. -/
inductive Concludes (polls : ℕ → Except PrimitiveError Bool) (late : ℕ → Bool) :
    Except PrimitiveError Waited → ℕ → Prop
  | exited {k : ℕ} (now : polls k = .ok true)
      (before : ∀ i < k, polls i = .ok false ∧ late i = false) :
      Concludes polls late (.ok .exited) (k + 1)
  | failed {k : ℕ} {e : PrimitiveError} (now : polls k = .error e)
      (before : ∀ i < k, polls i = .ok false ∧ late i = false) :
      Concludes polls late (.error e) (k + 1)
  | timedOut {k : ℕ} (now : polls k = .ok false) (late_now : late k = true)
      (before : ∀ i < k, polls i = .ok false ∧ late i = false) :
      Concludes polls late (.ok .timedOut) (k + 1)

/-- From a look on, if all looks before it were in vain: by induction on the looks that are left,
with `look_decided` and `look_in_vain` for the next one. -/
lemma first_concludes {worlds : ℕ → World σ} {polls : ℕ → Except PrimitiveError Bool}
    {readings : ℕ → Instant}
    (round : ∀ i, ∃ w₁ w₂, (pollExit c pid).result.Answers (worlds i) (polls i) w₁ ∧
      Reads c deadline.isSome w₁ (readings i) w₂ ∧
      (asking (c.sleep pollInterval)).Answers w₂ () (worlds (i + 1)))
    (left : ℕ) {done : ℕ} (k : ℕ) (asked : calls.countP Inquiry.isPoll = done)
    (before : ∀ i < done, polls i = .ok false ∧ due deadline (readings i) = false) :
    ∃ ending calls₁ w₁, (Act.first (fun _ => look c.inquiring pid deadline) left k).Answers
        (told calls (worlds done)) ending (told calls₁ w₁) ∧
      match ending with
      | some answer => Concludes polls (fun i => due deadline (readings i)) answer
          (calls₁.countP Inquiry.isPoll)
      | none => ∀ i < done + left, polls i = .ok false ∧ due deadline (readings i) = false := by
  induction left generalizing done calls k with
  | zero => exact ⟨none, calls, worlds done, Act.answers_pure _ _, before⟩
  | succ left ih =>
    obtain ⟨w₁, w₂, hp, hr, hs⟩ := round done
    rw [Act.first_succ]
    cases now : polls done with
    | error e =>
      rw [now] at hp
      obtain ⟨calls₁, looked, count⟩ := look_decided deadline calls hp rfl nofun
      refine ⟨some (.error e), calls₁, w₁, looked.bind (Act.answers_pure _ _), ?_⟩
      rw [count, asked]
      exact .failed now before
    | ok exited =>
      cases exited with
      | true =>
        rw [now] at hp
        obtain ⟨calls₁, looked, count⟩ := look_decided deadline calls hp rfl nofun
        refine ⟨some (.ok .exited), calls₁, w₁, looked.bind (Act.answers_pure _ _), ?_⟩
        rw [count, asked]
        exact .exited now before
      | false =>
        rw [now] at hp
        obtain ⟨calls₁, looked, count⟩ := look_in_vain deadline calls hp hr hs
        cases late : due deadline (readings done) with
        | true =>
          rw [late] at looked
          refine ⟨some (.ok .timedOut), calls₁, w₂, looked.bind (Act.answers_pure _ _), ?_⟩
          rw [count, asked]
          exact .timedOut now late before
        | false =>
          rw [late] at looked
          have before' : ∀ i < done + 1, polls i = .ok false ∧
              due deadline (readings i) = false := by
            intro i hi
            rcases Nat.lt_succ_iff_lt_or_eq.1 hi with hi | rfl
            · exact before i hi
            · exact ⟨now, late⟩
          obtain ⟨ending, calls₂, w₄, rest, ends⟩ :=
            ih calls₁ (k + 1) (by rw [count, asked]) before'
          rw [Nat.add_right_comm, Nat.add_assoc] at ends
          exact ⟨ending, calls₂, w₄, looked.bind rest, ends⟩

end Looks

/-! ## The wait -/

section Wait

variable {c : ProcessCalls κ σ} {handle : Handle} {limit : Option Duration} {w : World σ}
  {start : Instant} {polls : ℕ → Except PrimitiveError Bool} {readings : ℕ → Instant}

lemma endsBy_isSome (start : Instant) (limit : Option Duration) :
    (endsBy start limit).isSome = limit.isSome := Option.isSome_map

/-- A wait comes back at its last look, or every one of the looks it may take was in vain and it is
out of fuel. -/
lemma waitForExit_concludes (streams : Streams c handle.pid limit w start polls readings)
    (fits : ∀ t ∈ limit, ¬start.Overflows t) (hung : κ) (looks : ℕ) :
    let wait := ((desktop c.inquiring hung looks).waitForExit handle limit).run
    (∃ answer calls w₁, wait.Answers (told [] w) answer (told calls w₁) ∧
      Concludes polls (fun i => due (endsBy start limit) (readings i)) answer
        (calls.countP Inquiry.isPoll)) ∨
    (wait (told [] w)).outcome = .stopped hung ∧
      ∀ i < looks, polls i = .ok false ∧ due (endsBy start limit) (readings i) = false := by
  obtain ⟨worlds, begun, round⟩ := streams
  rw [← endsBy_isSome start limit] at round
  obtain ⟨ending, calls, w₁, first, ends⟩ := first_concludes _ [] round looks 0
    List.countP_nil fun i hi => absurd hi (Nat.not_lt_zero i)
  intro wait
  have ran : wait = ProcessTable.deadline c.inquiring limit >>= fun d =>
      (awaitExit c.inquiring hung handle.pid d looks).run := ExceptT.run_bind_lift _ _
  rw [ran]
  have begins := deadline_told [] begun fits
  cases ending with
  | some answer =>
    refine .inl ⟨answer, calls, w₁, begins.bind (first.bind ?_), ends⟩
    exact Act.answers_pure _ _
  | none =>
    rw [Nat.zero_add] at ends
    refine .inr ⟨?_, ends⟩
    rw [(begins.run_bind _).1]
    exact (first.run_bind _).1

end Wait

/-! ## The last look -/

section Last

variable {limit : Option Duration} {start : Instant}
  {polls : ℕ → Except PrimitiveError Bool} {readings : ℕ → Instant}

/-- How a wait ends that has looked `n` times, in terms of the streams alone. -/
structure Decided (limit : Option Duration) (start : Instant)
    (polls : ℕ → Except PrimitiveError Bool) (readings : ℕ → Instant)
    (answer : Except PrimitiveError Waited) (n : ℕ) : Prop where
  looked : 0 < n
  /-- There is room for so many pauses in the limit. -/
  bounded : ∀ t ∈ limit, n ≤ t.toNanos ⌈/⌉ pollInterval.toNanos + 1
  before : ∀ i, i + 1 < n → polls i = .ok false
  exited_iff : answer = .ok .exited ↔ polls (n - 1) = .ok true
  error_iff : ∀ e, answer = .error e ↔ polls (n - 1) = .error e
  timedOut_iff : answer = .ok .timedOut ↔ polls (n - 1) = .ok false
  /-- The clock was read after the last look. -/
  elapsed : answer = .ok .timedOut →
    ∃ t, limit = some t ∧ start.toNanos + t.toNanos ≤ (readings (n - 1)).toNanos

/-- As long as the deadline has not come there was room for all pauses: each took `pollInterval` off
the limit. -/
lemma Advances.pauses_le {t : Duration} (clock : Advances start readings) {k : ℕ}
    (before : ∀ i < k, due (endsBy start (some t)) (readings i) = false) :
    k ≤ t.toNanos ⌈/⌉ pollInterval.toNanos := by
  have positive : 0 < pollInterval.toNanos := by decide
  cases k with
  | zero => exact Nat.zero_le _
  | succ j =>
    have elapsed := clock.elapsed j
    have early : ¬start.toNanos + t.toNanos ≤ (readings j).toNanos := by
      intro late
      have ended := due_endsBy.2 ⟨t, rfl, late⟩
      rw [before j (Nat.lt_succ_self j)] at ended
      cases ended
    by_contra many
    have covered : t.toNanos ⌈/⌉ pollInterval.toNanos ≤ j := by omega
    rw [ceilDiv_le_iff_le_smul positive, smul_eq_mul, Nat.mul_comm] at covered
    omega

lemma Concludes.decided {answer : Except PrimitiveError Waited} {n : ℕ}
    (clock : Advances start readings)
    (h : Concludes polls (fun i => due (endsBy start limit) (readings i)) answer n) :
    Decided limit start polls readings answer n := by
  have last : ∀ k, (∀ i < k, polls i = .ok false ∧ due (endsBy start limit) (readings i) = false) →
      (answer = .ok .exited ↔ polls k = .ok true) → (∀ e, answer = .error e ↔ polls k = .error e) →
      (answer = .ok .timedOut ↔ polls k = .ok false) →
      (answer = .ok .timedOut → due (endsBy start limit) (readings k) = true) →
      Decided limit start polls readings answer (k + 1) := by
    intro k before exited error timedOut late
    refine ⟨k.succ_pos, ?_, fun i hi => (before i (Nat.lt_of_succ_lt_succ hi)).1, exited, error,
      timedOut, fun out => due_endsBy.1 (late out)⟩
    rintro t rfl
    exact Nat.succ_le_succ (clock.pauses_le fun i hi => (before i hi).2)
  cases h with
  | exited now before =>
    exact last _ before (by simp [now]) (by simp [now]) (by simp [now]) nofun
  | failed now before =>
    exact last _ before (by simp [now]) (by simp [now]) (by simp [now]) nofun
  | timedOut now late before =>
    exact last _ before (by simp [now]) (by simp [now]) (by simp [now]) fun _ => late

/-- **How a wait for a process ends.**  Let the clock not go back, and a pause take its time.  A
wait looks at the process once at least, and with a limit once more at most than the limit has room
for pauses.  All looks before the last one saw the process running.  By the last look the process
has exited, or it failed and its error is that of the wait, or it saw the process running and the
limit had come when the clock was read after it.  Without a limit the wait ends in one of the first
two ways, or not at all. -/
theorem waitForExit_ends (c : ProcessCalls κ σ) (hung : κ) (looks : ℕ) (handle : Handle)
    {w : World σ} (streams : Streams c handle.pid limit w start polls readings)
    (clock : Advances start readings) (fits : ∀ t ∈ limit, ¬start.Overflows t)
    (enough : ∀ t ∈ limit, t.toNanos ⌈/⌉ pollInterval.toNanos < looks) :
    let wait := ((desktop c hung looks).waitForExit handle limit).run w
    let told := ((desktop c.inquiring hung looks).waitForExit handle limit).run (told [] w)
    told.outcome = wait.outcome ∧
      ((∃ answer, wait.outcome = .returned answer ∧
          Decided limit start polls readings answer
            (told.world.outside.calls.countP Inquiry.isPoll)) ∨
        limit = none ∧ wait.outcome = .stopped hung ∧ ∀ i < looks, polls i = .ok false) := by
  intro wait told
  have richer : Act.Over (World.map Recorded.world)
      ((desktop c.inquiring hung looks).waitForExit handle limit).run
      ((desktop c hung looks).waitForExit handle limit).run :=
    (waitForExit_tracks (inquiring_tracks c) hung looks handle limit).toOver
  have outcome : told.outcome = wait.outcome := richer.outcome_eq _
  refine ⟨outcome, ?_⟩
  rw [← outcome]
  obtain ⟨answer, calls, w₁, answers, concludes⟩ | ⟨stopped, before⟩ :=
    waitForExit_concludes streams fits hung looks
  · refine .inl ⟨answer, answers.1, ?_⟩
    have ended : told.world = ProcessTable.told calls w₁ := answers.2
    rw [ended]
    exact concludes.decided clock
  · refine .inr ⟨?_, stopped, fun i hi => (before i hi).1⟩
    cases limit with
    | none => rfl
    | some t =>
      have room := clock.pauses_le fun i hi => (before i hi).2
      exact absurd (enough t rfl) (Nat.not_lt.2 room)

end Last

/-! ## Any answers -/

section Scripted

/-- What a look makes of the answer of the system, if a process that is no child is gone. -/
def verdict : Except Errno ChildState → Except PrimitiveError Bool
  | .ok .running => .ok false
  | .ok _ => .ok true
  | .error .noChild => .ok true
  | .error e => .error ⟨"waitpid", .os e⟩

/-- A system that answers from scripts.  The world counts how often it was asked after a child, and
how often the clock was read. -/
def scripted (answers : ℕ → Except Errno ChildState) (clock : ℕ → Instant) :
    ProcessCalls κ (ℕ × ℕ) where
  own := ⟨1⟩
  list := pure []
  probe _ := Try.fail .noProcess
  terminate _ := Try.fail .noProcess
  poll _ := Try.step fun asked => (answers asked.1, (asked.1 + 1, asked.2))
  now := Act.step fun asked => (clock asked.2, (asked.1, asked.2 + 1))
  sleep _ := pure ()

variable (answers : ℕ → Except Errno ChildState) (clock : ℕ → Instant) (pid : ProcessId)

lemma scripted_pollExit (m : ExitCodes) (i j : ℕ) : ∃ m',
    (pollExit (scripted answers clock : ProcessCalls κ (ℕ × ℕ)) pid).result.Answers ⟨m, i, j⟩
      (verdict (answers i)) ⟨m', i + 1, j⟩ := by
  have polled : (Try.attempt (trying ((scripted answers clock).poll (rawPid pid))) :
      Try κ (World (ℕ × ℕ)) PrimitiveError _).run.Answers ⟨m, i, j⟩ (.ok (answers i))
      ⟨m, i + 1, j⟩ := ⟨rfl, rfl⟩
  cases h : answers i with
  | ok state =>
    rw [h] at polled
    cases state with
    | running => exact ⟨_, polled.bind (Act.answers_pure _ _)⟩
    | exited code => exact ⟨_, polled.bind ⟨rfl, rfl⟩⟩
    | killed signal => exact ⟨_, polled.bind ⟨rfl, rfl⟩⟩
  | error e =>
    rw [h] at polled
    cases e with
    | noChild => exact ⟨_, polled.bind ⟨rfl, rfl⟩⟩
    | _ => exact ⟨_, polled.bind (Act.answers_pure _ _)⟩

/-- Any two streams can be answered: the `scripted` system has them as its `Streams`. -/
lemma scripted_streams (limit : Option Duration) (m : ExitCodes) :
    Streams (scripted answers clock : ProcessCalls κ (ℕ × ℕ)) pid limit ⟨m, 0, 0⟩ (clock 0)
      (fun i => verdict (answers i)) fun i => clock (i + 1) := by
  -- Without a limit the clock is not read.
  let read (i : ℕ) : ℕ := if limit.isSome then i + 1 else 0
  have poll := fun m i => scripted_pollExit (κ := κ) answers clock pid m i (read i)
  choose next polled using poll
  let codes (i : ℕ) : ExitCodes := Nat.rec m (fun i m => next m i) i
  refine ⟨fun i => ⟨codes i, i, read i⟩, ?_, fun i => ?_⟩
  · unfold Reads
    dsimp only [read]
    split
    · exact ⟨rfl, rfl⟩
    · rfl
  · refine ⟨_, ⟨codes (i + 1), i + 1, read (i + 1)⟩, polled (codes i) i, ?_, ⟨rfl, rfl⟩⟩
    unfold Reads
    dsimp only [read]
    split
    · exact ⟨rfl, rfl⟩
    · rfl

/-- A process that exits during the second pause, with status 3. -/
def secondPause (i : ℕ) : Except Errno ChildState := if i < 2 then .ok .running else .ok (.exited 3)

/-- A clock on which nothing but the pauses takes time.  It is read once before the first look. -/
def pausesOnly (i : ℕ) : Instant := Duration.ofNanos ((i - 1) * pollInterval.toNanos)

lemma pausesOnly_advances : Advances (pausesOnly 0) fun i => pausesOnly (i + 1) := by
  have readings : ∀ i, (pausesOnly (i + 1)).toNanos = i * pollInterval.toNanos :=
    fun i => Duration.toNanos_ofNanos _
  constructor
  · decide
  · intro i
    rw [readings, readings, Nat.succ_mul]

/-- The limit of the wait, which comes during the same pause as the exit. -/
def aWhile : Duration := ⟨0, 75000000⟩

lemma room_of_aWhile : aWhile.toNanos ⌈/⌉ pollInterval.toNanos = 2 := by
  rw [Nat.ceilDiv_eq_add_pred_div]
  decide

/-- The process is looked at once more after the limit has come, and the wait ends with its exit. -/
theorem secondPause_ends :
    (((desktop (scripted secondPause pausesOnly) () 3).waitForExit ⟨7, ⟨7⟩⟩ (some aWhile)).run
      ⟨.empty, 0, 0⟩).outcome = .returned (.ok .exited) ∧
    (((desktop (scripted secondPause pausesOnly).inquiring () 3).waitForExit ⟨7, ⟨7⟩⟩
      (some aWhile)).run (told [] ⟨.empty, 0, 0⟩)).world.outside.calls.countP Inquiry.isPoll =
        3 := by
  have streams := scripted_streams (κ := Unit) secondPause pausesOnly ⟨7⟩ (some aWhile) .empty
  have fits : ∀ t ∈ some aWhile, ¬(pausesOnly 0).Overflows t := by
    rintro t ⟨⟩
    unfold Instant.Overflows
    decide
  have enough : ∀ t ∈ some aWhile, t.toNanos ⌈/⌉ pollInterval.toNanos < 3 := by
    rintro t ⟨⟩
    rw [room_of_aWhile]
    decide
  obtain ⟨-, ends⟩ := waitForExit_ends (scripted secondPause pausesOnly) () 3 ⟨7, ⟨7⟩⟩ streams
    pausesOnly_advances fits enough
  have looks : (((desktop (scripted secondPause pausesOnly).inquiring () 3).waitForExit ⟨7, ⟨7⟩⟩
      (some aWhile)).run (told [] ⟨.empty, 0, 0⟩)).world.outside.calls.countP Inquiry.isPoll =
        3 := rfl
  rw [looks] at ends
  obtain ⟨answer, outcome, decided⟩ | ⟨none, -⟩ := ends
  · rw [decided.exited_iff.2 rfl] at outcome
    exact ⟨outcome, looks⟩
  · cases none

end Scripted

end ProcessTable

end StartupBench
