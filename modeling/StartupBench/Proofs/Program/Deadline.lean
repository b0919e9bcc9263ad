import StartupBench.Proofs.Bench.Panics
import StartupBench.System

/-!
# Waits that are too long for the clock

Every number of seconds that makes a duration is accepted as the time to settle and as the limit of
a shutdown.  A duration counts its seconds in a word of 64 bits, the clock in a signed one, so that
the upper half of the durations reaches beyond the clock.  A wait begins with adding its duration to
a reading of the clock, and there, and nowhere else, it panics (`System.deadlines_of_config`).

## Durations

`Duration.Rounds` says which doubles make a duration, and which one, without going through the bits
of the double as `Duration.ofFloat` does.  `Options.config_durations` is what a configuration has of
its options, so that what the waits do can be said of the seconds that a user gave.

## Where a wait panics

`Act.PanicsIn` says of which messages an act panics, if it does.  On a system whose calls do not
panic (`System.Calm`), everything but a sum with the clock is calm, and so the panics of a wait are
those of `Instant.Overflows` (`Alarm.waitFor_panicked`, `ProcessTable.waitForExit_panicked`).  A
tear-down is made of such waits and of calm calls, in whichever order its steps are taken.
-/

namespace StartupBench

variable {κ σ : Type}

lemma ite_error_eq_ok {ε α : Type} {p : Prop} [Decidable p] {e : ε} {x : Except ε α} {a : α} :
    (if p then .error e else x) = .ok a ↔ ¬p ∧ x = .ok a := by
  split <;> simp_all

lemma except_bind_eq_ok {ε α β : Type} {x : Except ε α} {f : α → Except ε β} {b : β} :
    x >>= f = .ok b ↔ ∃ a, x = .ok a ∧ f a = .ok b := by
  cases x <;> simp [bind, Except.bind]

/-! ## Durations and instants -/

namespace Binary64

lemma le_divHalfEven (num den : Nat) : num / den ≤ divHalfEven num den := by
  unfold divHalfEven
  dsimp only
  split
  · exact Nat.le_refl _
  · split <;> omega

lemma divHalfEven_zero {den : Nat} (h : 0 < den) : divHalfEven 0 den = 0 := by
  simp [divHalfEven, h]

lemma ratio_pos (m : Nat) (q : Int) : 0 < (ratio m q).2 := by
  unfold ratio
  split
  · exact Nat.pow_pos (by decide)
  · exact Nat.one_pos

lemma ratio_zero (q : Int) : (ratio 0 q).1 = 0 := by
  unfold ratio
  split
  · rfl
  · exact Nat.zero_mul _

end Binary64

namespace Duration

/-- The duration is a double of so many seconds, to the nearest nanosecond: the double is finite and
not below zero, and the seconds are fewer than `2 ^ 64`. -/
def Rounds (x : Float) (d : Duration) : Prop :=
  ∃ negative m q, Binary64.ofFloat x = .finite negative m q ∧ (m = 0 ∨ negative = false) ∧
    d = ofNanos (Binary64.divHalfEven ((Binary64.ratio m q).1 * perSecond)
      (Binary64.ratio m q).2) ∧
    d.seconds < Nat.pow 2 64

lemma perSecond_pos : 0 < perSecond := by decide

lemma rounded_seconds {num den : Nat} (h : 0 < den) (big : Nat.pow 2 64 ≤ num / den) :
    Nat.pow 2 64 ≤ (ofNanos (Binary64.divHalfEven (num * perSecond) den)).seconds := by
  refine (Nat.le_div_iff_mul_le perSecond_pos).2 ?_
  refine Nat.le_trans ?_ (Binary64.le_divHalfEven _ _)
  refine (Nat.le_div_iff_mul_le h).2 ?_
  calc Nat.pow 2 64 * perSecond * den = Nat.pow 2 64 * den * perSecond := Nat.mul_right_comm _ _ _
    _ ≤ num * perSecond := Nat.mul_le_mul_right _ ((Nat.le_div_iff_mul_le h).1 big)

/-- The doubles that make a duration: `ofFloat` accepts what `Rounds` to one, and rounds as it does.
-/
lemma ofFloat_eq_ok {x : Float} {d : Duration} : ofFloat x = .ok d ↔ Rounds x d := by
  unfold ofFloat Rounds
  cases Binary64.ofFloat x with
  | nan => simp
  | infinite negative => simp
  | finite negative m q =>
    have den := Binary64.ratio_pos m q
    simp only [Binary64.finite.injEq]
    by_cases zero : m = 0
    · subst zero
      have rounded : ofNanos (Binary64.divHalfEven ((Binary64.ratio 0 q).1 * perSecond)
          (Binary64.ratio 0 q).2) = .zero := by
        rw [Binary64.ratio_zero, Nat.zero_mul, Binary64.divHalfEven_zero den]
        rfl
      constructor
      · rintro ⟨⟩
        exact ⟨_, _, _, ⟨rfl, rfl, rfl⟩, .inl rfl, rounded.symm, by decide⟩
      · rintro ⟨_, _, _, ⟨rfl, rfl, rfl⟩, -, rfl, -⟩
        rw [if_pos rfl, rounded]
    · rw [if_neg zero]
      constructor
      · intro read
        obtain ⟨positive, read⟩ := ite_error_eq_ok.1 read
        obtain ⟨-, read⟩ := ite_error_eq_ok.1 read
        obtain ⟨short, ⟨⟩⟩ := ite_error_eq_ok.1 read
        exact ⟨_, _, _, ⟨rfl, rfl, rfl⟩, .inr (Bool.eq_false_iff.2 positive), rfl,
          Nat.lt_of_not_le short⟩
      · rintro ⟨_, _, _, ⟨rfl, rfl, rfl⟩, sign, rfl, short⟩
        have positive := Bool.eq_false_iff.1 (sign.resolve_left zero)
        have whole : ¬Nat.pow 2 64 ≤ (Binary64.ratio m q).1 / (Binary64.ratio m q).2 :=
          fun big => Nat.not_le_of_lt short (rounded_seconds den big)
        refine ite_error_eq_ok.2 ⟨positive, ite_error_eq_ok.2 ⟨whole, ?_⟩⟩
        exact ite_error_eq_ok.2 ⟨Nat.not_le_of_lt short, rfl⟩

end Duration

namespace Instant

/-- The clock does not reach the instant that comes `d` after `now`, which is then beyond the
`limit` of its seconds. -/
def Overflows (now : Instant) (d : Duration) : Prop :=
  limit * Duration.perSecond ≤ now.toNanos + d.toNanos

/-- What a program says that asks for more than the clock can say, where it panics in
`Instant.after`. -/
def overflowMessage : String := "overflow when adding duration to instant"

lemma after?_eq_none {now : Instant} {d : Duration} :
    now.after? d = none ↔ now.Overflows d := by
  unfold after? Overflows Duration.ofNanos
  simp [Nat.div_lt_iff_lt_mul Duration.perSecond_pos]

lemma after_panicked {now : Instant} {d : Duration} (w : σ) {m : String} :
    ((now.after d : Act κ σ Instant) w).outcome = .panicked m ↔
      m = overflowMessage ∧ now.Overflows d := by
  unfold after
  rw [← after?_eq_none]
  cases now.after? d with
  | none => simp [Act.expected, Act.panic, overflowMessage, eq_comm]
  | some later => simp [Act.expected, Act.pure_run]

/-- To add a duration to a reading of the clock panics exactly if the sum `Overflows`, whatever is
done with it. -/
lemma reading_panicked {α : Type} {clock : Act κ σ Instant} (calm : clock.Calm) {time : Duration}
    {f : Instant → Act κ σ α} (hf : ∀ i, (f i).Calm) {w : σ} {m : String} :
    ((clock >>= fun i => i.after time >>= f) w).outcome = .panicked m ↔
      m = overflowMessage ∧ ∃ i, (clock w).outcome = .returned i ∧ i.Overflows time := by
  rw [calm.panicked_bind]
  simp only [Act.panicked_bind_of_calm hf, after_panicked]
  constructor
  · rintro ⟨i, reading, message, late⟩
    exact ⟨message, i, reading, late⟩
  · rintro ⟨message, i, reading, late⟩
    exact ⟨i, reading, message, late⟩

end Instant

/-! ## Waits -/

/-- A wait for the flag panics exactly if the flag is not raised and the clock does not reach the
end of the wait.  A flag that is raised ends the wait before the clock is read. -/
lemma Alarm.waitFor_panicked {alarm : Alarm κ σ} (raised : alarm.raised.Calm)
    (now : alarm.now.Calm) (waitUntil : ∀ i, (alarm.waitUntil i).Calm) {time : Duration} {w : σ}
    {m : String} :
    ((alarm.waitFor time) w).outcome = .panicked m ↔
      m = Instant.overflowMessage ∧ (alarm.raised w).outcome = .returned false ∧
        ∃ i, (alarm.now (alarm.raised w).world).outcome = .returned i ∧ i.Overflows time := by
  unfold waitFor
  rw [raised.panicked_bind]
  constructor
  · rintro ⟨flag, read, panicked⟩
    cases flag with
    | true =>
      rw [if_pos rfl, Act.pure_run] at panicked
      cases panicked
    | false =>
      rw [if_neg Bool.false_ne_true] at panicked
      obtain ⟨message, i, reading, late⟩ := (Instant.reading_panicked now waitUntil).1 panicked
      exact ⟨message, read, i, reading, late⟩
  · rintro ⟨message, read, i, reading, late⟩
    refine ⟨false, read, ?_⟩
    rw [if_neg Bool.false_ne_true]
    exact (Instant.reading_panicked now waitUntil).2 ⟨message, i, reading, late⟩

namespace ProcessTable

variable {P : String → Prop}

/-- The system calls of a process table never panic, as `Try.Calm` has it of each. -/
structure Calm (c : ProcessCalls κ σ) : Prop where
  list : Try.Calm c.list
  probe : ∀ n, Try.Calm (c.probe n)
  terminate : ∀ n, Try.Calm (c.terminate n)
  poll : ∀ n, Try.Calm (c.poll n)
  now : c.now.Calm
  sleep : ∀ time, (c.sleep time).Calm

section Desktops

variable {c : ProcessCalls κ σ} (h : Calm c)
include h

lemma entries_calm : (entries c).Calm := by
  unfold entries
  refine h.list.result.within.bind fun out => ?_
  cases out with
  | ok table => exact .pure _
  | error e => exact (Act.PanicsIn.log _ _ _ _).bind fun _ => .pure _

lemma pollExit_calm (pid : ProcessId) : Try.Calm (pollExit c pid) := by
  have noted (f : ExitCodes → ExitCodes) : Try.Calm (do
      Try.lift (note f)
      pure true : Try κ (World σ) PrimitiveError Bool) :=
    (Try.PanicsIn.lift (.update _)).bind fun _ => .pure true
  unfold pollExit trying
  refine (Try.PanicsIn.attempt (h.poll _).within).bind fun out => ?_
  cases out with
  | ok state =>
    cases state with
    | running => exact .pure false
    | exited code => exact noted _
    | killed signal => exact noted _
  | error e =>
    cases e with
    | noChild =>
      refine (Try.PanicsIn.attempt (h.probe _).within).bind fun out => ?_
      cases out with
      | ok _ => exact .pure false
      | error _ => exact noted _
    | _ => exact .fail _

lemma look_calm (pid : ProcessId) (deadline : Option Instant) : (look c pid deadline).Calm := by
  have reached_calm : (reached c deadline).Calm := by
    unfold reached
    cases deadline with
    | none => exact .pure false
    | some d => exact h.now.within.bind fun now => .pure _
  unfold look
  refine (pollExit_calm h pid).result.bind fun out => ?_
  cases out with
  | error e => exact .pure _
  | ok exited =>
    cases exited with
    | true => exact .pure _
    | false =>
      refine reached_calm.bind fun late => .ite (.pure _) ?_
      exact (h.sleep _).within.bind fun _ => .pure none

lemma awaitExit_calm (hung : κ) (pid : ProcessId) (deadline : Option Instant) (looks : Nat) :
    Try.Calm (awaitExit c hung pid deadline looks) := by
  refine Act.PanicsIn.bind (.first (fun _ => look_calm h pid deadline) looks 0) fun ending => ?_
  cases ending with
  | some ending => exact .pure ending
  | none => exact .stop hung

/-- A wait for a process panics exactly if it has a limit and the clock does not reach it.  The
limit is added before the first look, so that it panics even if the process has exited. -/
lemma waitForExit_panicked {hung : κ} {looks : Nat} {handle : Handle} {limit : Option Duration}
    {w : World σ} {m : String} :
    (((desktop c hung looks).waitForExit handle limit).run w).outcome = .panicked m ↔
      m = Instant.overflowMessage ∧ ∃ d i, limit = some d ∧
        (c.now w.outside).outcome = .returned i ∧ i.Overflows d := by
  have waits : ((desktop c hung looks).waitForExit handle limit).run =
      deadline c limit >>= fun d => (awaitExit c hung handle.pid d looks).run :=
    ExceptT.run_bind_lift _ _
  rw [waits, Act.panicked_bind_of_calm fun d => awaitExit_calm h hung handle.pid d looks]
  cases limit with
  | none => simp [deadline, Act.pure_run]
  | some d =>
    have read : (asking c.now).Calm := h.now.within
    refine (Instant.reading_panicked read fun _ => .pure _).trans ?_
    constructor
    · rintro ⟨message, i, reading, late⟩
      exact ⟨message, d, i, rfl, reading, late⟩
    · rintro ⟨message, _, i, ⟨⟩, reading, late⟩
      exact ⟨message, i, reading, late⟩

/-- A desktop of the process table panics only in waits with a `limit` that the clock does not
reach. -/
lemma desktop_panicsIn (hung : κ) (looks : Nat) {limit : Option Duration}
    (hP : ∀ (d : Duration) (s : σ) (i : Instant), limit = some d →
      (c.now s).outcome = .returned i → i.Overflows d → P Instant.overflowMessage) :
    (desktop c hung looks).PanicsIn P limit where
  findWindow p := Act.Calm.panicsIn ((entries_calm h).bind fun _ => .pure _)
  windowOwner w := .ofExcept _
  threadWindows t := by
    refine Act.Calm.panicsIn ((h.probe _).result.within.bind fun out => ?_)
    cases out with
    | ok _ => exact .pure _
    | error _ => exact .pure _
  className w := by
    unfold desktop
    dsimp only
    cases processOf? w with
    | none => exact .pure _
    | some pid => exact Act.Calm.panicsIn ((entries_calm h).bind fun _ => .pure _)
  openProcess pid :=
    .bind (.mapError (Try.Calm.panicsIn (h.probe _)).within) fun _ => .pure _
  postQuit w message := by
    refine .bind (.ofExcept _) fun owner => .bind (.log _ _ _ _) fun _ => ?_
    exact .mapError (Try.Calm.panicsIn (h.terminate _)).within
  waitForExit handle w m panicked := by
    obtain ⟨rfl, d, i, hd, reading, late⟩ := (waitForExit_panicked h).1 panicked
    exact hP d _ i hd reading late
  exitCode handle := .bind (.lift (.of_returned fun w => ⟨w, rfl⟩)) fun _ => .pure _
  closeProcess handle := .update _

end Desktops

end ProcessTable

/-! ## Configurations -/

lemma Options.seconds_eq_ok {flag : String} {x : Float} {d : Duration} :
    seconds flag x = .ok d ↔ d.Rounds x := by
  rw [← Duration.ofFloat_eq_ok]
  unfold seconds
  cases Duration.ofFloat x <;> simp

/-- What a configuration has of the options that it is made of, if they are accepted. -/
structure Options.Accepted (o : Options) (c : Config) : Prop where
  exe : c.exe = o.exe
  coldStart : c.coldStart = o.coldStart
  snapshotDrive : c.snapshotDrive = o.snapshotDrive
  /-- An executable that does not lie on a drive is refused for cold starts. -/
  hasDrive : o.coldStart = true → Options.hasDrive o.exe = true
  settle : Duration.Rounds o.settleSeconds c.settle
  quitLimit : ∀ d, c.quitLimit = some d ↔
    ∃ x, o.quitLimitSeconds = some x ∧ Duration.Rounds x d

lemma Options.config_accepted {o : Options} {s : Surroundings} {isFile : Bool} {c : Config}
    (accepted : o.config s isFile = .ok c) : o.Accepted c := by
  unfold config at accepted
  obtain rfl : isFile = true := by
    cases isFile with
    | true => rfl
    | false => cases accepted
  have drive : ¬(o.coldStart && !hasDrive o.exe) = true := by
    intro missing
    rw [if_pos missing] at accepted
    cases accepted
  have onDrive : o.coldStart = true → hasDrive o.exe = true := by
    intro wanted
    simpa [wanted] using drive
  simp only [Bool.not_true, Bool.false_eq_true, if_false, if_neg drive] at accepted
  obtain ⟨settle, hsettle, accepted⟩ := except_bind_eq_ok.1 accepted
  cases hlimit : o.quitLimitSeconds with
  | none =>
    rw [hlimit] at accepted
    obtain ⟨_, ⟨⟩, accepted⟩ := except_bind_eq_ok.1 accepted
    obtain ⟨tools, -, ⟨⟩⟩ := except_bind_eq_ok.1 accepted
    exact ⟨rfl, rfl, rfl, onDrive, seconds_eq_ok.1 hsettle, by simp [hlimit]⟩
  | some x =>
    rw [hlimit] at accepted
    obtain ⟨limit, read, accepted⟩ := except_bind_eq_ok.1 accepted
    obtain ⟨tools, -, ⟨⟩⟩ := except_bind_eq_ok.1 accepted
    have rounds (d : Duration) :
        seconds "--shutdown-timeout-secs" x = .ok d ↔ Duration.Rounds x d := seconds_eq_ok
    refine ⟨rfl, rfl, rfl, onDrive, seconds_eq_ok.1 hsettle, fun d => ?_⟩
    simp only [hlimit, Option.some.injEq, exists_eq_left', ← rounds]
    cases hread : seconds "--shutdown-timeout-secs" x with
    | error e =>
      rw [hread] at read
      cases read
    | ok d' =>
      rw [hread] at read
      cases read
      simp

/-- The durations of a configuration are the seconds of its options, as `Duration.Rounds` relates
them. -/
lemma Options.config_durations {o : Options} {s : Surroundings} {isFile : Bool} {c : Config}
    (accepted : o.config s isFile = .ok c) :
    Duration.Rounds o.settleSeconds c.settle ∧
      ∀ d, c.quitLimit = some d ↔ ∃ x, o.quitLimitSeconds = some x ∧ Duration.Rounds x d :=
  ⟨(config_accepted accepted).settle, (config_accepted accepted).quitLimit⟩

lemma Settings.ofConfig_durations {c : Config} {t : Settings}
    (settings : Settings.ofConfig c = .ok t) :
    t.settle = c.settle ∧ t.quitLimit = c.quitLimit := by
  unfold ofConfig at settings
  by_cases cold : c.coldStart = true
  · rw [if_pos cold] at settings
    obtain ⟨coldStart, -, ⟨⟩⟩ := except_bind_eq_ok.1 settings
    exact ⟨rfl, rfl⟩
  · rw [if_neg cold] at settings
    cases settings
    exact ⟨rfl, rfl⟩

/-! ## Waits of a configured benchmark -/

namespace System

/-- What the system is asked in a wait and in a tear-down never panics, as `Try.Calm` has it of
each. -/
structure Calm (sys : System κ σ) : Prop where
  run : ∀ c, Try.Calm (sys.programs.run c)
  removeDirectory : ∀ p, Try.Calm (sys.files.removeDirectory p)
  processes : ProcessTable.Calm sys.processes
  raised : sys.alarm.raised.Calm
  now : sys.alarm.now.Calm
  waitUntil : ∀ i, (sys.alarm.waitUntil i).Calm

/-- The message is that of a wait for a process with a `limit` that the clock does not reach, at
whatever reading of it. -/
def Overrun (sys : System κ σ) (limit : Option Duration) (m : String) : Prop :=
  m = Instant.overflowMessage ∧ ∃ d s i, limit = some d ∧
    (sys.processes.now s).outcome = .returned i ∧ i.Overflows d

/-- The durations of a configured benchmark, and when its waits panic.  The benchmark is that of the
system with the settings of the configuration. -/
structure Deadlines (sys : System κ σ) (o : Options) (c : Config) (t : Settings) : Prop where
  /-- The time to settle is that of the options. -/
  settle_rounds : Duration.Rounds o.settleSeconds t.settle
  /-- There is a limit for a shutdown if the options have one, and it is that one. -/
  limit_rounds : ∀ d, t.quitLimit = some d ↔
    ∃ x, o.quitLimitSeconds = some x ∧ Duration.Rounds x d
  /-- The wait to settle panics exactly if the flag is not raised and the clock does not reach the
  end of the wait. -/
  settle : ∀ w m, ((sys.bench c t).settle t.settle w).outcome = .panicked m ↔
    m = Instant.overflowMessage ∧ (sys.alarm.raised w.outside).outcome = .returned false ∧
      ∃ i, (sys.alarm.now (sys.alarm.raised w.outside).world).outcome = .returned i ∧
        i.Overflows t.settle
  /-- The wait for a process that was asked to quit panics exactly if it has a limit that the clock
  does not reach. -/
  waitForExit : ∀ handle w m,
    (((sys.bench c t).browser.desktop.waitForExit handle t.quitLimit).run w).outcome =
        .panicked m ↔
      m = Instant.overflowMessage ∧ ∃ d i, t.quitLimit = some d ∧
        (sys.processes.now w.outside).outcome = .returned i ∧ i.Overflows d
  /-- There is no other reason for a shutdown to panic. -/
  quit : Try.PanicsIn (sys.Overrun t.quitLimit) (sys.bench c t).quit
  /-- There is no other reason for a tear-down to panic. -/
  tearDown : (sys.bench c t).tearDown.PanicsIn (sys.Overrun t.quitLimit)

lemma browser_desktop (sys : System κ σ) (exe : Path) :
    (sys.browser exe).desktop = sys.desktop := by
  unfold browser Browser.ofExecutable
  cases Family.ofExecutable exe <;> rfl

lemma store_calm (sys : System κ σ) (exe : Path) (v : PreloadState) :
    Try.Calm ((sys.browser exe).preload.store v) := by
  unfold browser Browser.ofExecutable
  cases Family.ofExecutable exe <;> exact .ite (.fail _) (.pure ())

section Bench

variable {sys : System κ σ} (calm : sys.Calm)
include calm

lemma stopTrace_calm (c : Config) : Try.Calm (sys.tracer c).stop := by
  unfold tracer
  cases c.traceControl with
  | none => exact .pure ()
  | some control =>
    refine .bind (.log _ _ _ _) fun _ => .bind (.attempt (calm.run _).within) fun out => ?_
    cases out with
    | error e => exact .fail _
    | ok status => exact .ite (.pure ()) (.fail _)

lemma bench_panicsIn (c : Config) (t : Settings) :
    (sys.bench c t).PanicsIn (sys.Overrun t.quitLimit) where
  desktop := by
    show Desktop.PanicsIn _ t.quitLimit (sys.browser c.exe).desktop
    rw [browser_desktop]
    exact ProcessTable.desktop_panicsIn calm.processes _ _ fun d s i limit reading late =>
      ⟨rfl, d, s, i, limit, reading, late⟩
  store v := Try.Calm.panicsIn (store_calm sys c.exe v)
  stop := Try.Calm.panicsIn (stopTrace_calm calm c)
  removeDirectory p := Try.Calm.panicsIn (calm.removeDirectory p).within

end Bench

/-- **Waits that are too long for the clock.**  On a system whose calls do not panic, an accepted
configuration panics in its waits exactly if the clock does not reach their end, and neither a
shutdown nor a tear-down panics for another reason. -/
theorem deadlines_of_config {sys : System κ σ} (calm : sys.Calm) {o : Options}
    {s : Options.Surroundings} {isFile : Bool} {c : Config} {t : Settings}
    (accepted : o.config s isFile = .ok c) (settings : Settings.ofConfig c = .ok t) :
    sys.Deadlines o c t := by
  obtain ⟨settle_eq, limit_eq⟩ := Settings.ofConfig_durations settings
  obtain ⟨settle_rounds, limit_rounds⟩ := Options.config_durations accepted
  have panics := bench_panicsIn calm c t
  refine ⟨settle_eq ▸ settle_rounds, limit_eq ▸ limit_rounds, fun w m => ?_, fun handle w m => ?_,
    panics.quit, panics.tearDown⟩
  · exact Alarm.waitFor_panicked calm.raised calm.now calm.waitUntil
  · show (((sys.browser c.exe).desktop.waitForExit handle t.quitLimit).run w).outcome = _ ↔ _
    rw [browser_desktop]
    exact ProcessTable.waitForExit_panicked calm.processes

/-! ## A clock that stands still -/

/-- A system on which one application runs, while the clock stands at zero.  Every call of it is
`Calm`. -/
def still : System Unit Unit where
  programs :=
    { start := fun _ => pure ⟨2⟩
      run := fun _ => pure (.exited 0)
      collect := fun _ => pure ⟨.exited 0, [], []⟩ }
  files :=
    { isFile := fun _ => pure true
      isDirectory := fun _ => pure true
      removeDirectory := fun _ => pure ()
      list := fun _ => pure []
      removeFile := fun _ => pure ()
      makeTemporary := fun stem => pure ⟨stem⟩
      write := fun _ _ => pure () }
  processes :=
    { own := ⟨1⟩
      list := pure (Utf8.encode "2 S App\n")
      probe := fun _ => pure ()
      terminate := fun _ => pure ()
      poll := fun _ => pure .running
      now := pure .zero
      sleep := fun _ => pure () }
  alarm := { raised := pure false, now := pure .zero, waitUntil := fun _ => pure false }
  stdout := { write := fun _ => pure (), flush := pure () }
  stderr := { attended := pure false, write := fun _ => pure () }
  surroundings := { programDirectory := ("." : Path) }
  workingDirectory := "."
  timestamp := "1970-01-01T00:00:00+00:00"
  platform := "none"
  looks := 1
  hung := ()

lemma still_calm : still.Calm where
  run _ := .pure _
  removeDirectory _ := .pure _
  processes :=
    { list := .pure _
      probe := fun _ => .pure _
      terminate := fun _ => .pure _
      poll := fun _ => .pure _
      now := .pure _
      sleep := fun _ => .pure _ }
  raised := .pure _
  now := .pure _
  waitUntil _ := .pure _

/-- Options with as many seconds for each wait, and else as they come. -/
def waiting (seconds : Float) : Options where
  exe := "App"
  profile := "profile"
  iterations := 10
  preload := false
  preloadSize := none
  preloadStride := none
  coldStart := false
  noPrefetch := false
  keepTemporary := false
  noInitializeProfile := false
  settleSeconds := seconds
  quitLimitSeconds := some seconds
  launchAttempts := 300
  toolsDirectory := some "."
  prefetchDirectory := some "C:\\Windows\\Prefetch"
  snapshotDrive := "M:"
  analyzer := none
  traceControl := none
  noTrace := true
  json := none
  noColor := true
  verbose := false

/-- The configuration of these options. -/
def waitingConfig (time : Duration) : Config where
  exe := "App"
  profile := "profile"
  settle := time
  quitLimit := some time
  color := false

/-- The settings of this configuration. -/
def waitingSettings (time : Duration) : Settings where
  exe := "App"
  profile := "profile"
  settle := time
  quitLimit := some time

/-- Ten seconds for each wait: neither the wait to settle nor a tear-down panics. -/
theorem deadlines_of_ten_seconds :
    (waiting 10).config still.surroundings true = .ok (waitingConfig (.ofSeconds 10)) ∧
      Settings.ofConfig (waitingConfig (.ofSeconds 10)) =
        .ok (waitingSettings (.ofSeconds 10)) ∧
      still.Calm ∧
      ((still.bench (waitingConfig (.ofSeconds 10)) (waitingSettings (.ofSeconds 10))).settle
        (.ofSeconds 10)).Calm ∧
      (still.bench (waitingConfig (.ofSeconds 10))
        (waitingSettings (.ofSeconds 10))).tearDown.Calm := by
  have accepted : (waiting 10).config still.surroundings true =
      .ok (waitingConfig (.ofSeconds 10)) := rfl
  have settings : Settings.ofConfig (waitingConfig (.ofSeconds 10)) =
      .ok (waitingSettings (.ofSeconds 10)) := rfl
  have deadlines := deadlines_of_config still_calm accepted settings
  have reached : ¬Instant.Overflows .zero (.ofSeconds 10) := by
    unfold Instant.Overflows
    decide
  refine ⟨accepted, settings, still_calm, fun w m panicked => ?_, fun w m panicked => ?_⟩
  · obtain ⟨-, -, i, ⟨⟩, late⟩ := (deadlines.settle w m).1 panicked
    exact reached late
  · obtain ⟨-, d, s, i, ⟨⟩, ⟨⟩, late⟩ := deadlines.tearDown w m panicked
    exact reached late

/-- As many seconds as a duration holds and the clock does not: the wait to settle, the wait for a
process and the tear-down panic. -/
theorem overrun_of_endless :
    (waiting 1e19).config still.surroundings true =
        .ok (waitingConfig (.ofSeconds 10000000000000000000)) ∧
      Settings.ofConfig (waitingConfig (.ofSeconds 10000000000000000000)) =
        .ok (waitingSettings (.ofSeconds 10000000000000000000)) ∧
      still.Calm ∧
      let b := still.bench (waitingConfig (.ofSeconds 10000000000000000000))
        (waitingSettings (.ofSeconds 10000000000000000000))
      (b.settle b.settings.settle ⟨.empty, ()⟩).outcome = .panicked Instant.overflowMessage ∧
        ((b.browser.desktop.waitForExit ⟨2, ⟨2⟩⟩ b.settings.quitLimit).run ⟨.empty, ()⟩).outcome =
          .panicked Instant.overflowMessage ∧
        (b.tearDown ⟨{ launched := true }, ⟨.empty, ()⟩⟩).outcome =
          .panicked Instant.overflowMessage := by
  refine ⟨rfl, rfl, still_calm, Outcome.message?_eq_some.1 ?_, Outcome.message?_eq_some.1 ?_,
    Outcome.message?_eq_some.1 ?_⟩
  all_goals decide +kernel

end System

end StartupBench
