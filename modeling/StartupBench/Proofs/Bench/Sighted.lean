import StartupBench.Proofs.Bench.Watched
import StartupBench.System

/-!
# A run under an interrupt flag

A `Flag` is the interrupt flag of a world together with what passes the time while it is waited for.
`Bench.Heeds b f d` says that a benchmark and its run look at this flag to find out whether they are
to stop, and that nothing they do lowers it.  `System.bench_heeds` shows it for the benchmark of a
system whose alarm is that of a flag.

## Notes of the flag

The notes that are taken of such a run (`Sign`) are about the flag: whether it is raised when the
launcher is about to launch, what each look of a settle wait finds, and with these the ends of the
steps.  They are those of a `Watch`, `Flag.watch`; the run with notes is `Bench.sightedRunner`, and
what it has noted is `Bench.signs`.

## What the notes leave alone

The notes change nothing (`Bench.Heeds.faithful`), because a settle wait on `Flag.alarmIn` is the
one on `Flag.alarm`, seen through `Recorded.world` (`Flag.waitFor_over`).  All that happens between
two notes is `Flag.Unseen`: nothing is noted, and a flag that is raised stays raised.
`Bench.Heeds.unseen_tracks` says so of every call but a launch, so that `Proofs.Bench.Interrupted`
has to follow the flag only through the looks and the launches.
-/

namespace StartupBench

variable {κ σ α : Type}

/-! ## The flag -/

/-- An alarm whose every `look` at the flag is the same.  Its `pause` comes back when an instant has
come or when the flag is raised, and nobody is told which of them it was. -/
def Alarm.ofLook (look : Act κ σ Bool) (now : Act κ σ Instant) (pause : Instant → Act κ σ Unit) :
    Alarm κ σ where
  raised := look
  now := now
  waitUntil deadline := do
    pause deadline
    look

/-- Let the time of a wait pass: read the clock, and `pause` until the deadline.  A deadline beyond
the last instant panics, as in `Alarm.waitFor`. -/
def Alarm.pass (now : Act κ σ Instant) (pause : Instant → Act κ σ Unit) (time : Duration) :
    Act κ σ Unit := do
  let deadline ← Instant.after (← now) time
  pause deadline

/-- A wait of `Alarm.ofLook` looks at the flag, lets the time pass as `Alarm.pass` does, and looks
again. -/
lemma Alarm.waitFor_ofLook (look : Act κ σ Bool) (now : Act κ σ Instant)
    (pause : Instant → Act κ σ Unit) (time : Duration) :
    (ofLook look now pause).waitFor time = (do
      if ← look then pure true
      else
        pass now pause time
        look) := by
  unfold waitFor ofLook pass
  simp only [bind_assoc]

lemma Alarm.pass_respects {S : σ → σ → Prop} [IsPreorder σ S] {now : Act κ σ Instant}
    {pause : Instant → Act κ σ Unit} (hnow : now.Respects S) (hpause : ∀ t, (pause t).Respects S)
    (time : Duration) : (pass now pause time).Respects S := by
  refine hnow.bind fun start => Act.Respects.bind ?_ hpause
  exact (Act.Tracks.expected (π := id) _ _).respects

/-- An interrupt flag: whether it is `up` in a world, and what passes the time while it is waited
for. -/
structure Flag (κ σ : Type) where
  up : σ → Bool
  now : Act κ σ Instant
  /-- Let the time pass until an instant has come, or until the flag is raised. -/
  pause : Instant → Act κ σ Unit

/-- What is noted of a run under a `Flag`.  It is enough to tell which launches were late and which
settle waits were disturbed. -/
inductive Sign where
  /-- The launcher is about to launch; whether the flag is raised then. -/
  | launching (raised : Bool)
  /-- The settle wait of an iteration looks at the flag; whether it is raised. -/
  | settling (iteration : Nat) (raised : Bool)
  /-- A step of the run has ended. -/
  | ended (call : Subject.Call)
  deriving DecidableEq, Repr

namespace Flag

open Bench (Ask)

variable (f : Flag κ σ)

/-- Look whether the flag is `up`, which changes nothing in the world. -/
def look : Act κ σ Bool := Act.reading f.up

/-- The `Alarm` of the flag, which is what a settle wait goes by. -/
def alarm : Alarm κ σ := .ofLook f.look f.now f.pause

/-- A flag that is raised in the first world is raised in the second.  This relation is reflexive
and transitive, and so holds of a whole act if it holds of its calls. -/
def Stays (w w₁ : σ) : Prop := f.up w = true → f.up w₁ = true

instance : IsPreorder σ f.Stays where
  refl _ := id
  trans _ _ _ h h₁ := h₁ ∘ h

/-- Nothing is noted, and a flag that is raised stays raised (`Flag.Stays`). -/
def Unseen (w w₁ : Recorded Sign σ) : Prop := w₁.calls = w.calls ∧ f.Stays w.world w₁.world

instance : IsPreorder (Recorded Sign σ) f.Unseen where
  refl w := ⟨rfl, Std.Refl.refl w.world⟩
  trans _ _ _ h h₁ := ⟨h₁.1.trans h.1, IsTrans.trans _ _ _ h.2 h₁.2⟩

/-- An act that respects `Flag.Stays` goes unseen when it is run beside the notes, since
`Act.unrecorded` leaves these alone. -/
lemma unseen_of_stays {x : Act κ σ α} (h : x.Respects f.Stays) :
    (x.unrecorded : Act κ (Recorded Sign σ) α).Respects f.Unseen := fun w => ⟨rfl, h w.world⟩

/-- Make a note of whether the flag is raised, without looking at it as the run does. -/
def sight (sign : Bool → Sign) : Act κ (Recorded Sign σ) Unit :=
  Act.update fun w => { w with calls := w.calls ++ [sign (f.up w.world)] }

/-- Look at the flag in the settle wait of an iteration, and note what the look is about to find as
`Sign.settling`. -/
def lookIn (i : Nat) : Act κ (Recorded Sign σ) Bool := do
  f.sight (.settling i)
  f.look.unrecorded

/-- The alarm that the settle wait of an iteration goes by: that of `Flag.alarm`, with every look
noted. -/
def alarmIn (i : Nat) : Alarm κ (Recorded Sign σ) :=
  .ofLook (f.lookIn i) f.now.unrecorded fun t => (f.pause t).unrecorded

/-- The watch of a flag: what the flag is like before each launch and at each look of the settle
wait of an iteration, and the ends of the steps.  All other calls are unrecorded. -/
def watch : Watch κ σ Sign where
  ask
    | _, .launch _, x => f.sight .launching >>= fun _ => x.unrecorded
    | some i, .settle time, _ => (f.alarmIn i).waitFor time
    | _, _, x => x.unrecorded
  ended call _ := .ended call

lemma watch_ask {i : Option Nat} {a : Ask} (x : Act κ σ a.Answer) (launch : ∀ c, a ≠ .launch c)
    (settle : ∀ j time, i = some j → a ≠ .settle time) : f.watch.ask i a x = x.unrecorded := by
  cases a with
  | launch c => exact absurd rfl (launch c)
  | settle time =>
    cases i with
    | none => rfl
    | some j => exact absurd rfl (settle j time rfl)
  | _ => cases i <;> rfl

end Flag

namespace Bench

/-! ## The run with notes of the flag -/

section Sighted

variable (b : Bench κ σ) (f : Flag κ σ)

/-- The benchmark with a note of the flag before each launch (`Flag.watch`), outside of the steps
that belong to one iteration alone. -/
abbrev sighted : Bench κ (Recorded Sign σ) := b.watched f.watch none

/-- The same run with notes of the flag.  The work of an iteration is that of `Bench.settlingIn`, so
that the looks of the settle waits are told apart. -/
abbrev sightedRunner (d : Drive κ σ) : Runner κ (World (Recorded Sign σ)) :=
  b.watchedRunner f.watch d

/-- The notes of the flag in the life of a run of the benchmark, in the order in which they were
made. -/
def signs (d : Drive κ σ) (progress : Option Progress) (w : σ) : List Sign :=
  b.notes f.watch d progress w

/-- The benchmark and its run look at the flag `f` to find out whether they are to stop, and
whatever they do, a flag that is raised stays raised. -/
structure Heeds (d : Drive κ σ) : Prop where
  /-- The settle wait ends early if the flag is raised. -/
  settle : b.settle = f.alarm.waitFor
  asked : d.interrupted = f.look
  call : ∀ a, (∀ time, a ≠ .settle time) → (b.call a).Respects f.Stays
  now : f.now.Respects f.Stays
  pause : ∀ t, (f.pause t).Respects f.Stays
  sleep : ∀ time, (d.sleep time).Respects f.Stays

end Sighted

namespace Heeds

variable {b : Bench κ σ} {f : Flag κ σ} {d : Drive κ σ} (h : b.Heeds f d)
include h

/-- No call lowers the flag: the settle wait only looks and pauses, and of the others `Heeds.call`
says so. -/
lemma stays (a : Ask) : (b.call a).Respects f.Stays := by
  by_cases settle : ∃ time, a = .settle time
  · obtain ⟨time, rfl⟩ := settle
    show (b.settle time).Respects f.Stays
    rw [h.settle]
    unfold Flag.alarm
    rw [Alarm.waitFor_ofLook]
    refine Act.Respects.bind (Act.Respects.reading f.up) fun raised => ?_
    refine Act.Respects.ite (Act.Respects.pure true) ?_
    exact (Alarm.pass_respects h.now h.pause time).bind fun _ => Act.Respects.reading f.up
  · exact h.call a fun time htime => settle ⟨time, htime⟩

lemma unseen_call {i : Option Nat} {a : Ask} (launch : ∀ c, a ≠ .launch c)
    (settle : ∀ j time, i = some j → a ≠ .settle time) :
    (f.watch.ask i a (b.call a)).Tracks Recorded.world f.Unseen (b.call a) := by
  rw [f.watch_ask _ launch settle]
  exact ⟨Act.unrecorded_over _, f.unseen_of_stays (h.stays a)⟩

/-- Every call but that of the launcher goes `Flag.Unseen`.  What a step does without launching is
thereby known from `Bench.Tracks` alone. -/
lemma unseen_tracks : (b.sighted f).Tracks Recorded.world f.Unseen (· ≠ .launcher) b :=
  watched_tracks fun _ ha => h.unseen_call (fun _ hc => ha (congrArg Ask.part hc)) nofun

end Heeds

end Bench

/-! ## The benchmark of a system -/

lemma ProcessTable.asking_bind {β : Type} (x : Act κ σ α) (g : α → Act κ σ β) :
    asking (x >>= g) = asking x >>= fun a => asking (g a) := by
  ext w
  rw [Act.bind_run]
  unfold asking Act.within
  dsimp only
  rw [Act.bind_run]
  rcases x w.outside with ⟨a | m | k, w₁, n₁⟩ <;> rfl

/-- The flag of a system, looked at from a world that has the `ProcessTable` in it. -/
def Flag.aroundTable (f : Flag κ σ) : Flag κ (ProcessTable.World σ) where
  up w := f.up w.outside
  now := ProcessTable.asking f.now
  pause t := ProcessTable.asking (f.pause t)

/-- Waiting on the process table for the flag is waiting for it outside of the table, by
`Alarm.waitFor_ofLook` on either side. -/
lemma Flag.aroundTable_waitFor (f : Flag κ σ) (time : Duration) :
    f.aroundTable.alarm.waitFor time = ProcessTable.asking (f.alarm.waitFor time) := by
  have look : ProcessTable.asking f.look = f.aroundTable.look := rfl
  have passed : ProcessTable.asking (Alarm.pass f.now f.pause time) =
      Alarm.pass f.aroundTable.now f.aroundTable.pause time := by
    unfold Alarm.pass Instant.after
    rw [ProcessTable.asking_bind]
    refine bind_congr fun start => ?_
    rw [ProcessTable.asking_bind]
    cases start.after? time <;> rfl
  unfold alarm
  rw [Alarm.waitFor_ofLook, Alarm.waitFor_ofLook, ProcessTable.asking_bind, look]
  refine bind_congr fun raised => ?_
  cases raised with
  | true => rfl
  | false =>
    rw [if_neg Bool.false_ne_true, if_neg Bool.false_ne_true, ProcessTable.asking_bind, passed,
      look]

/-- The benchmark of a system heeds the flag of the system, if nothing that it calls lowers it.  The
hypotheses are about the `System` alone, and the process table between the two never touches the
flag. -/
theorem System.bench_heeds {sys : System κ σ} {f : Flag κ σ} (alarm : sys.alarm = f.alarm)
    (c : Config) (s : Settings) (iterations : Nat) (patience : Patience)
    (call : ∀ a, (∀ time, a ≠ .settle time) →
      ((sys.bench c s).call a).Respects f.aroundTable.Stays)
    (now : f.now.Respects f.Stays) (pause : ∀ t, (f.pause t).Respects f.Stays) :
    (sys.bench c s).Heeds f.aroundTable
      { iterations, patience
        interrupted := (sys.bench c s).interrupted
        sleep := (sys.bench c s).sleep } where
  settle := by
    funext time
    rw [f.aroundTable_waitFor, ← alarm]
    rfl
  asked := by
    unfold System.bench
    rw [alarm]
    rfl
  call := call
  now w := now w.outside
  pause t w := pause t w.outside
  sleep time := call (.sleep time) nofun

end StartupBench
