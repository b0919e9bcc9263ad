import StartupBench.Proofs.Bench.Watched

/-!
# The record of a benchmark

`Watch.recording` keeps a record of the calls of all collaborators of a benchmark and of the ends of
its steps (`Event`).  `Bench.recorded` is the benchmark with this record, `Bench.recordedRunner` a
run of it, and `Bench.events` the record of a whole life.  The record changes nothing
(`Bench.recording_faithful`), so that what it says is so of the run without it.

## Frames

A step of the run that leaves a part of the state alone and asks certain collaborators only is
`Bench.Confined`.  What each step is confined to is said by the lemmas of `Watch.Keeps`, for which
`Bench.records` has the one thing to be known of the record: the calls of a part are events of that
part.  An outline of a run that is about one collaborator, such as the preload store or the output,
then has work to do only for the steps that call it.

What is said of the end of a life is said under `Bench.Survives`, which leaves out runs that do not
get there: those whose process was aborted, and those in which a collaborator never comes back.
-/

namespace StartupBench

open Recorded (Adds)

variable {κ σ α : Type}

namespace Bench

/-! ## Events

An event is a call of a collaborator, with its answer if there was one, or with whether there was
one if nothing depends on it. -/

/-- A call of the store of the preload setting (`PreloadStore`), with what came of it. -/
inductive PreloadCall where
  | load (answer : Option PreloadState)
  | store (state : PreloadState) (done : Bool)
  deriving DecidableEq, Repr

/-- A call of the launcher (`Launcher`), and whether it succeeded. -/
inductive LauncherCall where
  | launch (command : Command) (done : Bool)
  | run (command : Command) (done : Bool)
  deriving DecidableEq, Repr

/-- A call of the tracer (`Tracer`), and whether it succeeded. -/
inductive TracerCall where
  | start (directory : Path) (done : Bool)
  | stop (done : Bool)
  deriving DecidableEq, Repr

/-- A call that looks for, removes or makes a directory (`Part.directories`). -/
inductive DirectoryCall where
  | isDirectory (path : Path) (answer : Option Bool)
  | remove (path : Path) (done : Bool)
  | makeTemporary (stem : String) (path : Option Path)
  deriving DecidableEq, Repr

/-- A call that looks for or removes prefetch files (`Part.prefetch`). -/
inductive PrefetchCall where
  | list (directory : Path) (names : Option (List RawText))
  | remove (path : Path) (done : Bool)
  deriving DecidableEq, Repr

/-- A call that writes results (`Part.output`), and whether it succeeded. -/
inductive OutputCall where
  | write (text : String) (done : Bool)
  | flush (done : Bool)
  deriving DecidableEq, Repr

/-- A call that lets time pass, or asks whether the user wants to stop (`Part.waiting`). -/
inductive WaitingCall where
  | settle (time : Duration) (interrupted : Option Bool)
  | ask (interrupted : Option Bool)
  | sleep (time : Duration)
  deriving DecidableEq, Repr

/-- What is recorded of a run of a benchmark: the calls of collaborators, and the ends of the run's
steps. -/
inductive Event where
  | desktop (call : Desktop.Call)
  | preload (call : PreloadCall)
  | launcher (call : LauncherCall)
  | tracer (call : TracerCall)
  /-- The trace of an iteration is analyzed. -/
  | analyzed (iteration : Nat) (metrics : Option (List Metric))
  | directory (call : DirectoryCall)
  | prefetch (call : PrefetchCall)
  | output (call : OutputCall)
  | waiting (call : WaitingCall)
  /-- A step of the run has ended. -/
  | step (call : Subject.Call)

namespace Event

/-- The `Part` of the benchmark that was asked, if the event is the call of a collaborator. -/
def part : Event → Option Part
  | desktop _ => some .desktop
  | preload _ => some .preload
  | launcher _ => some .launcher
  | tracer _ => some .tracer
  | analyzed _ _ => some .analyzer
  | directory _ => some .directories
  | prefetch _ => some .prefetch
  | output _ => some .output
  | waiting _ => some .waiting
  | step _ => none

/-- The call of a step of the run, if the event is one. -/
def step? : Event → Option Subject.Call
  | step call => some call
  | _ => none

/-- Only parts in `K` were asked; the end of a step is an event of any `K`. -/
def Of (K : Part → Prop) (e : Event) : Prop := ∀ p, e.part = some p → K p

lemma Of.intro {K : Part → Prop} {e : Event} {p : Part} (hp : e.part = some p) (hK : K p) :
    e.Of K := by
  intro q hq
  rw [hp] at hq
  cases hq
  exact hK

end Event

/-! ## What is recorded -/

/-- The event of a call, by how the call ended.  Traces are analyzed in `Bench.conclude`, where the
iteration is told. -/
def Event.ofCall (i : Option Nat) : (a : Ask) → Outcome κ a.Answer → Event
  | .findWindow p, out => .desktop (.findWindow p out.answer?)
  | .windowOwner w, _ => .desktop (.windowOwner w)
  | .threadWindows t, _ => .desktop (.threadWindows t)
  | .className w, _ => .desktop (.className w)
  | .openProcess pid, out => .desktop (.openProcess pid out.value?)
  | .postQuit w m, _ => .desktop (.postQuit w m)
  | .waitForExit h limit, _ => .desktop (.waitForExit h limit)
  | .exitCode h, _ => .desktop (.exitCode h)
  | .closeProcess h, _ => .desktop (.closeProcess h)
  | .loadPreload, out => .preload (.load out.value?)
  | .storePreload v, out => .preload (.store v out.value?.isSome)
  | .launch c, out => .launcher (.launch c out.value?.isSome)
  | .run c, out => .launcher (.run c out.value?.isSome)
  | .startTrace path, out => .tracer (.start path out.value?.isSome)
  | .stopTrace, out => .tracer (.stop out.value?.isSome)
  | .analyze _ _, out => .analyzed (i.getD 0) out.value?
  | .isDirectory path, out => .directory (.isDirectory path out.answer?)
  | .removeDirectory path, out => .directory (.remove path out.value?.isSome)
  | .makeTemporary stem, out => .directory (.makeTemporary stem out.value?)
  | .listFiles path, out => .prefetch (.list path out.value?)
  | .removeFile path, out => .prefetch (.remove path out.value?.isSome)
  | .write text, out => .output (.write text out.value?.isSome)
  | .flush, out => .output (.flush out.value?.isSome)
  | .settle time, out => .waiting (.settle time out.answer?)
  | .interrupted, out => .waiting (.ask out.answer?)
  | .sleep time, _ => .waiting (.sleep time)

lemma Event.part_ofCall (i : Option Nat) (a : Ask) (out : Outcome κ a.Answer) :
    (ofCall i a out).part = some a.part := by
  cases a <;> rfl

end Bench

/-- The watch that keeps an event of each call and of each end of a step. -/
def Watch.recording : Watch κ σ Bench.Event where
  ask i a x := x.recorded (.ofCall i a)
  ended call _ := .step call

namespace Bench

/-- The benchmark with a record of the calls of its collaborators. -/
abbrev recorded (b : Bench κ σ) (i : Option Nat) : Bench κ (Recorded Event σ) :=
  b.watched .recording i

/-- The same run as `Bench.driven` with a record of its events. -/
abbrev recordedRunner (b : Bench κ σ) (d : Drive κ σ) : Runner κ (World (Recorded Event σ)) :=
  b.watchedRunner .recording d

/-- The events in the life of a run of the benchmark, in order, with those of letting go of it. -/
def events (b : Bench κ σ) (d : Drive κ σ) (progress : Option Progress) (w : σ) : List Event :=
  b.notes .recording d progress w

section Collaborators

variable (b : Bench κ σ) (i : Option Nat)

lemma recorded_store (v : PreloadState) : (b.recorded i).browser.preload.store v =
    Try.recorded (fun out => .preload (.store v out.value?.isSome))
      (b.browser.preload.store v) := rfl

lemma recorded_analyze (file exe : Path) : (b.recorded i).analyzer.analyze file exe =
    Try.recorded (fun out => .analyzed (i.getD 0) out.value?) (b.analyzer.analyze file exe) := rfl

end Collaborators

section Steps

variable (b : Bench κ σ) (d : Drive κ σ)

lemma recordedRunner_setUp : (b.recordedRunner d).subject.setUp =
    Try.noted (fun out => noting fun _ => .step ⟨.setUp, .ofTry out⟩)
      (b.recorded none).setUp := rfl

lemma recordedRunner_conclude (i : Nat) : (b.recordedRunner d).subject.conclude i =
    Try.noted (fun out => noting fun _ => .step ⟨.conclude i, .ofTry out⟩)
      (b.recorded (some i)).conclude := rfl

end Steps

/-! ## What a step of a run is confined to -/

/-- What `f` reads of the state is left alone, and only parts in `K` are asked. -/
abbrev Confined {γ : Type} (f : State → γ) (K : Part → Prop) :
    World (Recorded Event σ) → World (Recorded Event σ) → Prop :=
  Frame f (Adds (Event.Of K))

/-- The recorded benchmark does what the benchmark does (`Bench.Tracks`), and the calls of a part
are events of that part. -/
lemma recorded_tracks (b : Bench κ σ) (i : Option Nat) (K : Part → Prop) :
    (b.recorded i).Tracks Recorded.world (Adds (Event.Of K)) K b :=
  watched_tracks fun a ha =>
    Act.recorded_tracks _ _ fun out => .intro (Event.part_ofCall i a out) ha

lemma adds_step (K : Part → Prop) (call : Subject.Call) (w : Recorded Event σ) :
    Adds (Event.Of K) w { w with calls := w.calls ++ [.step call] } := by
  refine ⟨[.step call], rfl, fun e he p hp => ?_⟩
  rw [List.mem_singleton.1 he] at hp
  cases hp

lemma confined_step {γ : Type} {f : State → γ} {K : Part → Prop} (call : Subject.Call)
    (w : World (Recorded Event σ)) : Confined f K w (noting (fun _ => .step call) w) :=
  ⟨rfl, adds_step K call w.outside⟩

/-- The record keeps to the parts in `K` where only these are asked, and the end of a step is an
event of any `K`. -/
lemma records (b : Bench κ σ) (d : Drive κ σ) (K : Part → Prop) :
    Watch.recording.Keeps b d K (fun _ => True) True (Adds (Event.Of K)) where
  call i a ha := Act.recorded_tracks _ _ fun out => .intro (Event.part_ofCall i a out) ha
  interrupted hw := Act.recorded_tracks _ _ fun _ => .intro rfl hw
  sleep hw _ := Act.recorded_tracks _ _ fun _ => .intro rfl hw
  ended call _ := adds_step K call
  begun _ _ hnote := nomatch hnote

/-- The record changes nothing: each event is added beside what the call does. -/
lemma recording_faithful (b : Bench κ σ) (d : Drive κ σ) : Watch.recording.Faithful b d :=
  .of_over (fun _ a => Act.recorded_over _ (b.call a)) (Act.recorded_over _ _)
    fun _ => Act.recorded_over _ _

end Bench

end StartupBench
