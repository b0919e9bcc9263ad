import StartupBench.Proofs.Bench.Tracked

/-!
# A benchmark that is watched

A statement about a run of a benchmark is often one about the calls that its collaborators got, in
their order.  A `Watch` says which notes are taken of a run: what is noted of a call, at the end of
a step, and when the tear-down begins.  `Bench.watched` is the benchmark with the notes of a watch,
`Bench.watchedRunner` a run of it, and `Bench.notes` what is noted in a whole life.

There are three watches, and they differ in nothing but their notes.  `Watch.recording` keeps an
event of each call (`Proofs.Bench.Recorded`), `Watch.chronicling` all there is to know of it
together with the world after it (`Proofs.Bench.Chronicle`), and `Flag.watch` what an interrupt flag
is like at certain calls (`Proofs.Bench.Sighted`).

## Asking a benchmark

The calls are listed by `Bench.Ask`, so that something can be said of all collaborators at once:
`b.call a` is the call `a` of the benchmark `b`, and its answer has the type `a.Answer`.  To show
that a benchmark tracks another (`Bench.Tracks`) it is enough to do so for each call
(`Bench.Tracks.of_calls`), and this is how the notes get along the code of the benchmark.

## What a watch keeps

`Watch.Keeps` says of a watch that its calls track those without notes, and relates the worlds
before and after them.  There is one lemma for each step of a run, which says the same of the step:
`Watch.Keeps.setUp_tracks`, `Watch.Keeps.prepare_tracks` and so on.  A watch is `Watch.Faithful` if
that is so of every call, with nothing said about the worlds; then its notes change nothing
(`Bench.watchedRunner_over`), and what they say is so of the run without them.

A run of a benchmark is told with the interrupt check and the pauses that surround it
(`Bench.Drive`); with those of the benchmark itself it is the run of the program.
-/

namespace StartupBench

namespace Bench

variable {κ σ ν α : Type}

/-! ## Calls of collaborators -/

/-- A call of a collaborator with what it is asked. -/
inductive Ask where
  | findWindow (pattern : WindowPattern)
  | windowOwner (window : WindowId)
  | threadWindows (thread : ThreadId)
  | className (window : WindowId)
  | openProcess (pid : ProcessId)
  | postQuit (window : WindowId) (message : QuitMessage)
  | waitForExit (handle : Handle) (limit : Option Duration)
  | exitCode (handle : Handle)
  | closeProcess (handle : Handle)
  | loadPreload
  | storePreload (state : PreloadState)
  | launch (command : Command)
  | run (command : Command)
  | startTrace (directory : Path)
  | stopTrace
  | analyze (file exe : Path)
  | isDirectory (path : Path)
  | removeDirectory (path : Path)
  | makeTemporary (stem : String)
  | listFiles (directory : Path)
  | removeFile (path : Path)
  | write (text : String)
  | flush
  | settle (time : Duration)
  | interrupted
  | sleep (time : Duration)
  deriving DecidableEq

namespace Ask

/-- What the call is answered with: a value, or an `Except` for calls that may fail. -/
@[reducible] def Answer : Ask → Type
  | findWindow _ => Option WindowId
  | windowOwner _ => Except PrimitiveError (ThreadId × ProcessId)
  | threadWindows _ => List WindowId
  | className _ => Option String
  | openProcess _ => Except PrimitiveError Handle
  | postQuit _ _ => Except PrimitiveError Unit
  | waitForExit _ _ => Except PrimitiveError Waited
  | exitCode _ => Except PrimitiveError (Option Int)
  | closeProcess _ => Unit
  | loadPreload => Except RunError PreloadState
  | storePreload _ => Except RunError Unit
  | launch _ => Except RunError Unit
  | run _ => Except RunError (Option Int)
  | startTrace _ => Except RunError (Option TraceFiles)
  | stopTrace => Except RunError Unit
  | analyze _ _ => Except RunError (List Metric)
  | isDirectory _ => Bool
  | removeDirectory _ => Except IoError Unit
  | makeTemporary _ => Except IoError Path
  | listFiles _ => Except IoError (List RawText)
  | removeFile _ => Except IoError Unit
  | write _ => Except IoError Unit
  | flush => Except IoError Unit
  | settle _ => Bool
  | interrupted => Bool
  | sleep _ => Unit

/-- The `Part` of the benchmark that is asked. -/
def part : Ask → Part
  | findWindow _ | windowOwner _ | threadWindows _ | className _ | openProcess _ | postQuit _ _
  | waitForExit _ _ | exitCode _ | closeProcess _ => .desktop
  | loadPreload | storePreload _ => .preload
  | launch _ | run _ => .launcher
  | startTrace _ | stopTrace => .tracer
  | analyze _ _ => .analyzer
  | isDirectory _ | removeDirectory _ | makeTemporary _ => .directories
  | listFiles _ | removeFile _ => .prefetch
  | write _ | flush => .output
  | settle _ | interrupted | sleep _ => .waiting

end Ask

/-- The call of a benchmark: the collaborator's own operation, with errors as answers. -/
def call (b : Bench κ σ) : (a : Ask) → Act κ σ a.Answer
  | .findWindow p => b.browser.desktop.findWindow p
  | .windowOwner w => b.browser.desktop.windowOwner w
  | .threadWindows t => b.browser.desktop.threadWindows t
  | .className w => b.browser.desktop.className w
  | .openProcess pid => b.browser.desktop.openProcess pid
  | .postQuit w m => b.browser.desktop.postQuit w m
  | .waitForExit h limit => b.browser.desktop.waitForExit h limit
  | .exitCode h => b.browser.desktop.exitCode h
  | .closeProcess h => b.browser.desktop.closeProcess h
  | .loadPreload => b.browser.preload.load
  | .storePreload v => b.browser.preload.store v
  | .launch c => b.launcher.launch c
  | .run c => b.launcher.run c
  | .startTrace directory => b.tracer.start directory
  | .stopTrace => b.tracer.stop
  | .analyze file exe => b.analyzer.analyze file exe
  | .isDirectory path => b.files.isDirectory path
  | .removeDirectory path => b.files.removeDirectory path
  | .makeTemporary stem => b.files.makeTemporary stem
  | .listFiles directory => b.files.list directory
  | .removeFile path => b.files.removeFile path
  | .write text => b.output.write text
  | .flush => b.output.flush
  | .settle time => b.settle time
  | .interrupted => b.interrupted
  | .sleep time => b.sleep time

/-- Benchmarks of which every call of a collaborator tracks the same call of the other
(`Act.Tracks`) track one another. -/
lemma Tracks.of_calls {τ : Type} {π : τ → σ} {S : τ → τ → Prop} {K : Part → Prop}
    {b' : Bench κ τ} {b : Bench κ σ} (settings : b'.settings = b.settings)
    (family : b'.browser.family = b.browser.family) (exe : b'.browser.exe = b.browser.exe)
    (call : ∀ a, K a.part → (b'.call a).Tracks π S (b.call a)) : b'.Tracks π S K b where
  settings := settings
  family := family
  exe := exe
  desktop hK :=
    { looks :=
        { findWindow := fun p => call (.findWindow p) hK
          windowOwner := fun w => call (.windowOwner w) hK
          threadWindows := fun t => call (.threadWindows t) hK
          className := fun w => call (.className w) hK }
      openProcess := fun pid => call (.openProcess pid) hK
      uses := fun h =>
        { postQuit := fun w m => call (.postQuit w m) hK
          waitForExit := fun limit => call (.waitForExit h limit) hK
          exitCode := call (.exitCode h) hK }
      closeProcess := fun h => call (.closeProcess h) hK }
  loadPreload hK := call .loadPreload hK
  storePreload hK v := call (.storePreload v) hK
  launchCommand hK c := call (.launch c) hK
  runCommand hK c := call (.run c) hK
  startTrace hK directory := call (.startTrace directory) hK
  stopTrace hK := call .stopTrace hK
  analyzeTrace hK file exe := call (.analyze file exe) hK
  isDirectory hK path := call (.isDirectory path) hK
  removeDirectory hK path := call (.removeDirectory path) hK
  makeDirectory hK stem := call (.makeTemporary stem) hK
  listFiles hK directory := call (.listFiles directory) hK
  removeFile hK path := call (.removeFile path) hK
  writeOutput hK text := call (.write text) hK
  flushOutput hK := call .flush hK
  settle hK time := call (.settle time) hK
  interrupted hK := call .interrupted hK
  sleep hK time := call (.sleep time) hK

/-! ## Runs -/

/-- How a run goes through its iterations, beside what the benchmark does. -/
structure Drive (κ σ : Type) where
  iterations : Nat
  patience : Patience := {}
  /-- Whether the user wants to stop. -/
  interrupted : Act κ σ Bool
  /-- Pause. -/
  sleep : Duration → Act κ σ Unit

/-- A run of the benchmark.  With the interrupt check and the pauses of the benchmark itself
(`Bench.interrupted`, `Bench.sleep`) it is `Bench.runner`. -/
def driven (b : Bench κ σ) (d : Drive κ σ) : Runner κ (World σ) where
  subject := b.subject
  iterations := d.iterations
  patience := d.patience
  interrupted := asking d.interrupted
  sleep time := asking (d.sleep time)

/-- The life of a run of the benchmark (`Runner.life`), from a state in which nothing was acquired.
-/
def life (b : Bench κ σ) (d : Drive κ σ) (progress : Option Progress) (w : σ) :
    Ran κ (Runner.World (World σ)) (Except RunError Report) :=
  (b.driven d).life (.fresh progress ⟨{}, w⟩)

/-- The life of the run comes to an end: no collaborator keeps control for good, and the process is
not aborted, as it is when something that is called during a panic panics too (`Act.ensuring`). -/
def Survives (b : Bench κ σ) (d : Drive κ σ) (progress : Option Progress) (w : σ) : Prop :=
  ∀ k, (b.life d progress w).outcome ≠ .stopped k

lemma Survives.of_returned {b : Bench κ σ} {d : Drive κ σ} {progress : Option Progress} {w : σ}
    {answer : Except RunError Report} (h : (b.life d progress w).outcome = .returned answer) :
    b.Survives d progress w := by
  intro k stopped
  cases h.symm.trans stopped

end Bench

/-! ## Notes -/

open Bench (Ask Drive Frame Part)

/-- Which notes are taken of a run of a benchmark. -/
structure Watch (κ σ ν : Type) where
  /-- How a call is made.  The iteration is told in the steps that belong to one alone. -/
  ask : (iteration : Option Nat) → (a : Ask) → Act κ σ a.Answer → Act κ (Recorded ν σ) a.Answer
  /-- What is noted at the end of a step, in the world right after it. -/
  ended : Subject.Call → σ → ν
  /-- What is noted when the tear-down begins, if anything is. -/
  begun : Option (σ → ν) := none

namespace Bench

variable {κ σ ν α : Type}

/-- Add a note to those in the world around the state. -/
def noting (note : σ → ν) (w : World (Recorded ν σ)) : World (Recorded ν σ) :=
  { w with outside := { w.outside with calls := w.outside.calls ++ [note w.outside.world] } }

/-- The benchmark with the notes of a watch `n`; each call of a collaborator is made by `n.ask`. -/
def watched (b : Bench κ σ) (n : Watch κ σ ν) (i : Option Nat) : Bench κ (Recorded ν σ) where
  settings := b.settings
  browser :=
    { family := b.browser.family
      exe := b.browser.exe
      desktop :=
        { findWindow := fun p => n.ask i (.findWindow p) (b.call (.findWindow p))
          windowOwner := fun w => ExceptT.mk (n.ask i (.windowOwner w) (b.call (.windowOwner w)))
          threadWindows := fun t => n.ask i (.threadWindows t) (b.call (.threadWindows t))
          className := fun w => n.ask i (.className w) (b.call (.className w))
          openProcess := fun pid =>
            ExceptT.mk (n.ask i (.openProcess pid) (b.call (.openProcess pid)))
          postQuit := fun w m => ExceptT.mk (n.ask i (.postQuit w m) (b.call (.postQuit w m)))
          waitForExit := fun h limit =>
            ExceptT.mk (n.ask i (.waitForExit h limit) (b.call (.waitForExit h limit)))
          exitCode := fun h => ExceptT.mk (n.ask i (.exitCode h) (b.call (.exitCode h)))
          closeProcess := fun h => n.ask i (.closeProcess h) (b.call (.closeProcess h)) }
      preload :=
        { load := ExceptT.mk (n.ask i .loadPreload (b.call .loadPreload))
          store := fun v => ExceptT.mk (n.ask i (.storePreload v) (b.call (.storePreload v))) } }
  launcher :=
    { launch := fun c => ExceptT.mk (n.ask i (.launch c) (b.call (.launch c)))
      run := fun c => ExceptT.mk (n.ask i (.run c) (b.call (.run c))) }
  tracer :=
    { start := fun directory =>
        ExceptT.mk (n.ask i (.startTrace directory) (b.call (.startTrace directory)))
      stop := ExceptT.mk (n.ask i .stopTrace (b.call .stopTrace)) }
  analyzer :=
    { analyze := fun file exe =>
        ExceptT.mk (n.ask i (.analyze file exe) (b.call (.analyze file exe))) }
  files :=
    -- A benchmark never looks for a single file and never writes one.
    { isFile := fun path => (b.files.isFile path).unrecorded
      write := fun path content => Try.unrecorded (b.files.write path content)
      isDirectory := fun path => n.ask i (.isDirectory path) (b.call (.isDirectory path))
      removeDirectory := fun path =>
        ExceptT.mk (n.ask i (.removeDirectory path) (b.call (.removeDirectory path)))
      makeTemporary := fun stem =>
        ExceptT.mk (n.ask i (.makeTemporary stem) (b.call (.makeTemporary stem)))
      list := fun directory =>
        ExceptT.mk (n.ask i (.listFiles directory) (b.call (.listFiles directory)))
      removeFile := fun path =>
        ExceptT.mk (n.ask i (.removeFile path) (b.call (.removeFile path))) }
  output :=
    { write := fun text => ExceptT.mk (n.ask i (.write text) (b.call (.write text)))
      flush := ExceptT.mk (n.ask i .flush (b.call .flush)) }
  settle time := n.ask i (.settle time) (b.call (.settle time))
  interrupted := n.ask i .interrupted (b.call .interrupted)
  sleep time := n.ask i (.sleep time) (b.call (.sleep time))

lemma watched_call (b : Bench κ σ) (n : Watch κ σ ν) (i : Option Nat) (a : Ask) :
    (b.watched n i).call a = n.ask i a (b.call a) := by
  cases a <;> rfl

/-- The benchmark with notes tracks the one without (`Bench.Tracks`) if each of its calls does. -/
lemma watched_tracks {b : Bench κ σ} {n : Watch κ σ ν} {i : Option Nat} {K : Part → Prop}
    {S : Recorded ν σ → Recorded ν σ → Prop}
    (call : ∀ a, K a.part → (n.ask i a (b.call a)).Tracks Recorded.world S (b.call a)) :
    (b.watched n i).Tracks Recorded.world S K b := by
  refine .of_calls rfl rfl rfl fun a ha => ?_
  rw [b.watched_call n i a]
  exact call a ha

/-- The same run as `Bench.driven` with the notes of a watch.  The settle wait and the analysis of a
trace belong to one iteration, and there the watch is told which. -/
def watchedRunner (b : Bench κ σ) (n : Watch κ σ ν) (d : Drive κ σ) :
    Runner κ (World (Recorded ν σ)) where
  subject := Subject.noted (fun call => noting (n.ended call))
    { (b.watched n none).subject with
      work := fun i => trying (b.watched n (some i)).work
      conclude := fun i => (b.watched n (some i)).conclude
      tearDown :=
        match n.begun with
        | none => (b.watched n none).tearDown
        | some note => do
          Act.update (noting note)
          (b.watched n none).tearDown }
  iterations := d.iterations
  patience := d.patience
  interrupted := asking (n.ask none .interrupted d.interrupted)
  sleep time := asking (n.ask none (.sleep time) (d.sleep time))

/-- The life of `Bench.watchedRunner`: the same life with the notes of a watch. -/
def watchedLife (b : Bench κ σ) (n : Watch κ σ ν) (d : Drive κ σ) (progress : Option Progress)
    (w : σ) : Ran κ (Runner.World (World (Recorded ν σ))) (Except RunError Report) :=
  (b.watchedRunner n d).life (.fresh progress ⟨{}, ⟨[], w⟩⟩)

/-- The notes of a watch in the life of a run of the benchmark, in order, with those of letting go
of it. -/
def notes (b : Bench κ σ) (n : Watch κ σ ν) (d : Drive κ σ) (progress : Option Progress) (w : σ) :
    List ν :=
  (b.watchedLife n d progress w).world.subject.outside.calls

end Bench

/-! ## What a step of a run keeps -/

namespace Watch

variable {κ σ ν α : Type}

/-- The calls of the parts in `K` and of the user track those without notes, and they relate the
worlds with their notes by `S`; and so do the notes at the ends of the steps in `E`, and if `B` the
one at the beginning of the tear-down. -/
structure Keeps (n : Watch κ σ ν) (b : Bench κ σ) (d : Drive κ σ) (K : Part → Prop)
    (E : Subject.Call → Prop) (B : Prop) (S : Recorded ν σ → Recorded ν σ → Prop) : Prop where
  call : ∀ i a, K a.part → (n.ask i a (b.call a)).Tracks Recorded.world S (b.call a)
  interrupted : K .waiting →
    (n.ask none .interrupted d.interrupted).Tracks Recorded.world S d.interrupted
  sleep : K .waiting → ∀ time,
    (n.ask none (.sleep time) (d.sleep time)).Tracks Recorded.world S (d.sleep time)
  ended : ∀ call, E call → ∀ w, S w { w with calls := w.calls ++ [n.ended call w.world] }
  begun : B → ∀ note ∈ n.begun, ∀ w, S w { w with calls := w.calls ++ [note w.world] }

/-- The calls with notes do what those without them do. -/
def Faithful (n : Watch κ σ ν) (b : Bench κ σ) (d : Drive κ σ) : Prop :=
  n.Keeps b d (fun _ => True) (fun _ => True) True (Same fun _ => ())

lemma Faithful.of_over {n : Watch κ σ ν} {b : Bench κ σ} {d : Drive κ σ}
    (call : ∀ i a, (n.ask i a (b.call a)).Over Recorded.world (b.call a))
    (interrupted : (n.ask none .interrupted d.interrupted).Over Recorded.world d.interrupted)
    (sleep : ∀ time,
      (n.ask none (.sleep time) (d.sleep time)).Over Recorded.world (d.sleep time)) :
    n.Faithful b d where
  call i a _ := (call i a).tracks
  interrupted _ := interrupted.tracks
  sleep _ time := (sleep time).tracks
  ended _ _ _ := rfl
  begun _ _ _ _ := rfl

namespace Keeps

variable {n : Watch κ σ ν} {b : Bench κ σ} {d : Drive κ σ} {K : Part → Prop}
  {E : Subject.Call → Prop} {B : Prop} {S : Recorded ν σ → Recorded ν σ → Prop}
  (h : n.Keeps b d K E B S)
include h

lemma tracks (i : Option Nat) : (b.watched n i).Tracks Recorded.world S K b :=
  Bench.watched_tracks (h.call i)

variable {γ : Type} {f : Bench.State → γ}

lemma ended_frame {call : Subject.Call} (hE : E call) (w : Bench.World (Recorded ν σ)) :
    Frame f S w (Bench.noting (n.ended call) w) := ⟨rfl, h.ended call hE w.outside⟩

lemma interrupted_tracks (hw : K .waiting) :
    (b.watchedRunner n d).interrupted.Tracks (Bench.World.map Recorded.world) (Frame f S)
      (b.driven d).interrupted :=
  Bench.asking_tracks (h.interrupted hw)

lemma sleep_tracks (hw : K .waiting) (time : Duration) :
    ((b.watchedRunner n d).sleep time).Tracks (Bench.World.map Recorded.world) (Frame f S)
      ((b.driven d).sleep time) :=
  Bench.asking_tracks (h.sleep hw time)

variable [IsPreorder (Recorded ν σ) S]

lemma ended_tracks {x' : Act κ (Bench.World (Recorded ν σ)) α} {x : Act κ (Bench.World σ) α}
    (hx : x'.Tracks (Bench.World.map Recorded.world) (Frame f S) x) {step : Subject.Step}
    {ending : Outcome κ α → Subject.Ending} (hE : ∀ e, E ⟨step, e⟩) :
    (x'.noted fun out => Bench.noting (n.ended ⟨step, ending out⟩)).Tracks
      (Bench.World.map Recorded.world) (Frame f S) x :=
  hx.noted (fun _ _ => rfl) fun out w => h.ended_frame (hE (ending out)) w

lemma tryEnded_tracks {x' : Try κ (Bench.World (Recorded ν σ)) RunError Unit}
    {x : Try κ (Bench.World σ) RunError Unit}
    (hx : Try.Tracks (Bench.World.map Recorded.world) (Frame f S) x' x) {step : Subject.Step}
    (hE : ∀ e, E ⟨step, e⟩) :
    Try.Tracks (Bench.World.map Recorded.world) (Frame f S)
      (Try.noted (fun out => Bench.noting (n.ended ⟨step, .ofTry out⟩)) x') x :=
  h.ended_tracks hx hE

lemma setUp_tracks (hl : K .launcher) (hw : K .waiting) (hd : K .desktop) (hf : K .directories)
    (hp : K .preload) (hE : ∀ e, E ⟨.setUp, e⟩)
    (hs : ∀ s launched savedPreload temporary,
      f { s with launched, savedPreload, temporary } = f s) :
    Try.Tracks (Bench.World.map Recorded.world) (Frame f S) (b.watchedRunner n d).subject.setUp
      b.setUp :=
  h.tryEnded_tracks ((h.tracks none).setUp_tracks hl hw hd hf hp hs) hE

lemma prepare_tracks (ht : K .tracer) (hp : K .prefetch) {i : Nat}
    (hE : ∀ e, E ⟨.prepare i, e⟩)
    (hs : ∀ s tracing kernelFile, f { s with tracing, kernelFile } = f s) :
    Try.Tracks (Bench.World.map Recorded.world) (Frame f S)
      ((b.watchedRunner n d).subject.prepare i) b.prepare :=
  h.tryEnded_tracks ((h.tracks none).prepare_tracks ht hp hs) hE

lemma launch_tracks (hl : K .launcher) (hE : ∀ e, E ⟨.launch, e⟩)
    (hs : ∀ s launched, f { s with launched } = f s) :
    Try.Tracks (Bench.World.map Recorded.world) (Frame f S) (b.watchedRunner n d).subject.launch
      b.launch :=
  h.tryEnded_tracks ((h.tracks none).launch_tracks hl hs) hE

lemma isRunning_tracks (hd : K .desktop) (hE : ∀ e, E ⟨.isRunning, e⟩) :
    (b.watchedRunner n d).subject.isRunning.Tracks (Bench.World.map Recorded.world) (Frame f S)
      b.subject.isRunning :=
  h.ended_tracks (Bench.asking_tracks ((h.tracks none).isRunning_tracks hd)) hE

lemma work_tracks (hw : K .waiting) {i : Nat} (hE : ∀ e, E ⟨.work i, e⟩) :
    Try.Tracks (Bench.World.map Recorded.world) (Frame f S)
      ((b.watchedRunner n d).subject.work i) (b.subject.work i) :=
  h.tryEnded_tracks (Bench.trying_tracks ((h.tracks (some i)).work_tracks hw)) hE

lemma shutDown_tracks (hd : K .desktop) (hE : ∀ e, E ⟨.shutDown, e⟩)
    (hs : ∀ s launched, f { s with launched } = f s) :
    Try.Tracks (Bench.World.map Recorded.world) (Frame f S)
      (b.watchedRunner n d).subject.shutDown b.shutDown :=
  h.tryEnded_tracks ((h.tracks none).shutDown_tracks hd hs) hE

lemma conclude_tracks (ht : K .tracer) (ha : K .analyzer) (hp : K .prefetch) {i : Nat}
    (hE : ∀ e, E ⟨.conclude i, e⟩)
    (hs : ∀ s tracing kernelFile ledger, f { s with tracing, kernelFile, ledger } = f s) :
    Try.Tracks (Bench.World.map Recorded.world) (Frame f S)
      ((b.watchedRunner n d).subject.conclude i) b.conclude :=
  h.tryEnded_tracks ((h.tracks (some i)).conclude_tracks ht ha hp hs) hE

lemma processResults_tracks (ho : K .output) (hE : ∀ e, E ⟨.processResults, e⟩) :
    Try.Tracks (Bench.World.map Recorded.world) (Frame f S)
      (b.watchedRunner n d).subject.processResults b.processResults :=
  h.tryEnded_tracks ((h.tracks none).processResults_tracks ho) hE

/-- The tear-down may have a note at its beginning, which comes before the first of its calls. -/
lemma tearDown_tracks (ht : K .tracer) (hd : K .desktop) (hp : K .preload) (hf : K .directories)
    (hB : B) (hE : ∀ e, E ⟨.tearDown, e⟩)
    (hs : ∀ s tracing launched savedPreload temporary,
      f { s with tracing, launched, savedPreload, temporary } = f s) :
    (b.watchedRunner n d).subject.tearDown.Tracks (Bench.World.map Recorded.world) (Frame f S)
      b.tearDown := by
  have torn := (h.tracks none).tearDown_tracks (f := f) ht hd hp hf hs
  refine h.ended_tracks ?_ hE
  cases hbegun : n.begun with
  | none => exact torn
  | some note =>
    have noted : ∀ w, Frame f S w (Bench.noting note w) :=
      fun w => ⟨rfl, h.begun hB note hbegun w.outside⟩
    refine ⟨fun w => torn.toOver (Bench.noting note w), ?_⟩
    exact Act.Respects.bind (Act.Respects.update noted) fun _ => torn.respects

end Keeps

end Watch

namespace Bench

variable {κ σ ν : Type} {b : Bench κ σ} {n : Watch κ σ ν} {d : Drive κ σ}

/-! ## Notes change nothing -/

/-- The run without notes is the part of the run that leaves the notes away (`Runner.Over`). -/
lemma watchedRunner_over (h : n.Faithful b d) :
    (b.watchedRunner n d).Over (World.map Recorded.world) (b.driven d) := by
  -- Nothing in particular of the state is left alone.
  let f : State → Unit := fun _ => ()
  exact
    { iterations := rfl
      patience := rfl
      interrupted := (h.interrupted_tracks (f := f) trivial).toOver
      sleep := fun time => (h.sleep_tracks (f := f) trivial time).toOver
      setUp := (h.setUp_tracks (f := f) trivial trivial trivial trivial trivial
        (fun _ => trivial) fun _ _ _ _ => rfl).toOver
      prepare := fun i => (h.prepare_tracks (f := f) trivial trivial (fun _ => trivial)
        fun _ _ _ => rfl).toOver
      launch := (h.launch_tracks (f := f) trivial (fun _ => trivial) fun _ _ => rfl).toOver
      isRunning := (h.isRunning_tracks (f := f) trivial fun _ => trivial).toOver
      work := fun i => (h.work_tracks (f := f) trivial fun _ => trivial).toOver
      shutDown := (h.shutDown_tracks (f := f) trivial (fun _ => trivial) fun _ _ => rfl).toOver
      conclude := fun i => (h.conclude_tracks (f := f) trivial trivial trivial
        (fun _ => trivial) fun _ _ _ _ => rfl).toOver
      processResults := (h.processResults_tracks (f := f) trivial fun _ => trivial).toOver
      tearDown := (h.tearDown_tracks (f := f) trivial trivial trivial trivial trivial
        (fun _ => trivial) fun _ _ _ _ _ => rfl).toOver }

section Lives

variable (h : n.Faithful b d) (progress : Option Progress) (w : σ)
include h

lemma watchedLife_outcome :
    (b.watchedLife n d progress w).outcome = (b.life d progress w).outcome :=
  (watchedRunner_over h).life_over.outcome_eq (.fresh progress ⟨{}, ⟨[], w⟩⟩)

lemma watchedLife_world :
    (b.watchedLife n d progress w).world.map (World.map Recorded.world) =
      (b.life d progress w).world :=
  (watchedRunner_over h).life_over.world_eq (.fresh progress ⟨{}, ⟨[], w⟩⟩)

lemma watchedLife_state :
    (b.watchedLife n d progress w).world.subject.state =
      (b.life d progress w).world.subject.state :=
  congrArg (fun w => w.subject.state) (watchedLife_world h progress w)

lemma watchedLife_outside :
    (b.watchedLife n d progress w).world.subject.outside.world =
      (b.life d progress w).world.subject.outside :=
  congrArg (fun w => w.subject.outside) (watchedLife_world h progress w)

end Lives

/-! ## A benchmark to look at -/

/-- A benchmark in which nothing goes wrong but what the metrics make go wrong; they are the same in
every iteration.  Its world is the preload setting. -/
def sample (metrics : List Metric) : Bench Empty PreloadState where
  settings := { exe := "chrome", profile := "profile", preload := { enabled := true } }
  browser :=
    { family := .chromium
      exe := "chrome"
      desktop :=
        { findWindow := fun _ => pure (some ⟨1⟩)
          windowOwner := fun _ => pure (⟨1⟩, ⟨1⟩)
          threadWindows := fun _ => pure []
          className := fun _ => pure none
          openProcess := fun pid => pure ⟨1, pid⟩
          postQuit := fun _ _ => pure ()
          waitForExit := fun _ _ => pure .exited
          exitCode := fun _ => pure (some 0)
          closeProcess := fun _ => pure () }
      preload := .memory }
  launcher := { launch := fun _ => pure (), run := fun _ => pure (some 0) }
  tracer := { start := fun directory => pure (some (.inDirectory directory)), stop := pure () }
  analyzer := { analyze := fun _ _ => pure metrics }
  files :=
    { isFile := fun _ => pure true
      isDirectory := fun _ => pure true
      removeDirectory := fun _ => pure ()
      list := fun _ => pure []
      removeFile := fun _ => pure ()
      makeTemporary := fun stem => pure ⟨stem⟩
      write := fun _ _ => pure () }
  output := { write := fun _ => pure (), flush := pure () }
  settle _ := pure false
  interrupted := pure false
  sleep _ := pure ()

/-- A run of one iteration that nobody interrupts, for `sample`. -/
def once : Drive Empty PreloadState where
  iterations := 1
  interrupted := pure false
  sleep _ := pure ()

end Bench

end StartupBench
