import StartupBench.Proofs.Bench.Chronicle

/-!
# Traces are started and stopped in turn

An iteration starts a trace, stops it and has it analyzed.  Whatever goes wrong, and wherever, the
calls of the tracer and the analyzer in a run are those of the completed iterations, one after the
other (`TraceCall.wholes`), and after them what a broken iteration leaves at most
(`TraceCall.Partial`): a trace that was started is stopped once, and only a trace that was stopped
is analyzed, under the name that its own start gave.

## The invariant

Two fields of the state carry this from one step of the run to the next: whether a trace is being
captured, and which file is to be analyzed (`Bench.Capturing`).  Between iterations nothing is being
captured (`Bench.Idle`).  The tear-down stops what is still being captured
(`Bench.stopTrace_releases`), and the flag is taken back before the tracer is asked, so that a panic
of the tracer does not lead to a second stop.

Most steps of an iteration have nothing to do with traces and are stretches in which nothing happens
to them (`Bench.Untraced`).  `Bench.bracketOutline` puts the steps together, and
`Bench.traces_in_turn` is what it comes to at the end of the life of a run.  A run whose process is
aborted is not torn down, and may leave a trace behind that is still being captured; all else that
is said of traces is so of it, too.
-/

namespace StartupBench.Bench

variable {κ σ : Type}

/-! ## Calls about traces -/

/-- What happens to traces in a run: calls of the tracer and the analyzer, and the ends of completed
iterations. -/
inductive TraceCall where
  /-- A trace is started.  If it was, the kernel file is answered, if there is one. -/
  | start (kernel : Option (Option Path))
  | stop (done : Bool)
  | analyze (kernel : Path)
  | completed (iteration : Nat)
  deriving DecidableEq, Repr

/-- What happens to traces, if it is about them. -/
def Happening.trace? : Happening κ → Option TraceCall
  | .asked (.startTrace _) out => some (.start (out.value?.map fun files => files.map (·.kernel)))
  | .asked .stopTrace out => some (.stop out.value?.isSome)
  | .asked (.analyze file _) _ => some (.analyze file)
  | .ended ⟨.conclude i, .done⟩ => some (.completed i)
  | _ => none

/-- What happens to traces in a chronicle, in order. -/
def traceCalls (moments : List (Moment κ σ)) : List TraceCall :=
  moments.filterMap fun m => m.happening.trace?

namespace TraceCall

/-- A completed iteration with its kernel file, which is analyzed if the start has given one. -/
def whole (iteration : Nat) (kernel : Option Path) : List TraceCall :=
  [.start (some kernel), .stop true] ++ kernel.toList.map .analyze ++ [.completed iteration]

/-- The completed iterations from the first on, each a `whole` with its own kernel file. -/
def wholes (kernels : List (Option Path)) : List TraceCall :=
  kernels.zipIdx.flatMap fun p => whole p.2 p.1

/-- What an iteration that is not completed leaves: nothing, a start that failed, or a trace that
was stopped and perhaps analyzed. -/
inductive Partial : List TraceCall → Prop
  | nothing : Partial []
  | notStarted : Partial [.start none]
  | stopped (kernel : Option Path) (done : Bool) : Partial [.start (some kernel), .stop done]
  | analyzed (kernel : Path) :
      Partial [.start (some (some kernel)), .stop true, .analyze kernel]

end TraceCall

open TraceCall (whole wholes)

lemma traceCalls_append (moments more : List (Moment κ σ)) :
    traceCalls (moments ++ more) = traceCalls moments ++ traceCalls more :=
  List.filterMap_append

/-- Nothing happens to traces (`Happening.trace?`). -/
abbrev Traceless (h : Happening κ) : Prop := h.trace? = none

lemma traceCalls_of_since {S : σ → σ → Prop} {w w₁ : Chronicled κ σ}
    (h : Since Traceless S w w₁) : traceCalls w₁.calls = traceCalls w.calls := by
  obtain ⟨-, more, hcalls, hmore⟩ := h
  have hnone : traceCalls more = [] := List.filterMap_eq_nil_iff.2 fun m hm => (hmore m hm).1
  rw [hcalls, traceCalls_append, hnone, List.append_nil]

/-- A step that neither writes what the state knows of traces nor does anything to them. -/
abbrev Untraced : World (Chronicled κ σ) → World (Chronicled κ σ) → Prop :=
  Frame (fun s => (s.tracing, s.kernelFile)) (Since Traceless (Same fun _ => ()))

/-- The parts that have nothing to do with traces: all but `Part.tracer` and `Part.analyzer`. -/
abbrev Part.Traceless (p : Part) : Prop := p ≠ .tracer ∧ p ≠ .analyzer

/-- No trace is being captured, and so many iterations are complete: the calls so far are `wholes`.
-/
def Idle (k : Nat) (w : World (Chronicled κ σ)) : Prop :=
  w.state.tracing = false ∧
    ∃ kernels, kernels.length = k ∧ traceCalls w.outside.calls = wholes kernels

/-- A trace is being captured after so many complete iterations, and the state knows the kernel file
of its start. -/
def Capturing (k : Nat) (w : World (Chronicled κ σ)) : Prop :=
  w.state.tracing = true ∧ ∃ kernels, kernels.length = k ∧
    traceCalls w.outside.calls = wholes kernels ++ [.start (some w.state.kernelFile)]

/-- Nothing is left to be done about traces after so many complete iterations and at most one that
broke off (`Partial`). -/
def Released (k : Nat) (w : World (Chronicled κ σ)) : Prop :=
  w.state.tracing = false ∧ ∃ kernels last, kernels.length = k ∧
    traceCalls w.outside.calls = wholes kernels ++ last ∧ TraceCall.Partial last

/-- What a step that breaks off leaves: a trace that the tear-down has still to stop (`Capturing`),
or nothing (`Released`). -/
def BrokenOff (k : Nat) (w : World (Chronicled κ σ)) : Prop := Capturing k w ∨ Released k w

section Frames

variable {k : Nat} {w w₁ : World (Chronicled κ σ)}

lemma Idle.frame (h : Idle k w) (hw : Untraced w w₁) : Idle k w₁ := by
  have htracing : w₁.state.tracing = w.state.tracing := congrArg Prod.fst hw.1
  unfold Idle
  rw [htracing, traceCalls_of_since hw.2]
  exact h

lemma Capturing.frame (h : Capturing k w) (hw : Untraced w w₁) : Capturing k w₁ := by
  have htracing : w₁.state.tracing = w.state.tracing := congrArg Prod.fst hw.1
  have hkernel : w₁.state.kernelFile = w.state.kernelFile := congrArg Prod.snd hw.1
  unfold Capturing
  rw [htracing, hkernel, traceCalls_of_since hw.2]
  exact h

lemma Released.frame (h : Released k w) (hw : Untraced w w₁) : Released k w₁ := by
  have htracing : w₁.state.tracing = w.state.tracing := congrArg Prod.fst hw.1
  unfold Released
  rw [htracing, traceCalls_of_since hw.2]
  exact h

lemma BrokenOff.frame (h : BrokenOff k w) (hw : Untraced w w₁) : BrokenOff k w₁ :=
  h.imp (fun hc => hc.frame hw) fun hr => hr.frame hw

end Frames

/-! ## The pieces of an iteration -/

section Pieces

variable (b : Bench κ σ) {k : Nat} {w : World (Chronicled κ σ)}

/-- The iteration is complete but for what is still to be purged: its trace was stopped, and
analyzed if it has a file. -/
def Analyzed (k : Nat) (w : World (Chronicled κ σ)) : Prop :=
  w.state.tracing = false ∧ ∃ kernels last, kernels.length = k ∧
    traceCalls w.outside.calls = wholes kernels ++ last ∧ TraceCall.Partial last ∧
    ∃ kernel, last ++ [.completed k] = whole k kernel

lemma Analyzed.frame {w₁ : World (Chronicled κ σ)} (h : Analyzed k w) (hw : Untraced w w₁) :
    Analyzed k w₁ := by
  have htracing : w₁.state.tracing = w.state.tracing := congrArg Prod.fst hw.1
  unfold Analyzed
  rw [htracing, traceCalls_of_since hw.2]
  exact h

/-- A trace that is being captured is stopped, whatever comes of it: its calls are then a start and
a stop after the complete iterations. -/
lemma Capturing.stop (h : Capturing k w) (out : Outcome κ (Except RunError Unit)) (s : σ) :
    ∃ kernels, kernels.length = k ∧
      traceCalls (w.outside.calls ++ [⟨.asked .stopTrace out, s⟩]) =
        wholes kernels ++ [.start (some w.state.kernelFile), .stop out.value?.isSome] := by
  obtain ⟨-, kernels, hlength, hcalls⟩ := h
  refine ⟨kernels, hlength, ?_⟩
  rw [traceCalls_append, hcalls, List.append_assoc]
  rfl

lemma Capturing.stopped (h : Capturing k w) (out : Outcome κ (Except RunError Unit)) (s : σ) :
    Released k ⟨{ w.state with tracing := false },
      ⟨w.outside.calls ++ [⟨.asked .stopTrace out, s⟩], s⟩⟩ := by
  obtain ⟨kernels, hlength, hcalls⟩ := h.stop out s
  exact ⟨rfl, kernels, _, hlength, hcalls, .stopped _ _⟩

end Pieces

/-! ## The run -/

/-- So many iterations are complete at the end of a `Runner.Course`, as far as the course tells. -/
def Counted (iterations : Nat) : Runner.Course → Nat → Prop
  | .brokenOff completed _ => fun k => k = completed
  | .finished => fun k => k = iterations
  | _ => fun _ => True

/-- What is so of traces when nothing is left but to tear down. -/
def WindingUp (iterations : Nat) (c : Runner.Course) (w : World (Chronicled κ σ)) : Prop :=
  ∃ k, Counted iterations c k ∧ BrokenOff k w

section Run

variable (b : Bench κ σ) (d : Drive κ σ) {k : Nat} {w : World (Chronicled κ σ)}

/-- A step of an iteration that has nothing to do with traces (`Untraced`) leaves the trace as it
is. -/
lemma Capturing.step {n : Nat} {x : Try κ (World (Chronicled κ σ)) RunError Unit}
    (h : Capturing k w) (hx : Try.Respects Untraced x) :
    Try.Yields x w (fun _ => Capturing k) (fun e => WindingUp n (.brokenOff k e))
      (fun m => WindingUp n (.wrecked m)) fun _ w₁ => ∃ k, BrokenOff k w₁ :=
  (hx.yields w).imp (fun _ _ hw => h.frame hw) (fun _ _ hw => ⟨k, rfl, .inl (h.frame hw)⟩)
    (fun _ _ hw => ⟨k, trivial, .inl (h.frame hw)⟩) fun _ _ hw => ⟨k, .inl (h.frame hw)⟩

end Run

end StartupBench.Bench
