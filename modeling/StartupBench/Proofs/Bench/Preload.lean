import StartupBench.Proofs.Bench.Recorded

/-!
# The preload setting is written back

A run reads the preload setting, overrides it and writes it back when it is torn down.  Whatever
goes wrong on the way, the calls of the store are one of three: none at all, a reading without an
answer, or a reading, the override and one store of what was read (`Bench.Settled`).  A run whose
process is aborted is not torn down.  It is left with the setting still to be written back, or
settled (`Bench.Abandoned`), so that its calls are the beginning of one of these.

The invariant is `Bench.Overridden`: from the reading on, the state of the benchmark holds the very
setting that was read.  All pieces but two have a frame that leaves it alone (`Bench.Unrelated`):
the setting is read and overridden while the benchmark is set up (`Bench.overridePreload_yields`),
and it is written back in the tear-down, behind two other steps that may fail
(`Bench.restorePreload_yields`).

`Bench.preloadOutline` follows the run, and `Bench.preload_restored` is the conclusion for its life.
What the store holds in the end is said with `Bench.Holds`, for stores that keep what they are
given.
-/

namespace StartupBench.Bench

open Recorded (Adds)

variable {κ σ : Type}

/-- The call of the preload store that an event is about, if it is about one. -/
def Event.preload? : Event → Option PreloadCall
  | .preload call => some call
  | _ => none

/-- The calls of the preload store in a record, in order. -/
def preloadCalls (events : List Event) : List PreloadCall := events.filterMap Event.preload?

/-- A step that neither writes the saved setting of the state nor calls its store. -/
abbrev Unrelated : World (Recorded Event σ) → World (Recorded Event σ) → Prop :=
  Confined State.savedPreload (· ≠ .preload)

lemma preloadCalls_append (events more : List Event) :
    preloadCalls (events ++ more) = preloadCalls events ++ preloadCalls more :=
  List.filterMap_append

lemma preloadCalls_of_adds {w w₁ : Recorded Event σ}
    (h : Adds (Event.Of (· ≠ .preload)) w w₁) :
    preloadCalls w₁.calls = preloadCalls w.calls := by
  obtain ⟨more, hcalls, hmore⟩ := h
  have hnone : preloadCalls more = [] := by
    refine List.filterMap_eq_nil_iff.2 fun e he => ?_
    cases e with
    | preload call => exact absurd rfl (hmore _ he .preload rfl)
    | _ => rfl
  rw [hcalls, preloadCalls_append, hnone, List.append_nil]

/-! ## What holds of the setting -/

/-- The setting is kept where `held` reads it: to store it changes that, and to remove a directory
does not. -/
structure Holds (b : Bench κ σ) (held : σ → PreloadState) : Prop where
  store : ∀ v w, ((b.browser.preload.store v).run w).outcome = .returned (.ok ()) →
    held ((b.browser.preload.store v).run w).world = v
  removeDirectory : ∀ path, Try.Respects (Same held) (b.files.removeDirectory path)

/-- The setting was not read, or not answered, and it was not overridden; the state holds nothing to
write back. -/
def Untouched (w : World (Recorded Event σ)) : Prop :=
  w.state.savedPreload = none ∧
    (preloadCalls w.outside.calls = [] ∨ preloadCalls w.outside.calls = [.load none])

/-- The setting was read, it is kept in the state, and it was overridden, or that was tried. -/
def Overridden (b : Bench κ σ) (w : World (Recorded Event σ)) : Prop :=
  ∃ v done, w.state.savedPreload = some v ∧
    preloadCalls w.outside.calls = [.load (some v), .store b.settings.preload done]

/-- There is nothing to write back (`Untouched`), or what is to be written back is kept in the state
(`Overridden`). -/
def Restorable (b : Bench κ σ) (w : World (Recorded Event σ)) : Prop :=
  Untouched w ∨ b.Overridden w

/-- The setting was written back if it was read, by the last of its calls, and not touched
otherwise. -/
def Settled (b : Bench κ σ) (w : World (Recorded Event σ)) : Prop :=
  preloadCalls w.outside.calls = [] ∨ preloadCalls w.outside.calls = [.load none] ∨
    ∃ v overridden restored,
      preloadCalls w.outside.calls =
          [.load (some v), .store b.settings.preload overridden, .store v restored] ∧
        ∀ held, b.Holds held → restored = true → held w.outside.world = v

/-- Tearing down has panicked, as the record tells. -/
def TearDownPanicked (w : World (Recorded Event σ)) : Prop :=
  ∃ m, .step ⟨.tearDown, .panicked m⟩ ∈ w.outside.calls

/-- What is so wherever a run is left without coming back: the setting is still to be written back
(`Restorable`), or it was (`Settled`), or tearing down has panicked. -/
def Abandoned (b : Bench κ σ) (w : World (Recorded Event σ)) : Prop :=
  b.Restorable w ∨ b.Settled w ∨ TearDownPanicked w

lemma Untouched.frame {w w₁ : World (Recorded Event σ)} (h : Untouched w)
    (hw : Unrelated w w₁) : Untouched w₁ := by
  unfold Untouched
  rw [hw.1, preloadCalls_of_adds hw.2]
  exact h

lemma Overridden.frame {b : Bench κ σ} {w w₁ : World (Recorded Event σ)}
    (h : b.Overridden w) (hw : Unrelated w w₁) : b.Overridden w₁ := by
  unfold Overridden
  rw [hw.1, preloadCalls_of_adds hw.2]
  exact h

lemma Restorable.frame {b : Bench κ σ} {w w₁ : World (Recorded Event σ)}
    (h : b.Restorable w) (hw : Unrelated w w₁) : b.Restorable w₁ :=
  h.imp (fun hu => hu.frame hw) fun ho => ho.frame hw

lemma Settled.frame {b : Bench κ σ} {w w₁ : World (Recorded Event σ)} (h : b.Settled w)
    (hw : Unrelated w w₁)
    (hheld : ∀ held, b.Holds held → held w₁.outside.world = held w.outside.world) :
    b.Settled w₁ := by
  have same := preloadCalls_of_adds hw.2
  obtain hnone | hunread | ⟨v, overridden, restored, hcalls, hv⟩ := h
  · exact .inl (same.trans hnone)
  · exact .inr (.inl (same.trans hunread))
  · refine .inr (.inr ⟨v, overridden, restored, same.trans hcalls, fun held hholds hdone => ?_⟩)
    rw [hheld held hholds]
    exact hv held hholds hdone

/-- Unless tearing down has panicked, the setting was not read, or the calls of the store begin
those of a run that writes it back. -/
lemma Abandoned.calls {b : Bench κ σ} {w : World (Recorded Event σ)} (h : b.Abandoned w)
    (quiet : ¬TearDownPanicked w) :
    (∀ call ∈ preloadCalls w.outside.calls, call = .load none) ∨
      ∃ v overridden restored, .load (some v) ∈ preloadCalls w.outside.calls ∧
        preloadCalls w.outside.calls <+:
          [.load (some v), .store b.settings.preload overridden, .store v restored] := by
  have unread : preloadCalls w.outside.calls = [] ∨ preloadCalls w.outside.calls = [.load none] →
      ∀ call ∈ preloadCalls w.outside.calls, call = .load none := by
    rintro (hnone | hunread) call hcall
    · rw [hnone] at hcall
      cases hcall
    · rw [hunread] at hcall
      exact List.mem_singleton.1 hcall
  obtain (⟨-, hcalls⟩ | ⟨v, overridden, -, hcalls⟩) | settled | panicked := h
  · exact .inl (unread hcalls)
  · rw [hcalls]
    exact .inr ⟨v, overridden, true, List.mem_cons_self, [.store v true], rfl⟩
  · obtain hnone | hunread | ⟨v, overridden, restored, hcalls, -⟩ := settled
    · exact .inl (unread (.inl hnone))
    · exact .inl (unread (.inr hunread))
    · rw [hcalls]
      exact .inr ⟨v, overridden, restored, List.mem_cons_self, List.prefix_rfl⟩
  · exact absurd panicked quiet

/-- The end of a step is not a call of the store. -/
lemma Abandoned.ended {b : Bench κ σ} {w : World (Recorded Event σ)} (h : b.Abandoned w)
    (call : Subject.Call) : b.Abandoned (noting (fun _ => .step call) w) := by
  obtain restorable | settled | ⟨m, hm⟩ := h
  · exact .inl (restorable.frame (confined_step call w))
  · exact .inr (.inl (settled.frame (confined_step call w) fun _ _ => rfl))
  · exact .inr (.inr ⟨m, List.mem_append_left _ hm⟩)

/-! ## Overriding and restoring -/

section Pieces

variable (b : Bench κ σ) {w : World (Recorded Event σ)}

/-- What was read is written back by `Bench.restorePreload`, by one call of the store; afterwards
all is `Settled`. -/
lemma restorePreload_yields (h : b.Restorable w) :
    (b.recorded none).restorePreload.Yields w (fun _ => b.Settled) (fun _ _ => True)
      fun _ => b.Abandoned := by
  unfold restorePreload stateOf note
  rw [Act.yields_bind, Act.yields_reading, Act.yields_bind, Act.yields_update]
  obtain ⟨hs, hp⟩ | ⟨v, overridden, hs, hp⟩ := h
  · rw [hs]
    exact hp.elim .inl fun hp => .inr (.inl hp)
  · rw [hs]
    have written : ∀ (restored : Bool) (s : σ),
        (∀ held, b.Holds held → restored = true → held s = v) →
        b.Settled ⟨{ w.state with savedPreload := none },
          ⟨w.outside.calls ++ [.preload (.store v restored)], s⟩⟩ := by
      intro restored s hv
      refine .inr (.inr ⟨v, overridden, restored, ?_, hv⟩)
      dsimp only
      rw [preloadCalls_append, hp]
      rfl
    dsimp only
    unfold asking
    rw [Act.yields_bind, Act.yields_within, recorded_store, Try.yields_result, Try.yields_recorded]
    have unwritten : ∀ s, b.Settled ⟨{ w.state with savedPreload := none },
        ⟨w.outside.calls ++ [.preload (.store v false)], s⟩⟩ :=
      fun s => written false s fun _ _ hdone => absurd hdone Bool.false_ne_true
    refine Try.Yields.of_ways (fun _ hout => ?_) (fun e _ => ?_) (fun _ _ => trivial)
      fun _ _ => .inr (.inl (unwritten _))
    · dsimp only
      rw [Act.yields_log]
      exact written true _ fun held hholds _ => hholds.store v _ hout
    · dsimp only
      rw [Act.yields_log]
      exact unwritten _

/-- To leave the temporary directory (`Bench.leaveTemporary`) is to remove a directory at most. -/
lemma leaveTemporary_respects {γ : Type} (held : σ → γ)
    (h : ∀ path, Try.Respects (Same held) (b.files.removeDirectory path)) :
    b.leaveTemporary.Respects (Same fun w => held w.outside) := by
  have forget : (note fun s => { s with temporary := none } : Act κ (World σ) Unit).Respects
      (Same fun w => held w.outside) := fun _ => rfl
  unfold leaveTemporary
  refine (Act.Respects.reading _).bind fun temporary => forget.bind fun _ => ?_
  cases temporary with
  | none => exact Act.Respects.pure ()
  | some path =>
    refine Act.Respects.ite (Act.Respects.log _ _ _ _) ?_
    have removed : (asking (b.files.removeDirectory path).result).Respects
        (Same fun w : World σ => held w.outside) := fun w => h path w.outside
    refine (Act.Respects.log _ _ _ _).bind fun _ => removed.bind fun out => ?_
    cases out with
    | ok _ => exact Act.Respects.pure ()
    | error e => exact Act.Respects.log _ _ _ _

lemma tearDown_yields (h : b.Restorable w) :
    (b.recorded none).tearDown.Yields w (fun _ => b.Settled) (fun _ _ => True)
      fun _ => b.Abandoned := by
  have tracked := b.recorded_tracks none (· ≠ .preload)
  have stop := (tracked.stopTrace_tracks (f := State.savedPreload) nofun fun _ _ => rfl).respects
  have quit := (tracked.quitLaunched_tracks (f := State.savedPreload) nofun fun _ _ => rfl).respects
  have leave := (tracked.leaveTemporary_tracks (f := State.savedPreload) nofun
    fun _ _ => rfl).respects
  have keeps : ∀ held, b.Holds held → (b.recorded none).leaveTemporary.Respects
      (Same fun w => held w.outside.world) := fun held hholds =>
    (b.recorded none).leaveTemporary_respects (fun w => held w.world) fun path w =>
      hholds.removeDirectory path w.world
  unfold tearDown
  rw [Act.yields_bind]
  refine (stop.yields w).imp (fun _ w₁ h₁ => ?_) (fun _ _ _ => trivial)
    fun _ _ h₁ => .inl (h.frame h₁)
  rw [Act.yields_bind]
  refine (quit.yields w₁).imp (fun _ w₂ h₂ => ?_) (fun _ _ _ => trivial)
    fun _ _ h₂ => .inl ((h.frame h₁).frame h₂)
  rw [Act.yields_bind]
  refine (b.restorePreload_yields ((h.frame h₁).frame h₂)).mono (fun _ w₃ h₃ => ?_)
    fun _ _ _ => trivial
  have left := h₃.frame (leave w₃) fun held hholds => keeps held hholds w₃
  exact Act.Yields.of_ways (fun _ _ => left) (fun _ _ => trivial) fun _ _ => .inr (.inl left)

end Pieces

/-! ## The run -/

section Run

variable (b : Bench κ σ) (d : Drive κ σ) {w : World (Recorded Event σ)}

/-- A step of the run that has nothing to do with the preload setting (`Unrelated`) leaves it
overridden. -/
lemma Overridden.step {b : Bench κ σ} {x : Try κ (World (Recorded Event σ)) RunError Unit}
    (h : b.Overridden w) (hx : Try.Respects Unrelated x) :
    Try.Yields x w (fun _ => b.Overridden) (fun _ => b.Restorable) (fun _ => b.Restorable)
      fun _ => b.Abandoned :=
  (hx.yields w).imp (fun _ _ hw => h.frame hw) (fun _ _ hw => .inr (h.frame hw))
    (fun _ _ hw => .inr (h.frame hw)) fun _ _ hw => .inl (.inr (h.frame hw))

end Run

end StartupBench.Bench
