import StartupBench.Proofs.Act.Respects

/-!
# Keeping a record of calls

To say which calls a computation makes, and in which order, its collaborators are made to keep a
record: `Act.noted` makes a note in the world of how a computation ended, and `Act.recorded` puts it
at the end of a list of calls beside the world (`Recorded`).

A record must not change what is recorded.  `Act.Over π x' x` says that `x'` does on a richer world
what `x` does on the part of it that `π` reads: the same answer, the same notices and the same world
after it.  The rules for `Over` follow the shape of a computation like those for `Act.Respects`.
-/

namespace StartupBench

/-- A world of type `σ` and the calls of type `ε` that were made on it, in the order in which they
ended. -/
structure Recorded (ε σ : Type) where
  calls : List ε := []
  world : σ

/-- The record `w₁` continues `w`, and all calls that it has beyond those of `w` are in `C`. -/
def Recorded.Adds {ε σ : Type} (C : ε → Prop) (w w₁ : Recorded ε σ) : Prop :=
  ∃ l, w₁.calls = w.calls ++ l ∧ ∀ c ∈ l, C c

instance {ε σ : Type} (C : ε → Prop) : IsPreorder (Recorded ε σ) (Recorded.Adds C) where
  refl w := ⟨[], by simp⟩
  trans w w₁ w₂ := by
    rintro ⟨l, hl, hC⟩ ⟨l₁, hl₁, hC₁⟩
    refine ⟨l ++ l₁, by rw [hl₁, hl, List.append_assoc], fun c hc => ?_⟩
    exact (List.mem_append.1 hc).elim (hC c) (hC₁ c)

/-- The answer, if the computation came back with one; `none` after a panic and for a computation
that stopped. -/
def Outcome.answer? {κ α : Type} : Outcome κ α → Option α
  | .returned a => some a
  | _ => none

/-- The answer, if there is one and it is not an error: `Outcome.answer?` for computations in `Try`.
-/
def Outcome.value? {κ ε α : Type} : Outcome κ (Except ε α) → Option α
  | .returned (.ok a) => some a
  | _ => none

lemma Outcome.value?_eq_some {κ ε α : Type} {out : Outcome κ (Except ε α)} {a : α} :
    out.value? = some a ↔ out = .returned (.ok a) := by
  cases out with
  | returned r => cases r <;> simp [value?]
  | panicked m => simp [value?]
  | stopped k => simp [value?]

namespace Act

variable {κ σ τ ε α β : Type}

/-! ## Notes -/

/-- Do what `x` does and then change the world by `note`, which is told how `x` ended.  The note is
made after a panic, too. -/
def noted (note : Outcome κ α → σ → σ) (x : Act κ σ α) : Act κ σ α := fun w =>
  let r := x w
  { r with world := note r.outcome r.world }

/-- The computation `x` on a world of which a record is kept.  It is not recorded itself:
`Recorded.calls` stays as it is. -/
def unrecorded (x : Act κ σ α) : Act κ (Recorded ε σ) α :=
  x.within Recorded.world fun s w => { w with world := s }

/-- The computation `x` on a world of which a record is kept, with `event out` at the end of the
record, where `out` is how it ended. -/
def recorded (event : Outcome κ α → ε) (x : Act κ σ α) : Act κ (Recorded ε σ) α :=
  x.unrecorded.noted fun out w => { w with calls := w.calls ++ [event out] }

@[simp] lemma yields_noted {note : Outcome κ α → σ → σ} {x : Act κ σ α} {w : σ}
    {R : α → σ → Prop} {P : String → σ → Prop} {H : Stop κ → σ → Prop} :
    (noted note x).Yields w R P H ↔
      x.Yields w (fun a w₁ => R a (note (.returned a) w₁))
        (fun m w₁ => P m (note (.panicked m) w₁))
        (fun k w₁ => H k (note (.stopped k) w₁)) := by
  unfold Yields noted
  rcases x w with ⟨a | m | k, w₁, n₁⟩ <;> simp

@[simp] lemma yields_unrecorded {x : Act κ σ α} {w : Recorded ε σ}
    {R : α → Recorded ε σ → Prop} {P : String → Recorded ε σ → Prop}
    {H : Stop κ → Recorded ε σ → Prop} :
    (unrecorded x).Yields w R P H ↔
      x.Yields w.world (fun a s => R a ⟨w.calls, s⟩) (fun m s => P m ⟨w.calls, s⟩)
        (fun k s => H k ⟨w.calls, s⟩) := by
  rw [unrecorded, yields_within]

@[simp] lemma yields_recorded {event : Outcome κ α → ε} {x : Act κ σ α} {w : Recorded ε σ}
    {R : α → Recorded ε σ → Prop} {P : String → Recorded ε σ → Prop}
    {H : Stop κ → Recorded ε σ → Prop} :
    (recorded event x).Yields w R P H ↔
      x.Yields w.world (fun a s => R a ⟨w.calls ++ [event (.returned a)], s⟩)
        (fun m s => P m ⟨w.calls ++ [event (.panicked m)], s⟩)
        (fun k s => H k ⟨w.calls ++ [event (.stopped k)], s⟩) := by
  rw [recorded, yields_noted, yields_unrecorded]

lemma Respects.noted {S : σ → σ → Prop} [IsPreorder σ S] {note : Outcome κ α → σ → σ}
    {x : Act κ σ α} (hx : x.Respects S) (h : ∀ out w, S w (note out w)) :
    (x.noted note).Respects S :=
  fun w => IsTrans.trans _ _ _ (hx w) (h _ _)

lemma Respects.unrecorded (C : ε → Prop) (x : Act κ σ α) :
    (x.unrecorded).Respects (Recorded.Adds C) := fun w => ⟨[], by simp [Act.unrecorded, Act.within]⟩

lemma Respects.recorded {C : ε → Prop} {event : Outcome κ α → ε} (x : Act κ σ α)
    (h : ∀ out, C (event out)) : (x.recorded event).Respects (Recorded.Adds C) :=
  (Respects.unrecorded C x).noted fun out w => ⟨[event out], rfl, by simp [h]⟩

/-! ## Richer worlds -/

/-- The computation `x'` does what `x` does on the part of the world that `π` reads: the same
outcome and the same notices, and `π` takes the world it leaves to the one that `x` leaves. -/
def Over (π : τ → σ) (x' : Act κ τ α) (x : Act κ σ α) : Prop :=
  ∀ w, x (π w) = ⟨(x' w).outcome, π (x' w).world, (x' w).notices⟩

namespace Over

variable {π : τ → σ} {x' : Act κ τ α} {x : Act κ σ α}

lemma outcome_eq (h : x'.Over π x) (w : τ) : (x' w).outcome = (x (π w)).outcome := by
  rw [h w]

lemma world_eq (h : x'.Over π x) (w : τ) : π (x' w).world = (x (π w)).world := by
  rw [h w]

/-- What the computation yields (`Act.Yields`) on the part that `π` reads is what it yields on the
richer world. -/
lemma yields (h : x'.Over π x) {w : τ} {R : α → σ → Prop} {P : String → σ → Prop}
    {H : Stop κ → σ → Prop} (hx : x.Yields (π w) R P H) :
    x'.Yields w (fun a w₁ => R a (π w₁)) (fun m w₁ => P m (π w₁)) fun k w₁ => H k (π w₁) := by
  unfold Yields at hx ⊢
  rw [h w] at hx
  rcases hx' : x' w with ⟨a | m | k, w₁, n₁⟩ <;> rw [hx'] at hx <;> exact hx

lemma pure (a : α) : (Pure.pure a : Act κ τ α).Over π (Pure.pure a) := fun _ => rfl

lemma bind {g' : α → Act κ τ β} {g : α → Act κ σ β} (hx : x'.Over π x)
    (hg : ∀ a, (g' a).Over π (g a)) : (x' >>= g').Over π (x >>= g) := by
  intro w
  rw [bind_run, bind_run, hx w]
  rcases x' w with ⟨a | m | k, w₁, n₁⟩
  · dsimp only
    rw [hg a w₁]
  · rfl
  · rfl

/-- `Act.world` answers more on the richer world.  What goes on from there may depend on what the
two worlds have in common. -/
lemma bind_world {g' : τ → Act κ τ β} {g : σ → Act κ σ β}
    (hg : ∀ w, (g (π w)) (π w) = ⟨(g' w w).outcome, π (g' w w).world, (g' w w).notices⟩) :
    (Act.world >>= g').Over π (Act.world >>= g) := by
  intro w
  rw [bind_run, bind_run]
  simp only [Act.world]
  rw [hg w]

lemma update {g' : τ → τ} {g : σ → σ} (h : ∀ w, π (g' w) = g (π w)) :
    (Act.update g' : Act κ τ Unit).Over π (Act.update g) := by
  intro w
  simp only [Act.update, h]

lemma log (level : Log.Level) (component : Log.Component) (message : String)
    (fields : List (String × String)) :
    (Act.log level component message fields : Act κ τ Unit).Over π
      (Act.log level component message fields) := fun _ => rfl

lemma ite {c : Prop} [Decidable c] {y' : Act κ τ α} {y : Act κ σ α} (hx : x'.Over π x)
    (hy : y'.Over π y) : (if c then x' else y').Over π (if c then x else y) := by
  split
  · exact hx
  · exact hy

lemma ensuring {r' : Act κ τ Unit} {r : Act κ σ Unit} (hx : x'.Over π x) (hr : r'.Over π r) :
    (Act.ensuring x' r').Over π (Act.ensuring x r) := by
  intro w
  unfold Act.ensuring
  rw [hx w]
  rcases x' w with ⟨a | m | k, w₁, n₁⟩
  · dsimp only
    rw [hr w₁]
    rcases r' w₁ with ⟨_ | m | k, w₂, n₂⟩ <;> rfl
  · dsimp only
    rw [hr w₁]
    rcases r' w₁ with ⟨_ | m' | k, w₂, n₂⟩ <;> rfl
  · rfl

lemma first {body' : Nat → Act κ τ (Option α)} {body : Nat → Act κ σ (Option α)}
    (h : ∀ i, (body' i).Over π (body i)) (fuel k : Nat) :
    (Act.first body' fuel k).Over π (Act.first body fuel k) := by
  induction fuel generalizing k with
  | zero => exact pure none
  | succ fuel ih =>
    rw [first_succ, first_succ]
    refine (h k).bind fun r => ?_
    cases r with
    | some a => exact pure (some a)
    | none => exact ih (k + 1)

lemma noted {note : Outcome κ α → τ → τ} (hx : x'.Over π x)
    (h : ∀ out w, π (note out w) = π w) : (x'.noted note).Over π x := by
  intro w
  rw [hx w, Act.noted]
  dsimp only
  rw [h]

end Over

/-- A computation on a part of the world (`Act.within`) does there what it does on its own, if what
`put` writes is what `get` reads. -/
lemma within_over {get : τ → σ} {put : σ → τ → τ} (get_put : ∀ s w, get (put s w) = s)
    (x : Act κ σ α) : (x.within get put).Over get x := by
  intro w
  unfold Act.within
  dsimp only
  rw [get_put]

lemma unrecorded_over (x : Act κ σ α) :
    (x.unrecorded : Act κ (Recorded ε σ) α).Over Recorded.world x := fun _ => rfl

/-- A record does not change what is recorded: `Act.recorded` is `Act.Over` the computation itself.
-/
lemma recorded_over (event : Outcome κ α → ε) (x : Act κ σ α) :
    (x.recorded event).Over Recorded.world x := fun _ => rfl

end Act

namespace Try

variable {κ σ τ ε ε' η α β : Type}

/-! ## Computations that may fail -/

/-- `Act.noted` for a computation that may fail: `note` is told of answers, errors and panics alike.
-/
def noted (note : Outcome κ (Except ε α) → σ → σ) (x : Try κ σ ε α) : Try κ σ ε α :=
  ExceptT.mk (x.run.noted note)

/-- `Act.unrecorded` for a computation that may fail: it is run on `Recorded.world`, and the record
stays as it is. -/
def unrecorded (x : Try κ σ ε α) : Try κ (Recorded η σ) ε α := ExceptT.mk (Act.unrecorded x.run)

/-- `Act.recorded` for a computation that may fail, with `event out` at the end of the record. -/
def recorded (event : Outcome κ (Except ε α) → η) (x : Try κ σ ε α) :
    Try κ (Recorded η σ) ε α :=
  ExceptT.mk (x.run.recorded event)

@[simp] lemma yields_noted {note : Outcome κ (Except ε α) → σ → σ} {x : Try κ σ ε α} {w : σ}
    {R : α → σ → Prop} {E : ε → σ → Prop} {P : String → σ → Prop} {H : Stop κ → σ → Prop} :
    Try.Yields (Try.noted note x) w R E P H ↔
      Try.Yields x w (fun a w₁ => R a (note (.returned (.ok a)) w₁))
        (fun e w₁ => E e (note (.returned (.error e)) w₁))
        (fun m w₁ => P m (note (.panicked m) w₁))
        (fun k w₁ => H k (note (.stopped k) w₁)) := by
  rw [Try.noted, yields_mk, Act.yields_noted, yields_run]

@[simp] lemma yields_unrecorded {x : Try κ σ ε α} {w : Recorded η σ}
    {R : α → Recorded η σ → Prop} {E : ε → Recorded η σ → Prop}
    {P : String → Recorded η σ → Prop} {H : Stop κ → Recorded η σ → Prop} :
    Try.Yields (Try.unrecorded x) w R E P H ↔
      Try.Yields x w.world (fun a s => R a ⟨w.calls, s⟩) (fun e s => E e ⟨w.calls, s⟩)
        (fun m s => P m ⟨w.calls, s⟩) (fun k s => H k ⟨w.calls, s⟩) := by
  rw [Try.unrecorded, yields_mk, Act.yields_unrecorded, yields_run]

@[simp] lemma yields_recorded {event : Outcome κ (Except ε α) → η} {x : Try κ σ ε α}
    {w : Recorded η σ} {R : α → Recorded η σ → Prop} {E : ε → Recorded η σ → Prop}
    {P : String → Recorded η σ → Prop} {H : Stop κ → Recorded η σ → Prop} :
    Try.Yields (Try.recorded event x) w R E P H ↔
      Try.Yields x w.world (fun a s => R a ⟨w.calls ++ [event (.returned (.ok a))], s⟩)
        (fun e s => E e ⟨w.calls ++ [event (.returned (.error e))], s⟩)
        (fun m s => P m ⟨w.calls ++ [event (.panicked m)], s⟩)
        (fun k s => H k ⟨w.calls ++ [event (.stopped k)], s⟩) := by
  rw [Try.recorded, yields_mk, Act.yields_recorded, yields_run]

/-- The computation `x'` does what `x` does on the part of the world that `π` reads; errors are the
same as well (`Act.Over`). -/
def Over (π : τ → σ) (x' : Try κ τ ε α) (x : Try κ σ ε α) : Prop := Act.Over π x'.run x.run

namespace Over

variable {π : τ → σ} {x' : Try κ τ ε α} {x : Try κ σ ε α}

/-- What the computation yields (`Try.Yields`) on the part that `π` reads is what it yields on the
richer world. -/
lemma yields (h : Try.Over π x' x) {w : τ} {R : α → σ → Prop} {E : ε → σ → Prop}
    {P : String → σ → Prop} {H : Stop κ → σ → Prop} (hx : Try.Yields x (π w) R E P H) :
    Try.Yields x' w (fun a w₁ => R a (π w₁)) (fun e w₁ => E e (π w₁)) (fun m w₁ => P m (π w₁))
      fun k w₁ => H k (π w₁) := by
  refine (Act.Over.yields h hx).mono (fun r w₁ hr => ?_) fun _ _ hm => hm
  cases r <;> exact hr

lemma pure (a : α) : Try.Over π (Pure.pure a : Try κ τ ε α) (Pure.pure a) := fun _ => rfl

lemma fail (e : ε) : Try.Over π (Try.fail e : Try κ τ ε α) (Try.fail e) := fun _ => rfl

lemma bind {g' : α → Try κ τ ε β} {g : α → Try κ σ ε β} (hx : Try.Over π x' x)
    (hg : ∀ a, Try.Over π (g' a) (g a)) : Try.Over π (x' >>= g') (x >>= g) := by
  unfold Over
  rw [ExceptT.run_bind, ExceptT.run_bind]
  refine Act.Over.bind hx fun r => ?_
  cases r with
  | ok a => exact hg a
  | error e => exact Act.Over.pure _

/-- `Try.world` answers more on the richer world.  What goes on from there may depend on what the
two worlds have in common. -/
lemma bind_world {g' : τ → Try κ τ ε β} {g : σ → Try κ σ ε β}
    (hg : ∀ w, (g (π w)).run (π w) =
      ⟨((g' w).run w).outcome, π ((g' w).run w).world, ((g' w).run w).notices⟩) :
    Try.Over π (Try.world >>= g') (Try.world >>= g) := by
  unfold Over Try.world
  rw [ExceptT.run_bind_lift, ExceptT.run_bind_lift]
  exact Act.Over.bind_world hg

lemma lift {y' : Act κ τ α} {y : Act κ σ α} (h : y'.Over π y) :
    Try.Over π (Try.lift y' : Try κ τ ε α) (Try.lift y) := by
  unfold Over Try.lift
  rw [ExceptT.run_lift, ExceptT.run_lift, map_eq_pure_bind, map_eq_pure_bind]
  exact h.bind fun a => Act.Over.pure _

lemma log (level : Log.Level) (component : Log.Component) (message : String)
    (fields : List (String × String)) :
    Try.Over π (Try.log level component message fields : Try κ τ ε Unit)
      (Try.log level component message fields) :=
  lift (Act.Over.log level component message fields)

lemma attempt (h : Try.Over π x' x) :
    Try.Over π (Try.attempt x' : Try κ τ ε' (Except ε α)) (Try.attempt x) := lift h

lemma mapError {g : ε → ε'} (h : Try.Over π x' x) :
    Try.Over π (Try.mapError g x') (Try.mapError g x) := by
  unfold Over Try.mapError ExceptT.adapt
  rw [ExceptT.run_mk, ExceptT.run_mk, map_eq_pure_bind, map_eq_pure_bind]
  exact Act.Over.bind h fun r => Act.Over.pure _

lemma noted {note : Outcome κ (Except ε α) → τ → τ} (hx : Try.Over π x' x)
    (h : ∀ out w, π (note out w) = π w) : Try.Over π (x'.noted note) x := Act.Over.noted hx h

end Over

lemma unrecorded_over (x : Try κ σ ε α) :
    Try.Over Recorded.world (Try.unrecorded x : Try κ (Recorded η σ) ε α) x :=
  Act.unrecorded_over x.run

end Try

end StartupBench
