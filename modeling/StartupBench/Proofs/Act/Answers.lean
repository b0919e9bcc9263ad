import StartupBench.Proofs.Act.Recorded

/-!
# Computations that answer

`Act.Yields` leaves open how a computation ends.  `Act.Answers x w a w₁` says that `x`, run from the
world `w`, comes back with the answer `a` and leaves the world `w₁`.  It is what a witness needs,
and every theorem about a purge of files or a wait whose exact answer is known.

A computation in two parts answers through its parts (`Act.answers_bind_iff`), and so do
computations one after the other (`Act.answers_each_cons_iff`).  Both are equivalences, so that an
answer can be taken apart as well as put together.  `Act.Answers.yields` and `Act.Answers.inherited`
lead over to the two other ways to speak of a computation: what it yields, and what it does on a
richer world.
-/

namespace StartupBench

namespace Act

variable {κ σ τ ε α β : Type}

/-- Run from `w`, the computation `x` comes back with the answer `a` and leaves the world `w₁`; it
neither panics nor stops. -/
def Answers (x : Act κ σ α) (w : σ) (a : α) (w₁ : σ) : Prop :=
  (x w).outcome = .returned a ∧ (x w).world = w₁

lemma answers_pure (a : α) (w : σ) : (pure a : Act κ σ α).Answers w a w := ⟨rfl, rfl⟩

lemma answers_pure_iff {a b : α} {w w₁ : σ} :
    (pure a : Act κ σ α).Answers w b w₁ ↔ a = b ∧ w = w₁ := by
  simp [Answers, pure_run]

lemma answers_bind_iff {x : Act κ σ α} {f : α → Act κ σ β} {w w₂ : σ} {b : β} :
    (x >>= f).Answers w b w₂ ↔ ∃ a w₁, x.Answers w a w₁ ∧ (f a).Answers w₁ b w₂ := by
  unfold Answers
  rw [bind_run]
  rcases x w with ⟨a | m | k, w₁, n₁⟩
  · constructor
    · exact fun h => ⟨a, w₁, ⟨rfl, rfl⟩, h⟩
    · rintro ⟨_, _, ⟨⟨⟩, rfl⟩, h⟩
      exact h
  · simp
  · simp

namespace Answers

variable {x : Act κ σ α} {w w₁ w₂ : σ} {a : α}

lemma bind {f : α → Act κ σ β} {b : β} (hx : x.Answers w a w₁) (hf : (f a).Answers w₁ b w₂) :
    (x >>= f).Answers w b w₂ := answers_bind_iff.2 ⟨a, w₁, hx, hf⟩

/-- After an answer of `x` what is left of `x >>= f` is `f a`, run from the world that `x` left:
outcome and world are the same. -/
lemma run_bind (hx : x.Answers w a w₁) (f : α → Act κ σ β) :
    ((x >>= f) w).outcome = (f a w₁).outcome ∧ ((x >>= f) w).world = (f a w₁).world := by
  obtain ⟨out, rfl⟩ := hx
  rw [bind_run]
  rcases hr : x w with ⟨b | m | k, w₂, n₂⟩ <;> rw [hr] at out <;> cases out
  exact ⟨rfl, rfl⟩

lemma map {f : α → β} (hx : x.Answers w a w₁) : (f <$> x).Answers w (f a) w₁ := by
  rw [map_eq_pure_bind]
  exact hx.bind (answers_pure _ _)

lemma catching (hx : x.Answers w a w₁) : x.catching.Answers w (.ok a) w₁ := by
  unfold Answers Act.catching at *
  rcases hr : x w with ⟨b | m | k, w₂, n₂⟩ <;> rw [hr] at hx <;> simp_all

lemma unrecorded (h : x.Answers w a w₁) (calls : List ε) :
    x.unrecorded.Answers ⟨calls, w⟩ a ⟨calls, w₁⟩ := by
  obtain ⟨out, rfl⟩ := h
  exact ⟨out, rfl⟩

lemma recorded (h : x.Answers w a w₁) (event : Outcome κ α → ε) (calls : List ε) :
    (x.recorded event).Answers ⟨calls, w⟩ a ⟨calls ++ [event (.returned a)], w₁⟩ := by
  obtain ⟨out, rfl⟩ := h
  refine ⟨out, ?_⟩
  rw [← out]
  rfl

/-- What a computation yields (`Act.Yields`) holds of its answer, if it is known to have one. -/
lemma yields (h : x.Answers w a w₁) {R : α → σ → Prop} {P : String → σ → Prop}
    (hx : x.Yields w R P) : R a w₁ := h.2 ▸ hx.of_returned h.1

/-- A computation that is `Act.Over` one that answers answers the same on the richer world, and
leaves a world that `π` takes to the one left before. -/
lemma inherited {π : τ → σ} {x' : Act κ τ α} (hx : x'.Over π x) {w : τ}
    (h : x.Answers (π w) a w₁) : ∃ w₁', x'.Answers w a w₁' ∧ π w₁' = w₁ :=
  ⟨(x' w).world, ⟨(hx.outcome_eq w).trans h.1, rfl⟩, (hx.world_eq w).trans h.2⟩

end Answers

/-! ## One after the other -/

lemma answers_each_nil_iff {f : α → Act κ σ β} {w w₁ : σ} {bs : List β} :
    (each f []).Answers w bs w₁ ↔ bs = [] ∧ w = w₁ := by
  rw [each_nil, answers_pure_iff, eq_comm]

lemma answers_each_cons_iff {f : α → Act κ σ β} {a : α} {rest : List α} {w w₂ : σ}
    {bs : List β} :
    (each f (a :: rest)).Answers w bs w₂ ↔ ∃ b bs' w₁, bs = b :: bs' ∧
      (f a).Answers w b w₁ ∧ (each f rest).Answers w₁ bs' w₂ := by
  rw [each_cons]
  simp only [answers_bind_iff, answers_pure_iff]
  constructor
  · rintro ⟨b, w₁, first, bs', _, later, rfl, rfl⟩
    exact ⟨b, bs', w₁, rfl, first, later⟩
  · rintro ⟨b, bs', w₁, rfl, first, later⟩
    exact ⟨b, w₁, first, bs', w₂, later, rfl, rfl⟩

end Act

lemma Try.answers_step {κ σ ε α : Type} {g : σ → Except ε α × σ} {w w₁ : σ} {a : Except ε α}
    (h : g w = (a, w₁)) : (Try.step g : Try κ σ ε α).run.Answers w a w₁ :=
  ⟨congrArg Outcome.returned (congrArg Prod.fst h), congrArg Prod.snd h⟩

end StartupBench
