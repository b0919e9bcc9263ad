import StartupBench.Proofs.Act.Panics
import StartupBench.Proofs.Act.Recorded

/-!
# Computations that come back

`Act.Returns x` says that control always comes back from `x`: wherever it is run, it answers or
panics, and it neither stops for a reason of its own nor aborts the process.  Collaborators that may
fail and panic as they like are of this kind, and so is what is put together of them, as long as no
release panics during a panic: the rules for `Act.ensuring` ask for a release that never panics
(`Act.Returns.ensuring`) or for a computation that does not (`Act.Returns.ensuring_of_calm`).

The rules below follow the shape of a computation like those for `Act.Respects`.  They are used
together with `Act.Yields`: `Act.Returns.yields` strengthens what is known of the endings of a
computation by the fact that control comes back, so that the walk along the computation, which says
what holds at each ending, need not be made twice.  A record does not change whether control comes
back (`Act.Returns.recorded`, `Act.Returns.inherited`).
-/

namespace StartupBench

namespace Act

variable {κ σ τ ε α β : Type}

namespace Returns

/-- A computation comes back if something can be said of its endings (`Act.Yields`) that holds of
none where control does not come back. -/
lemma of_yields {x : Act κ σ α} {R : σ → α → σ → Prop} {P : σ → String → σ → Prop}
    (h : ∀ w, x.Yields w (R w) (P w) fun _ _ => False) : x.Returns := by
  intro w k stopped
  have hw := h w
  unfold Yields at hw
  rcases hx : x w with ⟨a | m | k', w₁, n₁⟩ <;> rw [hx] at hw stopped <;> cases stopped
  exact hw

lemma of_returned {x : Act κ σ α} (h : ∀ w, ∃ a, (x w).outcome = .returned a) : x.Returns := by
  intro w k stopped
  obtain ⟨a, returned⟩ := h w
  cases returned.symm.trans stopped

lemma pure (a : α) : (Pure.pure a : Act κ σ α).Returns := of_returned fun _ => ⟨a, rfl⟩

lemma update (f : σ → σ) : (Act.update f : Act κ σ Unit).Returns := of_returned fun _ => ⟨(), rfl⟩

lemma reading (f : σ → α) : (Act.reading f : Act κ σ α).Returns := of_returned fun w => ⟨f w, rfl⟩

lemma world : (Act.world : Act κ σ σ).Returns := of_returned fun w => ⟨w, rfl⟩

lemma log (level : Log.Level) (component : Log.Component) (message : String)
    (fields : List (String × String)) :
    (Act.log level component message fields : Act κ σ Unit).Returns :=
  of_returned fun _ => ⟨(), rfl⟩

lemma panic (message : String) : (Act.panic message : Act κ σ α).Returns :=
  fun _ _ stopped => nomatch stopped

/-- What a computation that comes back yields when nothing is asked of its answers and panics: that
control comes back. -/
lemma anyway {x : Act κ σ α} (hx : x.Returns) (w : σ) :
    x.Yields w (fun _ _ => True) (fun _ _ => True) fun _ _ => False :=
  hx.yields (H := fun _ _ => True) (Yields.anyway (fun _ _ => trivial) fun _ _ => trivial)

lemma bind {x : Act κ σ α} {f : α → Act κ σ β} (hx : x.Returns) (hf : ∀ a, (f a).Returns) :
    (x >>= f).Returns := by
  refine of_yields (R := fun _ _ _ => True) (P := fun _ _ _ => True) fun w => yields_bind.2 ?_
  exact (hx.anyway w).mono (fun a w₁ _ => (hf a).anyway w₁) fun _ _ h => h

lemma ite {c : Prop} [Decidable c] {x y : Act κ σ α} (hx : x.Returns) (hy : y.Returns) :
    (if c then x else y).Returns := by
  split
  · exact hx
  · exact hy

lemma first {body : Nat → Act κ σ (Option α)} (h : ∀ i, (body i).Returns) (fuel k : Nat) :
    (Act.first body fuel k).Returns := by
  induction fuel generalizing k with
  | zero => exact pure none
  | succ fuel ih =>
    rw [first_succ]
    refine (h k).bind fun r => ?_
    cases r with
    | some a => exact pure (some a)
    | none => exact ih (k + 1)

lemma within {get : τ → σ} {put : σ → τ → τ} {x : Act κ σ α} (hx : x.Returns) :
    (x.within get put).Returns := fun w => hx (get w)

/-- Where `x` never panics (`Act.Calm`), no panic of the release can be a second one, and
`Act.ensuring` comes back. -/
lemma ensuring_of_calm {x : Act κ σ α} {release : Act κ σ Unit} (hx : x.Returns) (calm : x.Calm)
    (hr : release.Returns) : (Act.ensuring x release).Returns := by
  refine of_yields (R := fun _ _ _ => True) (P := fun _ _ _ => True) fun w => yields_ensuring.2 ?_
  exact (hx.yields (calm.yields w)).imp
    (fun _ w₁ _ => (hr.anyway w₁).imp (fun _ _ h => h) (fun _ _ h => h) fun _ _ h => h)
    (fun _ _ h => h.elim) fun _ _ h => h

/-- Where the release never panics (`Act.Calm`), it cannot abort the process during a panic of `x`,
and `Act.ensuring` comes back. -/
lemma ensuring {x : Act κ σ α} {release : Act κ σ Unit} (hx : x.Returns) (hr : release.Returns)
    (calm : release.Calm) : (Act.ensuring x release).Returns := by
  have answers (w : σ) : release.Yields w (fun _ _ => True) (fun _ _ => False) fun _ _ => False :=
    hr.yields (calm.yields w)
  refine of_yields (R := fun _ _ _ => True) (P := fun _ _ _ => True) fun w => yields_ensuring.2 ?_
  exact (hx.anyway w).imp
    (fun _ w₁ _ => (answers w₁).imp (fun _ _ h => h) (fun _ _ h => h.elim) fun _ _ h => h)
    (fun _ w₁ _ => (answers w₁).imp (fun _ _ h => h) (fun _ _ h => h) fun _ _ h => h)
    fun _ _ h => h

lemma noted {note : Outcome κ α → σ → σ} {x : Act κ σ α} (hx : x.Returns) :
    (x.noted note).Returns := hx

lemma unrecorded {x : Act κ σ α} (hx : x.Returns) :
    (x.unrecorded : Act κ (Recorded ε σ) α).Returns := hx.within

lemma recorded {event : Outcome κ α → ε} {x : Act κ σ α} (hx : x.Returns) :
    (x.recorded event).Returns := hx.unrecorded.noted

/-- On a richer world (`Act.Over`) the computation comes back as well, since it ends there in the
same way. -/
lemma inherited {π : τ → σ} {x' : Act κ τ α} {x : Act κ σ α} (hx : x.Returns)
    (h : x'.Over π x) : x'.Returns :=
  fun w k stopped => hx (π w) k ((h.outcome_eq w).symm.trans stopped)

end Returns

end Act

namespace Try

variable {κ σ τ ε ε' α β : Type}

/-- The computation always comes back: it answers, fails or panics, and it does not stop. -/
abbrev Returns (x : Try κ σ ε α) : Prop := Act.Returns x.run

namespace Returns

lemma result {x : Try κ σ ε α} (h : Try.Returns x) : x.result.Returns := h

lemma pure (a : α) : Try.Returns (Pure.pure a : Try κ σ ε α) := Act.Returns.pure _

lemma fail (e : ε) : Try.Returns (Try.fail e : Try κ σ ε α) := Act.Returns.pure _

lemma bind {x : Try κ σ ε α} {f : α → Try κ σ ε β} (hx : Try.Returns x)
    (hf : ∀ a, Try.Returns (f a)) : Try.Returns (x >>= f) := by
  unfold Returns
  rw [ExceptT.run_bind]
  refine Act.Returns.bind hx fun r => ?_
  cases r with
  | ok a => exact hf a
  | error e => exact Act.Returns.pure _

lemma ite {c : Prop} [Decidable c] {x y : Try κ σ ε α} (hx : Try.Returns x)
    (hy : Try.Returns y) : Try.Returns (if c then x else y) := by
  split
  · exact hx
  · exact hy

lemma lift {x : Act κ σ α} (h : x.Returns) : Try.Returns (Try.lift x : Try κ σ ε α) := by
  unfold Returns Try.lift
  rw [ExceptT.run_lift, map_eq_pure_bind]
  exact h.bind fun a => Act.Returns.pure _

lemma log (level : Log.Level) (component : Log.Component) (message : String)
    (fields : List (String × String)) :
    Try.Returns (Try.log level component message fields : Try κ σ ε Unit) :=
  lift (Act.Returns.log level component message fields)

lemma attempt {x : Try κ σ ε α} (h : Try.Returns x) :
    Try.Returns (Try.attempt x : Try κ σ ε' (Except ε α)) := lift h

lemma mapError {g : ε → ε'} {x : Try κ σ ε α} (h : Try.Returns x) :
    Try.Returns (Try.mapError g x) := by
  unfold Returns Try.mapError ExceptT.adapt
  rw [ExceptT.run_mk, map_eq_pure_bind]
  exact Act.Returns.bind h fun r => Act.Returns.pure _

lemma within {get : τ → σ} {put : σ → τ → τ} {x : Try κ σ ε α} (h : Try.Returns x) :
    Try.Returns (Try.within get put x) := Act.Returns.within h

lemma unrecorded {η : Type} {x : Try κ σ ε α} (h : Try.Returns x) :
    Try.Returns (Try.unrecorded x : Try κ (Recorded η σ) ε α) := Act.Returns.unrecorded h

lemma recorded {η : Type} {event : Outcome κ (Except ε α) → η} {x : Try κ σ ε α}
    (h : Try.Returns x) : Try.Returns (Try.recorded event x) := Act.Returns.recorded h

end Returns

/-- Nothing has to be said of control not coming back where it does: `H` may be replaced by any `K`,
an empty one included. -/
lemma Returns.yields {x : Try κ σ ε α} (hx : Try.Returns x) {w : σ} {R : α → σ → Prop}
    {E : ε → σ → Prop} {P : String → σ → Prop} {H K : Stop κ → σ → Prop}
    (h : Try.Yields x w R E P H) : Try.Yields x w R E P K := Act.Returns.yields hx h

end Try

end StartupBench
