import StartupBench.Act
import Mathlib.Tactic.Lemma

/-!
# What a computation yields

`Act.Yields x w R P H` says how `x` may end when it is run from the world `w`: an answer and the
world it leaves satisfy `R`, the message of a panic and the world it leaves satisfy `P`, and if
control never comes back, the reason and the world at that moment satisfy `H`.  Mostly nothing is
asked of such an ending: `Act.Yields x w R P` leaves `H` out, and `Act.Yields.ends_of_back` then
speaks of the computations that come back.  With an `H` that is given the statement is a total one
(`Act.Yields.ends`).  A computation of which it is known that it comes back (`Act.Returns`) yields
whatever `H` is (`Act.Returns.yields`).

## Main results

The equations below compute `Yields` along the structure of a computation.  They are `simp` lemmas:
what remains of a computation after them are the calls that nothing is known about, and for those
`Act.Yields.anyway` takes every way out at once.

* `Act.yields_bind`, `Act.yields_ite`: one part after the other, and a choice.
* `Act.yields_ensuring`: a release, which is run after an answer and during a panic.
* `Act.yields_first`: a loop that looks for an answer, by an invariant.
* `Act.Yields.imp`, `Act.Yields.mono`: from what is known of each ending to what is wanted of it.

`Try.Yields` is the same for computations that may answer with an error, with a fourth predicate for
the errors; its equations are those of `Act.Yields` for the underlying computation.
-/

namespace StartupBench

namespace Act

variable {κ σ τ α β : Type}

/-- Run from `w`, the computation answers into `R` or panics into `P`, or control never comes back,
into `H`.  Of such an ending nothing is asked if `H` is left out. -/
def Yields (x : Act κ σ α) (w : σ) (R : α → σ → Prop) (P : String → σ → Prop)
    (H : Stop κ → σ → Prop := fun _ _ => True) : Prop :=
  match x w with
  | ⟨.returned a, w₁, _⟩ => R a w₁
  | ⟨.panicked m, w₁, _⟩ => P m w₁
  | ⟨.stopped k, w₁, _⟩ => H k w₁

section Ways

variable {x : Act κ σ α} {w : σ} {R R' : α → σ → Prop} {P P' : String → σ → Prop}
  {H H' : Stop κ → σ → Prop}

lemma Yields.imp (h : x.Yields w R P H) (hR : ∀ a w₁, R a w₁ → R' a w₁)
    (hP : ∀ m w₁, P m w₁ → P' m w₁) (hH : ∀ k w₁, H k w₁ → H' k w₁) : x.Yields w R' P' H' := by
  unfold Yields at h ⊢
  rcases hx : x w with ⟨a | m | k, w₁, n₁⟩ <;> rw [hx] at h
  · exact hR a w₁ h
  · exact hP m w₁ h
  · exact hH k w₁ h

/-- `Act.Yields.imp` with the same `H` said of control that does not come back. -/
lemma Yields.mono (h : x.Yields w R P H) (hR : ∀ a w₁, R a w₁ → R' a w₁)
    (hP : ∀ m w₁, P m w₁ → P' m w₁) : x.Yields w R' P' H := h.imp hR hP fun _ _ h => h

/-- What two proofs say of the same computation from the same world holds together, at each of its
endings. -/
lemma Yields.and (h : x.Yields w R P H) (h' : x.Yields w R' P' H') :
    x.Yields w (fun a w₁ => R a w₁ ∧ R' a w₁) (fun m w₁ => P m w₁ ∧ P' m w₁) H := by
  unfold Yields at h h' ⊢
  rcases hx : x w with ⟨a | m | k, w₁, n₁⟩ <;> rw [hx] at h h'
  · exact ⟨h, h'⟩
  · exact ⟨h, h'⟩
  · exact h

/-- What holds after every answer, after every panic and whenever control does not come back is
yielded by a call `x` of which nothing is known. -/
lemma Yields.always (hR : ∀ a w₁, R a w₁) (hP : ∀ m w₁, P m w₁) (hH : ∀ k w₁, H k w₁) :
    x.Yields w R P H := by
  unfold Yields
  rcases x w with ⟨a | m | k, w₁, n₁⟩
  · exact hR a w₁
  · exact hP m w₁
  · exact hH k w₁

lemma Yields.anyway (hR : ∀ a w₁, R a w₁) (hP : ∀ m w₁, P m w₁) : x.Yields w R P :=
  .always hR hP fun _ _ => trivial

/-- A computation yields what holds of each of its ways to end.  Unlike in `Act.Yields.always`, it
is known here that `x` ended this way and which world it left. -/
lemma Yields.of_ways (hR : ∀ a, (x w).outcome = .returned a → R a (x w).world)
    (hP : ∀ m, (x w).outcome = .panicked m → P m (x w).world)
    (hH : ∀ k, (x w).outcome = .stopped k → H k (x w).world) :
    x.Yields w R P H := by
  unfold Yields
  rcases hx : x w with ⟨a | m | k, w₁, n₁⟩ <;> rw [hx] at hR hP hH
  · exact hR a rfl
  · exact hP m rfl
  · exact hH k rfl

lemma Yields.of_outcome {a : α} (out : (x w).outcome = .returned a) (h : ∀ w₁, R a w₁) :
    x.Yields w R P H := by
  unfold Yields
  rcases hx : x w with ⟨b | m | k, w₁, n₁⟩ <;> rw [hx] at out <;> cases out
  exact h w₁

lemma Yields.of_returned {a : α} (h : x.Yields w R P H) (out : (x w).outcome = .returned a) :
    R a (x w).world := by
  unfold Yields at h
  rcases hx : x w with ⟨b | m | k, w₁, n₁⟩ <;> rw [hx] at h out <;> cases out
  exact h

/-- A computation ends as it yields: a statement `Q` about outcomes holds of the outcome of `x` if
it holds of each kind of ending. -/
lemma Yields.ends {Q : Outcome κ α → σ → Prop}
    (h : x.Yields w (fun a => Q (.returned a)) (fun m => Q (.panicked m))
      fun k => Q (.stopped k)) : Q (x w).outcome (x w).world := by
  unfold Yields at h
  rcases hx : x w with ⟨a | m | k, w₁, n₁⟩ <;> rw [hx] at h <;> exact h

/-- A computation that comes back ends as it yields, and `Q` need not say anything of an
`Outcome.stopped`. -/
lemma Yields.ends_of_back {Q : Outcome κ α → σ → Prop}
    (h : x.Yields w (fun a => Q (.returned a)) fun m => Q (.panicked m))
    (back : ∀ k, (x w).outcome ≠ .stopped k) : Q (x w).outcome (x w).world := by
  unfold Yields at h
  rcases hx : x w with ⟨a | m | k, w₁, n₁⟩ <;> rw [hx] at h back
  · exact h
  · exact h
  · exact absurd rfl (back k)

/-- A computation that neither panics nor stops has an answer in `R`. -/
lemma Yields.answered (h : x.Yields w R (fun _ _ => False) fun _ _ => False) :
    ∃ a, (x w).outcome = .returned a ∧ R a (x w).world := by
  unfold Yields at h
  rcases hx : x w with ⟨a | m | k, w₁, n₁⟩ <;> rw [hx] at h
  · exact ⟨a, rfl, h⟩
  · exact h.elim
  · exact h.elim

/-! ## Coming back -/

/-- The computation always comes back, from whichever world it is run: it answers or panics, and its
outcome is never `Outcome.stopped`. -/
def Returns (x : Act κ σ α) : Prop := ∀ w k, (x w).outcome ≠ .stopped k

/-- Nothing has to be said of control not coming back where it does: `H` may be replaced by any `K`,
an empty one included. -/
lemma Returns.yields {K : Stop κ → σ → Prop} (hx : x.Returns) (h : x.Yields w R P H) :
    x.Yields w R P K := by
  unfold Yields at h ⊢
  have back := hx w
  rcases hw : x w with ⟨a | m | k, w₁, n₁⟩ <;> rw [hw] at h back
  · exact h
  · exact h
  · exact absurd rfl (back k)

lemma Returns.ends (hx : x.Returns) {Q : Outcome κ α → σ → Prop}
    (h : x.Yields w (fun a => Q (.returned a)) fun m => Q (.panicked m)) :
    Q (x w).outcome (x w).world := h.ends_of_back (hx w)

end Ways

/-! ## Elementary computations -/

section Elementary

variable {w : σ} {H : Stop κ → σ → Prop}

@[simp] lemma yields_pure {a : α} {R : α → σ → Prop} {P : String → σ → Prop} :
    (pure a : Act κ σ α).Yields w R P H ↔ R a w := Iff.rfl

@[simp] lemma yields_bind {x : Act κ σ α} {f : α → Act κ σ β} {R : β → σ → Prop}
    {P : String → σ → Prop} :
    (x >>= f).Yields w R P H ↔ x.Yields w (fun a w₁ => (f a).Yields w₁ R P H) P H := by
  unfold Yields
  rw [bind_run]
  rcases hx : x w with ⟨a | m | k, w₁, n₁⟩
  · rcases hf : f a w₁ with ⟨b | m | k, w₂, n₂⟩ <;> simp [hf]
  · simp
  · simp

@[simp] lemma yields_map {x : Act κ σ α} {f : α → β} {R : β → σ → Prop}
    {P : String → σ → Prop} :
    (f <$> x).Yields w R P H ↔ x.Yields w (fun a => R (f a)) P H := by
  rw [map_eq_pure_bind, yields_bind]
  rfl

@[simp] lemma yields_ite {c : Prop} [Decidable c] {x y : Act κ σ α} {R : α → σ → Prop}
    {P : String → σ → Prop} :
    (if c then x else y).Yields w R P H ↔ if c then x.Yields w R P H else y.Yields w R P H := by
  split <;> rfl

@[simp] lemma yields_world {R : σ → σ → Prop} {P : String → σ → Prop} :
    (world : Act κ σ σ).Yields w R P H ↔ R w w := Iff.rfl

@[simp] lemma yields_step {f : σ → α × σ} {R : α → σ → Prop} {P : String → σ → Prop} :
    (step f : Act κ σ α).Yields w R P H ↔ R (f w).1 (f w).2 := Iff.rfl

@[simp] lemma yields_reading {f : σ → α} {R : α → σ → Prop} {P : String → σ → Prop} :
    (reading f : Act κ σ α).Yields w R P H ↔ R (f w) w := Iff.rfl

@[simp] lemma yields_update {f : σ → σ} {R : Unit → σ → Prop} {P : String → σ → Prop} :
    (update f : Act κ σ Unit).Yields w R P H ↔ R () (f w) := Iff.rfl

@[simp] lemma yields_notify {n : Notice} {R : Unit → σ → Prop} {P : String → σ → Prop} :
    (notify n : Act κ σ Unit).Yields w R P H ↔ R () w := Iff.rfl

@[simp] lemma yields_log {level : Log.Level} {component : Log.Component} {message : String}
    {fields : List (String × String)} {R : Unit → σ → Prop} {P : String → σ → Prop} :
    (log level component message fields : Act κ σ Unit).Yields w R P H ↔ R () w := Iff.rfl

end Elementary

/-! ## Releases and parts of the world -/

/-- The release of `Act.ensuring` is run after an answer and during a panic of `x`.  A panic of its
own takes the place of an answer; during a panic it aborts the process (`Stop.aborted`). -/
@[simp] lemma yields_ensuring {x : Act κ σ α} {release : Act κ σ Unit} {w : σ}
    {R : α → σ → Prop} {P : String → σ → Prop} {H : Stop κ → σ → Prop} :
    (ensuring x release).Yields w R P H ↔
      x.Yields w (fun a w₁ => release.Yields w₁ (fun _ w₂ => R a w₂) P H)
        (fun m w₁ => release.Yields w₁ (fun _ w₂ => P m w₂) (fun _ w₂ => H .aborted w₂) H) H := by
  unfold Yields ensuring
  rcases hx : x w with ⟨a | m | k, w₁, n₁⟩
  · rcases hr : release w₁ with ⟨_ | m' | k', w₂, n₂⟩ <;> simp [hr]
  · rcases hr : release w₁ with ⟨_ | m' | k', w₂, n₂⟩ <;> simp [hr]
  · simp

@[simp] lemma yields_within {get : τ → σ} {put : σ → τ → τ} {x : Act κ σ α} {w : τ}
    {R : α → τ → Prop} {P : String → τ → Prop} {H : Stop κ → τ → Prop} :
    (x.within get put).Yields w R P H ↔
      x.Yields (get w) (fun a s => R a (put s w)) (fun m s => P m (put s w))
        fun k s => H k (put s w) := by
  unfold Yields within
  rcases x (get w) with ⟨a | m | k, w₁, n₁⟩ <;> simp

/-! ## Loops -/

/-- A loop that looks for an answer (`Act.first`), by an invariant: `I k` holds before the `k`-th
turn, and a turn without an answer takes it to `I (k + 1)`. -/
lemma yields_first {body : Nat → Act κ σ (Option α)} {R : Option α → σ → Prop}
    {P : String → σ → Prop} {H : Stop κ → σ → Prop} (I : Nat → σ → Prop) (fuel k : Nat) (w : σ)
    (start : I k w)
    (turn : ∀ i w₁, k ≤ i → i < k + fuel → I i w₁ →
      (body i).Yields w₁ (fun r w₂ => r.elim (I (i + 1) w₂) fun a => R (some a) w₂) P H)
    (last : ∀ w₁, I (k + fuel) w₁ → R none w₁) :
    (first body fuel k).Yields w R P H := by
  induction fuel generalizing k w with
  | zero =>
    rw [first_zero]
    exact last w start
  | succ fuel ih =>
    rw [first_succ, yields_bind]
    refine (turn k w (by omega) (by omega) start).mono (fun r w₁ h => ?_) fun _ _ h => h
    cases r with
    | some a => exact h
    | none =>
      refine ih (k + 1) w₁ h (fun i w₂ hk hi => turn i w₂ (by omega) (by omega)) fun w₂ h₂ => ?_
      have hk : k + 1 + fuel = k + (fuel + 1) := by omega
      rw [hk] at h₂
      exact last w₂ h₂

end Act

/-! ## Computations that may fail -/

namespace Try

variable {κ σ τ ε ε' α β : Type}

/-- Run from `w`, the computation answers into `R`, fails into `E` or panics into `P`, or control
never comes back, into `H`.  Of such an ending nothing is asked if `H` is left out. -/
def Yields (x : Try κ σ ε α) (w : σ) (R : α → σ → Prop) (E : ε → σ → Prop)
    (P : String → σ → Prop) (H : Stop κ → σ → Prop := fun _ _ => True) : Prop :=
  Act.Yields x.run w (fun | .ok a => R a | .error e => E e) P H

section Ways

variable {x : Try κ σ ε α} {w : σ} {R R' : α → σ → Prop} {E E' : ε → σ → Prop}
  {P P' : String → σ → Prop} {H H' : Stop κ → σ → Prop}

lemma Yields.imp (h : Try.Yields x w R E P H) (hR : ∀ a w₁, R a w₁ → R' a w₁)
    (hE : ∀ e w₁, E e w₁ → E' e w₁) (hP : ∀ m w₁, P m w₁ → P' m w₁)
    (hH : ∀ k w₁, H k w₁ → H' k w₁) : Try.Yields x w R' E' P' H' := by
  refine Act.Yields.imp h (fun r w₁ hr => ?_) hP hH
  cases r with
  | ok a => exact hR a w₁ hr
  | error e => exact hE e w₁ hr

/-- `Try.Yields.imp` with the same `H` said of control that does not come back. -/
lemma Yields.mono (h : Try.Yields x w R E P H) (hR : ∀ a w₁, R a w₁ → R' a w₁)
    (hE : ∀ e w₁, E e w₁ → E' e w₁) (hP : ∀ m w₁, P m w₁ → P' m w₁) :
    Try.Yields x w R' E' P' H := h.imp hR hE hP fun _ _ h => h

/-- What two proofs say of the same computation from the same world holds together, at each of its
endings. -/
lemma Yields.and (h : Try.Yields x w R E P H) (h' : Try.Yields x w R' E' P' H') :
    Try.Yields x w (fun a w₁ => R a w₁ ∧ R' a w₁) (fun e w₁ => E e w₁ ∧ E' e w₁)
      (fun m w₁ => P m w₁ ∧ P' m w₁) H := by
  refine Act.Yields.mono (Act.Yields.and h h') (fun r w₁ hr => ?_) fun _ _ hm => hm
  cases r with
  | ok a => exact hr
  | error e => exact hr

/-- A computation yields what holds of each of its ways to end.  Unlike in `Try.Yields.always`, it
is known here that `x` ended this way and which world it left. -/
lemma Yields.of_ways (hR : ∀ a, (x.run w).outcome = .returned (.ok a) → R a (x.run w).world)
    (hE : ∀ e, (x.run w).outcome = .returned (.error e) → E e (x.run w).world)
    (hP : ∀ m, (x.run w).outcome = .panicked m → P m (x.run w).world)
    (hH : ∀ k, (x.run w).outcome = .stopped k → H k (x.run w).world) :
    Try.Yields x w R E P H := by
  refine Act.Yields.of_ways (fun r hr => ?_) hP hH
  cases r with
  | ok a => exact hR a hr
  | error e => exact hE e hr

/-- A computation that neither panics nor stops answers into `R` or fails into `E`. -/
lemma Yields.answered (h : Try.Yields x w R E (fun _ _ => False) fun _ _ => False) :
    ∃ r, (x.run w).outcome = .returned r ∧
      match r with
      | .ok a => R a (x.run w).world
      | .error e => E e (x.run w).world := by
  obtain ⟨r, out, hr⟩ := Act.Yields.answered h
  refine ⟨r, out, ?_⟩
  cases r with
  | ok a => exact hr
  | error e => exact hr

lemma Yields.always (hR : ∀ a w₁, R a w₁) (hE : ∀ e w₁, E e w₁) (hP : ∀ m w₁, P m w₁)
    (hH : ∀ k w₁, H k w₁) : Try.Yields x w R E P H := by
  refine Act.Yields.always (fun r w₁ => ?_) hP hH
  cases r with
  | ok a => exact hR a w₁
  | error e => exact hE e w₁

lemma Yields.anyway (hR : ∀ a w₁, R a w₁) (hE : ∀ e w₁, E e w₁) (hP : ∀ m w₁, P m w₁) :
    Try.Yields x w R E P := .always hR hE hP fun _ _ => trivial

end Ways

variable {w : σ} {E : ε → σ → Prop} {P : String → σ → Prop} {H : Stop κ → σ → Prop}

@[simp] lemma yields_run {x : Try κ σ ε α} {R : Except ε α → σ → Prop} :
    Act.Yields x.run w R P H ↔
      Try.Yields x w (fun a => R (.ok a)) (fun e => R (.error e)) P H := by
  constructor <;> intro h <;> refine Act.Yields.mono h (fun r w₁ hr => ?_) fun _ _ hm => hm
  · cases r <;> exact hr
  · cases r <;> exact hr

@[simp] lemma yields_result {x : Try κ σ ε α} {R : Except ε α → σ → Prop} :
    Act.Yields x.result w R P H ↔
      Try.Yields x w (fun a => R (.ok a)) (fun e => R (.error e)) P H := yields_run

@[simp] lemma yields_mk {x : Act κ σ (Except ε α)} {R : α → σ → Prop} :
    Try.Yields (ExceptT.mk x) w R E P H ↔ x.Yields w (fun | .ok a => R a | .error e => E e) P H :=
  Iff.rfl

@[simp] lemma yields_pure {a : α} {R : α → σ → Prop} :
    Try.Yields (pure a : Try κ σ ε α) w R E P H ↔ R a w := Iff.rfl

@[simp] lemma yields_fail {e : ε} {R : α → σ → Prop} :
    Try.Yields (Try.fail e : Try κ σ ε α) w R E P H ↔ E e w := Iff.rfl

@[simp] lemma yields_bind {x : Try κ σ ε α} {f : α → Try κ σ ε β} {R : β → σ → Prop} :
    Try.Yields (x >>= f) w R E P H ↔
      Try.Yields x w (fun a w₁ => Try.Yields (f a) w₁ R E P H) E P H := by
  unfold Yields
  rw [ExceptT.run_bind, Act.yields_bind]
  constructor <;> intro h <;> refine Act.Yields.mono h (fun r w₁ hr => ?_) fun _ _ hm => hm
  · cases r <;> exact hr
  · cases r <;> exact hr

@[simp] lemma yields_map {x : Try κ σ ε α} {f : α → β} {R : β → σ → Prop} :
    Try.Yields (f <$> x) w R E P H ↔ Try.Yields x w (fun a => R (f a)) E P H := by
  rw [map_eq_pure_bind, yields_bind]
  rfl

@[simp] lemma yields_ite {c : Prop} [Decidable c] {x y : Try κ σ ε α} {R : α → σ → Prop} :
    Try.Yields (if c then x else y) w R E P H ↔
      if c then Try.Yields x w R E P H else Try.Yields y w R E P H := by
  split <;> rfl

@[simp] lemma yields_lift {x : Act κ σ α} {R : α → σ → Prop} :
    Try.Yields (Try.lift x : Try κ σ ε α) w R E P H ↔ x.Yields w R P H := by
  unfold Yields Try.lift
  rw [ExceptT.run_lift, map_eq_pure_bind, Act.yields_bind]
  rfl

@[simp] lemma yields_monadLift {x : Act κ σ α} {R : α → σ → Prop} :
    Try.Yields (liftM x : Try κ σ ε α) w R E P H ↔ x.Yields w R P H := yields_lift

@[simp] lemma yields_exceptLift {x : Act κ σ α} {R : α → σ → Prop} :
    Try.Yields (ExceptT.lift x : Try κ σ ε α) w R E P H ↔ x.Yields w R P H := yields_lift

@[simp] lemma yields_log {level : Log.Level} {component : Log.Component} {message : String}
    {fields : List (String × String)} {R : Unit → σ → Prop} :
    Try.Yields (Try.log level component message fields : Try κ σ ε Unit) w R E P H ↔ R () w := by
  rw [Try.log, yields_exceptLift, Act.yields_log]

@[simp] lemma yields_world {R : σ → σ → Prop} :
    Try.Yields (Try.world : Try κ σ ε σ) w R E P H ↔ R w w := by
  rw [Try.world, yields_exceptLift, Act.yields_world]

@[simp] lemma yields_attempt {x : Try κ σ ε α} {E : ε' → σ → Prop}
    {R : Except ε α → σ → Prop} :
    Try.Yields (Try.attempt x : Try κ σ ε' (Except ε α)) w R E P H ↔
      Try.Yields x w (fun a => R (.ok a)) (fun e => R (.error e)) P H := by
  rw [Try.attempt, yields_lift, yields_run]

@[simp] lemma yields_mapError {f : ε' → ε} {x : Try κ σ ε' α} {R : α → σ → Prop} :
    Try.Yields (Try.mapError f x) w R E P H ↔ Try.Yields x w R (fun e => E (f e)) P H := by
  unfold Try.mapError ExceptT.adapt
  rw [yields_mk, map_eq_pure_bind, Act.yields_bind]
  exact yields_run

@[simp] lemma yields_within {get : τ → σ} {put : σ → τ → τ} {x : Try κ σ ε α} {w : τ}
    {R : α → τ → Prop} {E : ε → τ → Prop} {P : String → τ → Prop} {H : Stop κ → τ → Prop} :
    Try.Yields (Try.within get put x) w R E P H ↔
      Try.Yields x (get w) (fun a s => R a (put s w)) (fun e s => E e (put s w))
        (fun m s => P m (put s w)) fun k s => H k (put s w) := by
  rw [Try.within, yields_mk, Act.yields_within, yields_run]

@[simp] lemma yields_ofExcept {x : Except ε α} {R : α → σ → Prop} :
    Try.Yields (Try.ofExcept x : Try κ σ ε α) w R E P H ↔
      match x with
      | .ok a => R a w
      | .error e => E e w := by
  cases x <;> rfl

end Try

end StartupBench
