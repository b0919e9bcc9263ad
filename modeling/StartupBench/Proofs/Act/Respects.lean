import StartupBench.Proofs.Act.Yields
import Mathlib.Order.Defs.Unbundled

/-!
# What holds whichever way a computation ends

`Act.Respects S x` relates the world before `x` to the world after it by a preorder `S`, whichever
way `x` ends.  Two preorders are used all over:

* `Same f`: what `f` reads of the world is left alone;
* `Recorded.Adds C` (in `StartupBench.Proofs.Act.Recorded`): the calls made in between are all of a
  kind.

The rules below follow the shape of a computation, and `Act.Respects.yields` hands the result over
to `Act.Yields`.
-/

namespace StartupBench

/-- What `f` reads is the same of both worlds.  It is the preorder of everything that leaves `f`
alone. -/
def Same {σ γ : Type} (f : σ → γ) (w w₁ : σ) : Prop := f w₁ = f w

instance {σ γ : Type} (f : σ → γ) : IsPreorder σ (Same f) where
  refl _ := rfl
  trans _ _ _ h h₁ := Eq.trans h₁ h

namespace Act

variable {κ σ τ α β : Type}

/-- Whichever way `x` ends, the world after it stands in `S` to the world before it.  With a
preorder `S` this passes through a whole computation. -/
def Respects (S : σ → σ → Prop) (x : Act κ σ α) : Prop := ∀ w, S w (x w).world

namespace Respects

variable {S : σ → σ → Prop}

lemma yields {x : Act κ σ α} (h : x.Respects S) (w : σ) :
    x.Yields w (fun _ => S w) (fun _ => S w) fun _ => S w := by
  have hw := h w
  unfold Yields
  rcases hx : x w with ⟨a | m | k, w₁, n₁⟩ <;> rw [hx] at hw <;> exact hw

/-- A computation that respects `S` yields, whichever way it ends, what holds of every world that
stands in `S` to the one before. -/
lemma keeps {x : Act κ σ α} (h : x.Respects S) {w : σ} {I : σ → Prop}
    (hI : ∀ w₁, S w w₁ → I w₁) : x.Yields w (fun _ => I) (fun _ => I) fun _ => I :=
  (h.yields w).imp (fun _ => hI) (fun _ => hI) fun _ => hI

lemma update {g : σ → σ} (h : ∀ w, S w (g w)) : (Act.update g : Act κ σ Unit).Respects S := h

variable [IsPreorder σ S]

lemma pure (a : α) : (Pure.pure a : Act κ σ α).Respects S := fun w => Std.Refl.refl w

lemma reading (g : σ → α) : (Act.reading g : Act κ σ α).Respects S := fun w => Std.Refl.refl w

lemma log (level : Log.Level) (component : Log.Component) (message : String)
    (fields : List (String × String)) :
    (Act.log level component message fields : Act κ σ Unit).Respects S := fun w => Std.Refl.refl w

lemma bind {x : Act κ σ α} {g : α → Act κ σ β} (hx : x.Respects S)
    (hg : ∀ a, (g a).Respects S) : (x >>= g).Respects S := by
  intro w
  have hw := hx w
  rw [bind_run]
  rcases hr : x w with ⟨a | m | k, w₁, n₁⟩ <;> rw [hr] at hw
  · exact IsTrans.trans _ _ _ hw (hg a w₁)
  · exact hw
  · exact hw

lemma map {x : Act κ σ α} (hx : x.Respects S) (g : α → β) : (g <$> x).Respects S := by
  rw [map_eq_pure_bind]
  exact hx.bind fun a => pure (g a)

/-- In `x >>= g` the second part matters only for the answers that `x` has from this world;
`Act.Respects.bind` asks it of all answers. -/
lemma bind_at {x : Act κ σ α} {g : α → Act κ σ β} {w : σ} (hx : S w (x w).world)
    (hg : ∀ a, (x w).outcome = .returned a → (g a).Respects S) : S w ((x >>= g) w).world := by
  rw [bind_run]
  rcases hr : x w with ⟨a | m | k, w₁, n₁⟩ <;> rw [hr] at hx hg
  · exact IsTrans.trans _ _ _ hx (hg a rfl w₁)
  · exact hx
  · exact hx

omit [IsPreorder σ S] in
lemma ite {c : Prop} [Decidable c] {x y : Act κ σ α} (hx : x.Respects S) (hy : y.Respects S) :
    (if c then x else y).Respects S := by
  split
  · exact hx
  · exact hy

lemma first {body : Nat → Act κ σ (Option α)} (h : ∀ i, (body i).Respects S) (fuel k : Nat) :
    (Act.first body fuel k).Respects S := by
  induction fuel generalizing k with
  | zero => exact pure none
  | succ fuel ih =>
    rw [first_succ]
    refine (h k).bind fun r => ?_
    cases r with
    | some a => exact pure (some a)
    | none => exact ih (k + 1)

lemma ensuring {x : Act κ σ α} {release : Act κ σ Unit} (hx : x.Respects S)
    (hr : release.Respects S) : (Act.ensuring x release).Respects S := by
  intro w
  have hw := hx w
  unfold Act.ensuring
  rcases hrun : x w with ⟨a | m | k, w₁, n₁⟩ <;> rw [hrun] at hw
  · have hw₁ := IsTrans.trans _ _ _ hw (hr w₁)
    dsimp only
    rcases hrel : release w₁ with ⟨_ | m | k, w₂, n₂⟩ <;> rw [hrel] at hw₁ <;> exact hw₁
  · have hw₁ := IsTrans.trans _ _ _ hw (hr w₁)
    dsimp only
    rcases hrel : release w₁ with ⟨_ | m' | k, w₂, n₂⟩ <;> rw [hrel] at hw₁ <;> exact hw₁
  · exact hw

end Respects

end Act

namespace Try

variable {κ σ τ ε ε' α β : Type}

/-- Whichever way the computation ends, with an answer, an error or a panic, the world after it
stands in `S` to the world before it. -/
def Respects (S : σ → σ → Prop) (x : Try κ σ ε α) : Prop := Act.Respects S x.run

/-- `Try.mapError` renames errors and leaves the same world behind. -/
lemma mapError_world (g : ε → ε') (x : Try κ σ ε α) (w : σ) :
    ((Try.mapError g x).run w).world = (x.run w).world := by
  have mapped : (Try.mapError g x).run = Except.mapError g <$> x.run := rfl
  rw [mapped, map_eq_pure_bind, Act.bind_run]
  rcases x.run w with ⟨r | m | k, w₁, n₁⟩ <;> rfl

namespace Respects

variable {S : σ → σ → Prop}

lemma yields {x : Try κ σ ε α} (h : Try.Respects S x) (w : σ) :
    Try.Yields x w (fun _ => S w) (fun _ => S w) (fun _ => S w) fun _ => S w :=
  Try.yields_run.1 (Act.Respects.yields h w)

/-- A computation that respects `S` yields, whichever way it ends, what holds of every world that
stands in `S` to the one before. -/
lemma keeps {x : Try κ σ ε α} (h : Try.Respects S x) {w : σ} {I : σ → Prop}
    (hI : ∀ w₁, S w w₁ → I w₁) :
    Try.Yields x w (fun _ => I) (fun _ => I) (fun _ => I) fun _ => I :=
  (yields h w).imp (fun _ => hI) (fun _ => hI) (fun _ => hI) fun _ => hI

variable [IsPreorder σ S]

lemma pure (a : α) : Try.Respects S (Pure.pure a : Try κ σ ε α) := fun w => Std.Refl.refl w

lemma fail (e : ε) : Try.Respects S (Try.fail e : Try κ σ ε α) := fun w => Std.Refl.refl w

lemma bind {x : Try κ σ ε α} {g : α → Try κ σ ε β} (hx : Try.Respects S x)
    (hg : ∀ a, Try.Respects S (g a)) : Try.Respects S (x >>= g) := by
  unfold Respects
  rw [ExceptT.run_bind]
  refine Act.Respects.bind hx fun r => ?_
  cases r with
  | ok a => exact hg a
  | error e => exact Act.Respects.pure _

/-- In `x >>= g` the second part matters only for the answers that `x` has from this world;
`Try.Respects.bind` asks it of all answers. -/
lemma bind_at {x : Try κ σ ε α} {g : α → Try κ σ ε β} {w : σ} (hx : S w (x.run w).world)
    (hg : ∀ a, (x.run w).outcome = .returned (.ok a) → Try.Respects S (g a)) :
    S w ((x >>= g).run w).world := by
  rw [ExceptT.run_bind]
  refine Act.Respects.bind_at hx fun r hr => ?_
  cases r with
  | ok a => exact hg a hr
  | error e => exact Act.Respects.pure _

omit [IsPreorder σ S] in
lemma ite {c : Prop} [Decidable c] {x y : Try κ σ ε α} (hx : Try.Respects S x)
    (hy : Try.Respects S y) : Try.Respects S (if c then x else y) := by
  split
  · exact hx
  · exact hy

lemma log (level : Log.Level) (component : Log.Component) (message : String)
    (fields : List (String × String)) :
    Try.Respects S (Try.log level component message fields : Try κ σ ε Unit) :=
  fun w => Std.Refl.refl w

lemma lift {x : Act κ σ α} (h : x.Respects S) :
    Try.Respects S (Try.lift x : Try κ σ ε α) := by
  unfold Respects Try.lift
  rw [ExceptT.run_lift, map_eq_pure_bind]
  exact h.bind fun a => Act.Respects.pure _

lemma mapError {g : ε → ε'} {x : Try κ σ ε α} (h : Try.Respects S x) :
    Try.Respects S (Try.mapError g x) := by
  unfold Respects Try.mapError ExceptT.adapt
  rw [ExceptT.run_mk, map_eq_pure_bind]
  exact Act.Respects.bind h fun r => Act.Respects.pure _

end Respects

end Try

end StartupBench
