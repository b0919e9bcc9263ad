import StartupBench.Interrupt
import StartupBench.Proofs.Act.Recorded

/-!
# Computations that are tracked through a richer world

Most of what a computation does on a richer world is of no interest there: it does what it did
before (`Act.Over`), and what the richer world is about stays as it is (`Act.Respects`).
`Act.Tracks π S x' x` is both together, so that one walk along a computation shows both.

The rules follow the shape of a computation, and each is the two rules for `Act.Over` and
`Act.Respects` side by side.  The long walks of the development are of this kind: along quitting an
application (`QuitTarget.quit_tracks`) and along the steps of the benchmark
(`StartupBench.Proofs.Bench.Tracked`), for whatever record of the collaborators' calls.  A single
record then needs a tracking lemma for each of the calls it is about and nothing else.
-/

namespace StartupBench

namespace Act

variable {κ σ τ α β : Type}

/-- The computation `x'` does what `x` does on the part of the world that `π` reads (`Act.Over`),
and the world after it stands in `S` to the world before it (`Act.Respects`). -/
structure Tracks (π : τ → σ) (S : τ → τ → Prop) (x' : Act κ τ α) (x : Act κ σ α) : Prop where
  toOver : x'.Over π x
  respects : x'.Respects S

/-- A computation that is `Act.Over` another tracks it when nothing is asked of the richer world. -/
lemma Over.tracks {π : τ → σ} {x' : Act κ τ α} {x : Act κ σ α} (h : x'.Over π x) :
    x'.Tracks π (Same fun _ => ()) x := ⟨h, fun _ => rfl⟩

/-- Every computation tracks itself on its own world, with the preorder `S` that it respects. -/
lemma Respects.tracks {S : σ → σ → Prop} {x : Act κ σ α} (h : x.Respects S) :
    x.Tracks id S x := ⟨fun _ => rfl, h⟩

lemma recorded_tracks {ε : Type} {C : ε → Prop} (event : Outcome κ α → ε) (x : Act κ σ α)
    (h : ∀ out, C (event out)) :
    (x.recorded event).Tracks Recorded.world (Recorded.Adds C) x :=
  ⟨recorded_over event x, Respects.recorded x h⟩

namespace Tracks

variable {π : τ → σ} {S : τ → τ → Prop} [IsPreorder τ S]

lemma pure (a : α) : (Pure.pure a : Act κ τ α).Tracks π S (Pure.pure a) :=
  ⟨Over.pure a, Respects.pure a⟩

lemma bind {x' : Act κ τ α} {x : Act κ σ α} {g' : α → Act κ τ β} {g : α → Act κ σ β}
    (hx : x'.Tracks π S x) (hg : ∀ a, (g' a).Tracks π S (g a)) :
    (x' >>= g').Tracks π S (x >>= g) :=
  ⟨hx.toOver.bind fun a => (hg a).toOver, hx.respects.bind fun a => (hg a).respects⟩

omit [IsPreorder τ S] in
lemma ite {c : Prop} [Decidable c] {x' y' : Act κ τ α} {x y : Act κ σ α}
    (hx : x'.Tracks π S x) (hy : y'.Tracks π S y) :
    (if c then x' else y').Tracks π S (if c then x else y) :=
  ⟨hx.toOver.ite hy.toOver, hx.respects.ite hy.respects⟩

lemma log (level : Log.Level) (component : Log.Component) (message : String)
    (fields : List (String × String)) :
    (Act.log level component message fields : Act κ τ Unit).Tracks π S
      (Act.log level component message fields) :=
  ⟨Over.log level component message fields, Respects.log level component message fields⟩

lemma reading {f' : τ → α} {f : σ → α} (h : ∀ w, f (π w) = f' w) :
    (Act.reading f' : Act κ τ α).Tracks π S (Act.reading f) := by
  refine ⟨fun w => ?_, Respects.reading f'⟩
  unfold Act.reading
  rw [h w]

omit [IsPreorder τ S] in
lemma update {f' : τ → τ} {f : σ → σ} (h : ∀ w, π (f' w) = f (π w)) (hS : ∀ w, S w (f' w)) :
    (Act.update f' : Act κ τ Unit).Tracks π S (Act.update f) :=
  ⟨Over.update h, Respects.update hS⟩

lemma first {body' : Nat → Act κ τ (Option α)} {body : Nat → Act κ σ (Option α)}
    (h : ∀ i, (body' i).Tracks π S (body i)) (fuel k : Nat) :
    (Act.first body' fuel k).Tracks π S (Act.first body fuel k) :=
  ⟨Over.first (fun i => (h i).toOver) fuel k, Respects.first (fun i => (h i).respects) fuel k⟩

lemma ensuring {x' : Act κ τ α} {x : Act κ σ α} {release' : Act κ τ Unit}
    {release : Act κ σ Unit} (hx : x'.Tracks π S x) (hr : release'.Tracks π S release) :
    (Act.ensuring x' release').Tracks π S (Act.ensuring x release) :=
  ⟨hx.toOver.ensuring hr.toOver, hx.respects.ensuring hr.respects⟩

lemma expected (message : String) (value : Option α) :
    (Act.expected message value : Act κ τ α).Tracks π S (Act.expected message value) := by
  cases value with
  | some a => exact pure a
  | none => exact ⟨fun _ => rfl, fun w => Std.Refl.refl w⟩

lemma noted {x' : Act κ τ α} {x : Act κ σ α} {note : Outcome κ α → τ → τ}
    (hx : x'.Tracks π S x) (h : ∀ out w, π (note out w) = π w) (hS : ∀ out w, S w (note out w)) :
    (x'.noted note).Tracks π S x :=
  ⟨hx.toOver.noted h, hx.respects.noted hS⟩

end Tracks

end Act

namespace Try

variable {κ σ τ ε ε' α β : Type}

/-- The computation `x'` does what `x` does on the part of the world that `π` reads (`Try.Over`),
and the world after it stands in `S` to the world before it (`Try.Respects`). -/
def Tracks (π : τ → σ) (S : τ → τ → Prop) (x' : Try κ τ ε α) (x : Try κ σ ε α) : Prop :=
  Act.Tracks π S x'.run x.run

lemma recorded_tracks {η : Type} {C : η → Prop} (event : Outcome κ (Except ε α) → η)
    (x : Try κ σ ε α) (h : ∀ out, C (event out)) :
    Try.Tracks Recorded.world (Recorded.Adds C) (x.recorded event) x :=
  Act.recorded_tracks event x.run h

/-- Every computation tracks itself on its own world, with the preorder `S` that it respects. -/
lemma Respects.tracks {S : σ → σ → Prop} {x : Try κ σ ε α} (h : Try.Respects S x) :
    Try.Tracks id S x x := Act.Respects.tracks h

namespace Tracks

variable {π : τ → σ} {S : τ → τ → Prop} {x' : Try κ τ ε α} {x : Try κ σ ε α}

lemma toOver (h : Try.Tracks π S x' x) : Try.Over π x' x := Act.Tracks.toOver h

lemma respects (h : Try.Tracks π S x' x) : Try.Respects S x' := Act.Tracks.respects h

lemma result (h : Try.Tracks π S x' x) : Act.Tracks π S x'.result x.result := h

lemma ite {c : Prop} [Decidable c] {y' : Try κ τ ε α} {y : Try κ σ ε α}
    (hx : Try.Tracks π S x' x) (hy : Try.Tracks π S y' y) :
    Try.Tracks π S (if c then x' else y') (if c then x else y) := by
  split
  · exact hx
  · exact hy

variable [IsPreorder τ S]

lemma pure (a : α) : Try.Tracks π S (Pure.pure a : Try κ τ ε α) (Pure.pure a) :=
  ⟨Try.Over.pure a, Try.Respects.pure a⟩

lemma fail (e : ε) : Try.Tracks π S (Try.fail e : Try κ τ ε α) (Try.fail e) :=
  ⟨Try.Over.fail e, Try.Respects.fail e⟩

lemma ofExcept (r : Except ε α) :
    Try.Tracks π S (Try.ofExcept r : Try κ τ ε α) (Try.ofExcept r) := Act.Tracks.pure r

lemma bind {g' : α → Try κ τ ε β} {g : α → Try κ σ ε β} (hx : Try.Tracks π S x' x)
    (hg : ∀ a, Try.Tracks π S (g' a) (g a)) : Try.Tracks π S (x' >>= g') (x >>= g) :=
  ⟨hx.toOver.bind fun a => (hg a).toOver, hx.respects.bind fun a => (hg a).respects⟩

lemma lift {y' : Act κ τ α} {y : Act κ σ α} (h : y'.Tracks π S y) :
    Try.Tracks π S (Try.lift y' : Try κ τ ε α) (Try.lift y) :=
  ⟨Try.Over.lift h.toOver, Try.Respects.lift h.respects⟩

lemma log (level : Log.Level) (component : Log.Component) (message : String)
    (fields : List (String × String)) :
    Try.Tracks π S (Try.log level component message fields : Try κ τ ε Unit)
      (Try.log level component message fields) :=
  lift (Act.Tracks.log level component message fields)

lemma attempt (h : Try.Tracks π S x' x) :
    Try.Tracks π S (Try.attempt x' : Try κ τ ε' (Except ε α)) (Try.attempt x) := lift h

lemma mapError {g : ε → ε'} (h : Try.Tracks π S x' x) :
    Try.Tracks π S (Try.mapError g x') (Try.mapError g x) :=
  ⟨h.toOver.mapError, h.respects.mapError⟩

lemma ensuring {release' : Act κ τ Unit} {release : Act κ σ Unit} (hx : Try.Tracks π S x' x)
    (hr : release'.Tracks π S release) :
    Try.Tracks π S (ExceptT.mk (Act.ensuring x'.run release'))
      (ExceptT.mk (Act.ensuring x.run release)) := Act.Tracks.ensuring hx hr

end Tracks

end Try

end StartupBench
