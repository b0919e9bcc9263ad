import StartupBench.Proofs.Act.Yields

/-!
# The panics of a computation

`Act.PanicsIn P x` says that the message of every panic of `x`, from whichever world it is run, is
in `P`; with an empty `P` there are none (`Act.Calm`).  The rules below follow the shape of a
computation, so that a claim about the panics of a whole program comes down to the few calls that
can panic: an instant that cannot be represented, a line that cannot be printed, or a collaborator.

Where it matters in which worlds a computation panics, `Act.panicked_bind` goes through it exactly:
a computation in two parts panics in the first or, after an answer of it, in the second.  With one
of the two calm the question is left to the other (`Act.Calm.panicked_bind`,
`Act.panicked_bind_of_calm`).
-/

namespace StartupBench

/-- The message of a panic, and nothing for an `Outcome` of another kind. -/
def Outcome.message? {κ α : Type} : Outcome κ α → Option String
  | .panicked m => some m
  | _ => none

lemma Outcome.message?_eq_some {κ α : Type} {o : Outcome κ α} {m : String} :
    o.message? = some m ↔ o = .panicked m := by
  cases o <;> simp [message?]

namespace Act

variable {κ σ τ α β : Type}

/-- A computation in two parts panics in the first or, after an answer of it, in the second, which
is then run from the world that the first left. -/
lemma panicked_bind {x : Act κ σ α} {f : α → Act κ σ β} {w : σ} {m : String} :
    ((x >>= f) w).outcome = .panicked m ↔
      (x w).outcome = .panicked m ∨
        ∃ a, (x w).outcome = .returned a ∧ (f a (x w).world).outcome = .panicked m := by
  rw [bind_run]
  rcases x w with ⟨a | m' | k, w₁, n₁⟩ <;> simp

/-- Every panic of `x`, from whichever world it is run, has a message in `P`.  Of computations that
stop nothing is said. -/
def PanicsIn (P : String → Prop) (x : Act κ σ α) : Prop :=
  ∀ w m, (x w).outcome = .panicked m → P m

/-- The computation never panics: it is `Act.PanicsIn` an empty set of messages. -/
abbrev Calm (x : Act κ σ α) : Prop := x.PanicsIn fun _ => False

lemma Calm.panicsIn {P : String → Prop} {x : Act κ σ α} (h : x.Calm) : x.PanicsIn P :=
  fun w m panicked => (h w m panicked).elim

/-- Where the first part is `Act.Calm`, a panic of `x >>= f` is one of `f`, after an answer of `x`.
-/
lemma Calm.panicked_bind {x : Act κ σ α} (hx : x.Calm) {f : α → Act κ σ β} {w : σ} {m : String} :
    ((x >>= f) w).outcome = .panicked m ↔
      ∃ a, (x w).outcome = .returned a ∧ (f a (x w).world).outcome = .panicked m :=
  Act.panicked_bind.trans (or_iff_right (hx w m))

/-- Where every `f a` is `Act.Calm`, a panic of `x >>= f` is one of `x`. -/
lemma panicked_bind_of_calm {x : Act κ σ α} {f : α → Act κ σ β} (hf : ∀ a, (f a).Calm) {w : σ}
    {m : String} : ((x >>= f) w).outcome = .panicked m ↔ (x w).outcome = .panicked m :=
  panicked_bind.trans (or_iff_left fun ⟨a, _, second⟩ => hf a _ m second)

namespace PanicsIn

variable {P : String → Prop}

/-- A computation that answers from every world panics in any `P`, since it does not panic at all.
-/
lemma of_returned {x : Act κ σ α} (h : ∀ w, ∃ a, (x w).outcome = .returned a) :
    x.PanicsIn P := by
  intro w m panicked
  obtain ⟨a, returned⟩ := h w
  rw [returned] at panicked
  cases panicked

lemma pure (a : α) : (Pure.pure a : Act κ σ α).PanicsIn P := of_returned fun _ => ⟨a, rfl⟩

lemma reading (f : σ → α) : (Act.reading f : Act κ σ α).PanicsIn P :=
  of_returned fun w => ⟨f w, rfl⟩

lemma update (f : σ → σ) : (Act.update f : Act κ σ Unit).PanicsIn P :=
  of_returned fun _ => ⟨(), rfl⟩

lemma log (level : Log.Level) (component : Log.Component) (message : String)
    (fields : List (String × String)) :
    (Act.log level component message fields : Act κ σ Unit).PanicsIn P :=
  of_returned fun _ => ⟨(), rfl⟩

lemma stop (reason : κ) : (Act.stop reason : Act κ σ α).PanicsIn P :=
  fun _ _ panicked => nomatch panicked

lemma bind {x : Act κ σ α} {f : α → Act κ σ β} (hx : x.PanicsIn P)
    (hf : ∀ a, (f a).PanicsIn P) : (x >>= f).PanicsIn P := by
  intro w m panicked
  obtain first | ⟨a, -, second⟩ := panicked_bind.1 panicked
  · exact hx w m first
  · exact hf a _ m second

lemma ite {c : Prop} [Decidable c] {x y : Act κ σ α} (hx : x.PanicsIn P) (hy : y.PanicsIn P) :
    (if c then x else y).PanicsIn P := by
  split
  · exact hx
  · exact hy

lemma first {body : Nat → Act κ σ (Option α)} (h : ∀ i, (body i).PanicsIn P) (fuel k : Nat) :
    (Act.first body fuel k).PanicsIn P := by
  induction fuel generalizing k with
  | zero => exact pure none
  | succ fuel ih =>
    rw [first_succ]
    refine (h k).bind fun r => ?_
    cases r with
    | some a => exact pure (some a)
    | none => exact ih (k + 1)

lemma yields {x : Act κ σ α} (h : x.PanicsIn P) (w : σ) :
    x.Yields w (fun _ _ => True) fun m _ => P m :=
  Yields.of_ways (fun _ _ => trivial) (h w) fun _ _ => trivial

lemma of_yields {x : Act κ σ α} (h : ∀ w, x.Yields w (fun _ _ => True) fun m _ => P m) :
    x.PanicsIn P := by
  intro w m panicked
  have hw := h w
  unfold Yields at hw
  rcases hx : x w with ⟨a | m' | k, w₁, n₁⟩ <;> rw [hx] at hw panicked <;> cases panicked
  exact hw

/-- A panic of `Act.ensuring x release` is one of `x`, or one of the release after an answer of `x`.
During a panic of `x` a second one aborts the process instead. -/
lemma ensuring {x : Act κ σ α} {release : Act κ σ Unit} (hx : x.PanicsIn P)
    (hr : release.PanicsIn P) : (Act.ensuring x release).PanicsIn P := by
  refine of_yields fun w => yields_ensuring.2 ?_
  refine (hx.yields w).mono (fun _ w₁ _ => hr.yields w₁) fun m w₁ hm => ?_
  exact (hr.yields w₁).mono (fun _ _ _ => hm) fun _ _ _ => trivial

lemma within {get : τ → σ} {put : σ → τ → τ} {x : Act κ σ α} (h : x.PanicsIn P) :
    (x.within get put).PanicsIn P := fun w m panicked => h (get w) m panicked

end PanicsIn

end Act

namespace Try

variable {κ σ τ ε ε' α β : Type}

/-- Every panic of the computation has a message in `P`; failing with an error is no panic. -/
def PanicsIn (P : String → Prop) (x : Try κ σ ε α) : Prop := Act.PanicsIn P x.run

/-- The computation never panics; it may still fail with an error. -/
abbrev Calm (x : Try κ σ ε α) : Prop := Try.PanicsIn (fun _ => False) x

lemma Calm.panicsIn {P : String → Prop} {x : Try κ σ ε α} (h : Try.Calm x) :
    Try.PanicsIn P x := Act.Calm.panicsIn h

namespace PanicsIn

variable {P : String → Prop}

lemma result {x : Try κ σ ε α} (h : Try.PanicsIn P x) : Act.PanicsIn P x.result := h

lemma pure (a : α) : Try.PanicsIn P (Pure.pure a : Try κ σ ε α) := Act.PanicsIn.pure _

lemma fail (e : ε) : Try.PanicsIn P (Try.fail e : Try κ σ ε α) := Act.PanicsIn.pure _

lemma ofExcept (r : Except ε α) : Try.PanicsIn P (Try.ofExcept r : Try κ σ ε α) :=
  Act.PanicsIn.pure r

lemma bind {x : Try κ σ ε α} {f : α → Try κ σ ε β} (hx : Try.PanicsIn P x)
    (hf : ∀ a, Try.PanicsIn P (f a)) : Try.PanicsIn P (x >>= f) := by
  unfold PanicsIn
  rw [ExceptT.run_bind]
  refine Act.PanicsIn.bind hx fun r => ?_
  cases r with
  | ok a => exact hf a
  | error e => exact Act.PanicsIn.pure _

lemma ite {c : Prop} [Decidable c] {x y : Try κ σ ε α} (hx : Try.PanicsIn P x)
    (hy : Try.PanicsIn P y) : Try.PanicsIn P (if c then x else y) := by
  split
  · exact hx
  · exact hy

lemma lift {x : Act κ σ α} (h : x.PanicsIn P) : Try.PanicsIn P (Try.lift x : Try κ σ ε α) := by
  unfold PanicsIn Try.lift
  rw [ExceptT.run_lift, map_eq_pure_bind]
  exact h.bind fun a => Act.PanicsIn.pure _

lemma log (level : Log.Level) (component : Log.Component) (message : String)
    (fields : List (String × String)) :
    Try.PanicsIn P (Try.log level component message fields : Try κ σ ε Unit) :=
  lift (Act.PanicsIn.log level component message fields)

lemma attempt {x : Try κ σ ε α} (h : Try.PanicsIn P x) :
    Try.PanicsIn P (Try.attempt x : Try κ σ ε' (Except ε α)) := lift h

lemma mapError {g : ε → ε'} {x : Try κ σ ε α} (h : Try.PanicsIn P x) :
    Try.PanicsIn P (Try.mapError g x) := by
  unfold PanicsIn Try.mapError ExceptT.adapt
  rw [ExceptT.run_mk, map_eq_pure_bind]
  exact Act.PanicsIn.bind h fun r => Act.PanicsIn.pure _

lemma ensuring {x : Try κ σ ε α} {release : Act κ σ Unit} (hx : Try.PanicsIn P x)
    (hr : release.PanicsIn P) : Try.PanicsIn P (ExceptT.mk (Act.ensuring x.run release)) :=
  Act.PanicsIn.ensuring hx hr

lemma within {get : τ → σ} {put : σ → τ → τ} {x : Try κ σ ε α} (h : Try.PanicsIn P x) :
    Try.PanicsIn P (Try.within get put x) := Act.PanicsIn.within h

end PanicsIn

end Try

end StartupBench
