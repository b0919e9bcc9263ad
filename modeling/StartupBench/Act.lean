import StartupBench.Log

/-!
# Computations over a world that can fail, panic or be cut short

The benchmark talks to collaborators (a desktop, a launcher, a tracer, …) that may keep state of
their own, may answer anything and may panic.  `Act κ σ α` is such a computation: it takes a world
`σ` and always gives a world back, whatever the way out.  There are three of them:

* `Outcome.returned`: an ordinary answer; an answer that is an error is a value of `Except`, and
  `Try` is the computation whose answers are of that kind;
* `Outcome.panicked`: control leaves every caller, and only releases registered with
  `Act.ensuring` still run;
* `Outcome.stopped`: control never comes back, so that nothing at all runs any more, no release
  either.  This happens for a reason of type `κ` that the computation gives, or because the process
  is aborted: a release has panicked while another panic was on its way out (`Stop.aborted`).

Beside its answer a computation produces notices, in order: log events and text for the console.

## Main definitions

* `Act`, `Try`: computations, and computations that may answer with an error;
* `Act.ensuring`: run a release on every way out on which control comes back;
* `Act.within`: run a computation on a part of the world.
-/

namespace StartupBench

/-! ## Outcomes and notices -/

/-- Why control never comes back. -/
inductive Stop (κ : Type) where
  /-- A release has panicked during a panic, and the process is aborted. -/
  | aborted
  /-- For a reason that the computation gives. -/
  | because (reason : κ)
  deriving DecidableEq, Repr

instance {κ : Type} : Coe κ (Stop κ) := ⟨Stop.because⟩

/-- How a computation ends. -/
inductive Outcome (κ α : Type) where
  | returned (value : α)
  | panicked (message : String)
  | stopped (why : Stop κ)
  deriving Repr

/-- Something the user may come to see. -/
inductive Notice where
  | event (e : Log.Event)
  | console (text : String)
  deriving DecidableEq, Repr

/-- The log event of a notice, if it is one. -/
def Notice.event? : Notice → Option Log.Event
  | .event e => some e
  | .console _ => none

/-- What running a computation leaves behind. -/
structure Ran (κ σ α : Type) where
  outcome : Outcome κ α
  world : σ
  notices : List Notice := []

/-- A computation over a world `σ`. -/
def Act (κ σ α : Type) : Type := σ → Ran κ σ α

/-- A computation that may answer with an error `ε`. -/
abbrev Try (κ σ ε α : Type) : Type := ExceptT ε (Act κ σ) α

namespace Act

variable {κ σ τ α β : Type}

/-! ## The monad -/

/-- Answer at once. -/
protected def pure (a : α) : Act κ σ α := fun w => ⟨.returned a, w, []⟩

/-- Run `x`, then what `f` makes of its answer.  A panic or a stop of `x` is the way out of the
whole. -/
protected def bind (x : Act κ σ α) (f : α → Act κ σ β) : Act κ σ β := fun w =>
  match x w with
  | ⟨.returned a, w₁, n₁⟩ =>
    let r := f a w₁
    ⟨r.outcome, r.world, n₁ ++ r.notices⟩
  | ⟨.panicked m, w₁, n₁⟩ => ⟨.panicked m, w₁, n₁⟩
  | ⟨.stopped k, w₁, n₁⟩ => ⟨.stopped k, w₁, n₁⟩

instance : Monad (Act κ σ) where
  pure := Act.pure
  bind := Act.bind

theorem pure_run (a : α) (w : σ) : (pure a : Act κ σ α) w = ⟨.returned a, w, []⟩ := rfl

theorem bind_run (x : Act κ σ α) (f : α → Act κ σ β) (w : σ) :
    (x >>= f) w =
      match x w with
      | ⟨.returned a, w₁, n₁⟩ => ⟨(f a w₁).outcome, (f a w₁).world, n₁ ++ (f a w₁).notices⟩
      | ⟨.panicked m, w₁, n₁⟩ => ⟨.panicked m, w₁, n₁⟩
      | ⟨.stopped k, w₁, n₁⟩ => ⟨.stopped k, w₁, n₁⟩ := rfl

@[ext] protected theorem ext {x y : Act κ σ α} (h : ∀ w, x w = y w) : x = y := funext h

instance : LawfulMonad (Act κ σ) := LawfulMonad.mk' (Act κ σ)
  (fun x => by
    ext w
    show Act.bind x (fun a => Act.pure a) w = x w
    unfold Act.bind Act.pure
    rcases x w with ⟨_ | _ | _, _, _⟩ <;> simp)
  (fun a f => by
    ext w
    show Act.bind (Act.pure a) f w = f a w
    simp [Act.bind, Act.pure])
  (fun x f g => by
    ext w
    show Act.bind (Act.bind x f) g w = Act.bind x (fun a => Act.bind (f a) g) w
    unfold Act.bind
    rcases x w with ⟨a | m | k, w₁, n₁⟩
    · dsimp only
      rcases f a w₁ with ⟨_ | _ | _, _, _⟩ <;> simp
    · rfl
    · rfl)

/-! ## Elementary computations -/

/-- The world as it is. -/
def world : Act κ σ σ := fun w => ⟨.returned w, w, []⟩

/-- Ask a question that may change the world. -/
def step (f : σ → α × σ) : Act κ σ α := fun w => ⟨.returned (f w).1, (f w).2, []⟩

/-- A function of the world. -/
def reading (f : σ → α) : Act κ σ α := fun w => ⟨.returned (f w), w, []⟩

/-- Change the world. -/
def update (f : σ → σ) : Act κ σ Unit := fun w => ⟨.returned (), f w, []⟩

/-- Leave every caller. -/
def panic (message : String) : Act κ σ α := fun w => ⟨.panicked message, w, []⟩

/-- Never come back. -/
def stop (reason : κ) : Act κ σ α := fun w => ⟨.stopped (.because reason), w, []⟩

/-- Produce a notice. -/
def notify (n : Notice) : Act κ σ Unit := fun w => ⟨.returned (), w, [n]⟩

/-- Write a log event. -/
def log (level : Log.Level) (component : Log.Component) (message : String)
    (fields : List (String × String) := []) : Act κ σ Unit :=
  notify (.event ⟨level, component, message, fields⟩)

/-- Write text to the console. -/
def console (text : String) : Act κ σ Unit := notify (.console text)

/-! ## Long runs

Computations one after the other, as many as a loop or a list says.  They keep the notices so far in
an array and come back to the caller only once, so that their number does not matter;
`first_succ` and `each_cons` say that they are nothing else than computations in sequence.
-/

/-- Run `body` for `k`, `k + 1`, …, at most `fuel` times, until it has an answer.  `said` is what
was noticed before. -/
def firstAfter (body : Nat → Act κ σ (Option α)) :
    (fuel k : Nat) → (said : Array Notice) → σ → Ran κ σ (Option α)
  | 0, _, said, w => ⟨.returned none, w, said.toList⟩
  | fuel + 1, k, said, w =>
    match body k w with
    | ⟨.returned none, w₁, n⟩ => firstAfter body fuel (k + 1) (said ++ n) w₁
    | ⟨.returned (some a), w₁, n⟩ => ⟨.returned (some a), w₁, (said ++ n).toList⟩
    | ⟨.panicked m, w₁, n⟩ => ⟨.panicked m, w₁, (said ++ n).toList⟩
    | ⟨.stopped r, w₁, n⟩ => ⟨.stopped r, w₁, (said ++ n).toList⟩

/-- The first answer of `body` for `k`, `k + 1`, …, if one of the first `fuel` of them has one. -/
def first (body : Nat → Act κ σ (Option α)) (fuel k : Nat) : Act κ σ (Option α) :=
  firstAfter body fuel k #[]

theorem firstAfter_eq (body : Nat → Act κ σ (Option α)) (fuel k : Nat) (said : Array Notice)
    (w : σ) :
    firstAfter body fuel k said w =
      ⟨(first body fuel k w).outcome, (first body fuel k w).world,
        said.toList ++ (first body fuel k w).notices⟩ := by
  unfold first
  induction fuel generalizing k said w with
  | zero => simp [firstAfter]
  | succ fuel ih =>
    simp only [firstAfter]
    rcases body k w with ⟨(_ | a) | m | r, w₁, n⟩
    · simp only
      rw [ih, ih (k + 1) (#[] ++ n)]
      simp
    all_goals simp

theorem first_zero (body : Nat → Act κ σ (Option α)) (k : Nat) :
    first body 0 k = pure none := rfl

theorem first_succ (body : Nat → Act κ σ (Option α)) (fuel k : Nat) :
    first body (fuel + 1) k = (do
      match ← body k with
      | some a => pure (some a)
      | none => first body fuel (k + 1)) := by
  ext w
  rw [bind_run]
  unfold first
  simp only [firstAfter]
  rcases body k w with ⟨(_ | a) | m | r, w₁, n⟩
  · simp only
    rw [firstAfter_eq]
    simp [first]
  all_goals simp [pure_run]

/-- Run `f` for the members of a list.  `done` are the answers before, the last one first. -/
def eachAfter (f : α → Act κ σ β) :
    List α → (done : List β) → (said : Array Notice) → σ → Ran κ σ (List β)
  | [], done, said, w => ⟨.returned done.reverse, w, said.toList⟩
  | a :: rest, done, said, w =>
    match f a w with
    | ⟨.returned b, w₁, n⟩ => eachAfter f rest (b :: done) (said ++ n) w₁
    | ⟨.panicked m, w₁, n⟩ => ⟨.panicked m, w₁, (said ++ n).toList⟩
    | ⟨.stopped r, w₁, n⟩ => ⟨.stopped r, w₁, (said ++ n).toList⟩

/-- The answers of `f` for the members of a list. -/
def each (f : α → Act κ σ β) (as : List α) : Act κ σ (List β) := eachAfter f as [] #[]

theorem eachAfter_eq (f : α → Act κ σ β) (as : List α) (done : List β) (said : Array Notice)
    (w : σ) :
    eachAfter f as done said w =
      ⟨match (each f as w).outcome with
        | .returned bs => .returned (done.reverse ++ bs)
        | .panicked m => .panicked m
        | .stopped r => .stopped r,
        (each f as w).world, said.toList ++ (each f as w).notices⟩ := by
  unfold each
  induction as generalizing done said w with
  | nil => simp [eachAfter]
  | cons a rest ih =>
    simp only [eachAfter]
    rcases f a w with ⟨b | m | r, w₁, n⟩
    · simp only
      rw [ih, ih [b] (#[] ++ n)]
      cases (eachAfter f rest [] #[] w₁).outcome <;> simp
    all_goals simp

theorem each_nil (f : α → Act κ σ β) : each f [] = pure [] := rfl

theorem each_cons (f : α → Act κ σ β) (a : α) (rest : List α) :
    each f (a :: rest) = (do
      let b ← f a
      let bs ← each f rest
      pure (b :: bs)) := by
  ext w
  show eachAfter f (a :: rest) [] #[] w = _
  rw [bind_run]
  simp only [eachAfter]
  rcases f a w with ⟨b | m | r, w₁, n⟩
  · simp only
    rw [eachAfter_eq, bind_run]
    rcases each f rest w₁ with ⟨_ | _ | _, _, _⟩ <;> simp [pure_run]
  all_goals simp

/-! ## Releases and parts of the world -/

/-- Run `release` after `body` on every way out on which control comes back.  A panic of the release
after an answer of the body leaves every caller as any panic does; a panic of the release during a
panic of the body aborts the process, so that the releases of the callers do not run any more. -/
def ensuring (body : Act κ σ α) (release : Act κ σ Unit) : Act κ σ α := fun w =>
  match body w with
  | ⟨.returned a, w₁, n₁⟩ =>
    let r := release w₁
    match r.outcome with
    | .returned () => ⟨.returned a, r.world, n₁ ++ r.notices⟩
    | .panicked m => ⟨.panicked m, r.world, n₁ ++ r.notices⟩
    | .stopped k => ⟨.stopped k, r.world, n₁ ++ r.notices⟩
  | ⟨.panicked m, w₁, n₁⟩ =>
    let r := release w₁
    match r.outcome with
    | .returned () => ⟨.panicked m, r.world, n₁ ++ r.notices⟩
    | .panicked _ => ⟨.stopped .aborted, r.world, n₁ ++ r.notices⟩
    | .stopped k => ⟨.stopped k, r.world, n₁ ++ r.notices⟩
  | ⟨.stopped k, w₁, n₁⟩ => ⟨.stopped k, w₁, n₁⟩

/-- A panic as an answer. -/
def catching (body : Act κ σ α) : Act κ σ (Except String α) := fun w =>
  match body w with
  | ⟨.returned a, w₁, n₁⟩ => ⟨.returned (.ok a), w₁, n₁⟩
  | ⟨.panicked m, w₁, n₁⟩ => ⟨.returned (.error m), w₁, n₁⟩
  | ⟨.stopped k, w₁, n₁⟩ => ⟨.stopped k, w₁, n₁⟩

/-- Run a computation on the part of the world that `get` reads and `put` writes back. -/
def within (get : τ → σ) (put : σ → τ → τ) (x : Act κ σ α) : Act κ τ α := fun w =>
  let r := x (get w)
  ⟨r.outcome, put r.world w, r.notices⟩

/-- Run a computation on a larger world that is made for it and given up after it. -/
def enclosed (make : σ → τ) (rest : τ → σ) (x : Act κ τ α) : Act κ σ α :=
  within make (fun t _ => rest t) x

end Act

namespace Try

variable {κ σ τ ε ε' α : Type}

/-- Answer with an error. -/
def fail (e : ε) : Try κ σ ε α := throw e

/-- The answer, error or not, as a value. -/
def result (x : Try κ σ ε α) : Act κ σ (Except ε α) := x.run

/-- A computation that does not fail. -/
def lift (x : Act κ σ α) : Try κ σ ε α := ExceptT.lift x

/-- The answer, error or not, as a value of a computation that may itself fail. -/
def attempt (x : Try κ σ ε α) : Try κ σ ε' (Except ε α) := lift x.run

/-- Change the type of errors. -/
def mapError (f : ε → ε') (x : Try κ σ ε α) : Try κ σ ε' α := ExceptT.adapt f x

/-- Run a computation on a part of the world. -/
def within (get : τ → σ) (put : σ → τ → τ) (x : Try κ σ ε α) : Try κ τ ε α :=
  ExceptT.mk (Act.within get put x.run)

/-- Ask a question that may fail and may change the world. -/
def step (f : σ → Except ε α × σ) : Try κ σ ε α := ExceptT.mk (Act.step f)

/-- Write a log event. -/
def log (level : Log.Level) (component : Log.Component) (message : String)
    (fields : List (String × String) := []) : Try κ σ ε Unit :=
  ExceptT.lift (Act.log level component message fields)

/-- The world as it is. -/
def world : Try κ σ ε σ := ExceptT.lift Act.world

/-- Change the world. -/
def update (f : σ → σ) : Try κ σ ε Unit := ExceptT.lift (Act.update f)

/-- A value that may be an error. -/
def ofExcept (x : Except ε α) : Try κ σ ε α := ExceptT.mk (pure x)

end Try

end StartupBench
