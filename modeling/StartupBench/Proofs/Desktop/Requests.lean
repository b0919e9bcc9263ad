import StartupBench.Desktop.Basic
import StartupBench.Proofs.Act.Answers

/-!
# Requests to a desktop

Whoever holds a desktop may call its primitives in any order and as often as they like.
`Desktop.Request` is a call with its arguments, `Desktop.Reply` what comes of it, and `Desktop.ask`
makes the call and answers with both (`Desktop.Exchange`).  A primitive that panics does not end the
desktop, so that the panic is a reply as well; calls one after the other are `Act.each d.ask`.

The requests are the constructors of one type, so that what is said of every call is said once, with
a case for each primitive, and what is said of any calls in a row is an induction on a list.
`Proofs.Desktop.Addressed`, `Proofs.Desktop.Bookkeeping` and `Proofs.Desktop.Reaped` go about it in
this way.  A panic that is caught leaves the world as the primitive left it (`Desktop.ask_world`),
and a primitive that never comes back ends the whole row.
-/

namespace StartupBench

namespace Act

variable {κ σ α : Type}

/-- A panic is an answer where it is caught, so that `Act.catching` yields no panic. -/
@[simp] lemma yields_catching {x : Act κ σ α} {w : σ} {R : Except String α → σ → Prop}
    {P : String → σ → Prop} :
    x.catching.Yields w R P ↔ x.Yields w (fun a => R (.ok a)) fun m => R (.error m) := by
  unfold Yields catching
  rcases x w with ⟨a | m | k, w₁, n₁⟩ <;> simp

end Act

namespace Desktop

variable {κ σ : Type}

/-- A call of a primitive, with its arguments. -/
inductive Request where
  | findWindow (pattern : WindowPattern)
  | windowOwner (window : WindowId)
  | threadWindows (thread : ThreadId)
  | className (window : WindowId)
  | openProcess (pid : ProcessId)
  | postQuit (window : WindowId) (message : QuitMessage)
  | waitForExit (handle : Handle) (limit : Option Duration)
  | exitCode (handle : Handle)
  | closeProcess (handle : Handle)
  deriving DecidableEq, Repr

/-- What comes of a call, an answer or the message of a panic. -/
inductive Reply where
  | found (window : Option WindowId)
  | owner (answer : Except PrimitiveError (ThreadId × ProcessId))
  | windows (windows : List WindowId)
  | windowClass (name : Option String)
  | opened (answer : Except PrimitiveError Handle)
  | posted (answer : Except PrimitiveError Unit)
  | waited (answer : Except PrimitiveError Waited)
  | exitCode (answer : Except PrimitiveError (Option Int))
  | closed
  | panicked (message : String)

/-- What the primitive answers, as a `Reply` of its own kind. -/
def answer (d : Desktop κ σ) : Request → Act κ σ Reply
  | .findWindow p => .found <$> d.findWindow p
  | .windowOwner w => .owner <$> (d.windowOwner w).result
  | .threadWindows t => .windows <$> d.threadWindows t
  | .className w => .windowClass <$> d.className w
  | .openProcess pid => .opened <$> (d.openProcess pid).result
  | .postQuit w m => .posted <$> (d.postQuit w m).result
  | .waitForExit h limit => .waited <$> (d.waitForExit h limit).result
  | .exitCode h => .exitCode <$> (d.exitCode h).result
  | .closeProcess h => (fun _ => .closed) <$> d.closeProcess h

/-- A call and what came of it, as one piece of what was said. -/
structure Exchange where
  request : Request
  reply : Reply

/-- Call the primitive with `Desktop.answer`, and make a reply of a panic. -/
def ask (d : Desktop κ σ) (r : Request) : Act κ σ Exchange := do
  match ← (d.answer r).catching with
  | .ok reply => pure ⟨r, reply⟩
  | .error message => pure ⟨r, .panicked message⟩

variable {d : Desktop κ σ} {r : Request} {w w₁ : σ}

lemma yields_ask {R : Exchange → σ → Prop} {P : String → σ → Prop} :
    (d.ask r).Yields w R P ↔
      (d.answer r).Yields w (fun reply => R ⟨r, reply⟩) fun m => R ⟨r, .panicked m⟩ := by
  unfold ask
  rw [Act.yields_bind, Act.yields_catching]
  rfl

lemma ask_world (d : Desktop κ σ) (r : Request) (w : σ) :
    (d.ask r w).world = (d.answer r w).world := by
  unfold ask
  rw [Act.bind_run]
  unfold Act.catching
  rcases d.answer r w with ⟨reply | m | k, w₁, n₁⟩ <;> rfl

lemma ask_of_panicked {m : String} (out : (d.answer r w).outcome = .panicked m)
    (left : (d.answer r w).world = w₁) : (d.ask r).Answers w ⟨r, .panicked m⟩ w₁ := by
  have caught : (d.answer r).catching.Answers w (.error m) w₁ := by
    unfold Act.Answers Act.catching
    rcases h : d.answer r w with ⟨a | m' | k, w', n⟩ <;> rw [h] at out left <;> cases out
    exact ⟨rfl, left⟩
  exact caught.bind (Act.answers_pure _ _)

lemma ask_answers {reply : Reply} (h : (d.answer r).Answers w reply w₁) :
    (d.ask r).Answers w ⟨r, reply⟩ w₁ := h.catching.bind (Act.answers_pure _ _)

end Desktop

end StartupBench
