import StartupBench.Proofs.Desktop.ExitCodes
import StartupBench.Proofs.Desktop.Requests

/-!
# Children that were waited for

When a child has exited, the system lets go of it as soon as it is asked after: from then on it
knows no such child.  The desktop over a table of processes keeps the exit code, but every further
wait for the child puts in its place that nothing is known, because all that can be seen then is
that the process is gone.  And since exit codes are kept under the number of a process, to give one
handle back takes the exit code away from all others.

`Reaps` says of the system how it lets go of a child.  Two facts are carried from call to call: a
known exit code is that of a child that was let go of (`Credible`), and what is known of such a
child (`Known`).  Together they tell which exit code is answered in the end
(`ProcessTable.exitCode_forgotten`).

## Before the first exit is seen

Any calls may come before.  None of them brings the child back (`ProcessTable.Reaps.answer`), and
none makes an exit code incredible; the one that sees the process to have exited makes it `Credible`
even if it was not before (`ProcessTable.ask_credible`), as it puts what it saw in the place of what
was kept.

## After it

From then on all looks are alike (`ProcessTable.pollExit_known`), and what is known changes only by
the calls that `Exchange.forgets` tells: a further wait, or the handle given back.  This is one
step, `ProcessTable.ask_known`, and a list of requests is an induction on it.
-/

namespace StartupBench

variable {κ σ : Type}

/-- Where `I` holds before, it holds after, so that `I` is an invariant of what relates the two. -/
def Preserves (I : σ → Prop) (s s₁ : σ) : Prop := I s → I s₁

instance (I : σ → Prop) : IsPreorder σ (Preserves I) where
  refl _ := id
  trans _ _ _ h h₁ := h₁ ∘ h

/-! ## Calls of a desktop that matter -/

namespace Desktop

variable {d : Desktop κ σ}

/-- What every primitive respects is respected by every call, whichever `Request` it is. -/
lemma Tracks.answer {S : σ → σ → Prop} [IsPreorder σ S] (h : d.Tracks id S d) (r : Request) :
    (d.answer r).Respects S := by
  cases r with
  | findWindow p => exact (h.looks.findWindow p).respects.map _
  | windowOwner w => exact (h.looks.windowOwner w).respects.map _
  | threadWindows t => exact (h.looks.threadWindows t).respects.map _
  | className w => exact (h.looks.className w).respects.map _
  | openProcess pid => exact (h.openProcess pid).respects.map _
  | postQuit w m => exact ((h.uses default).postQuit w m).respects.map _
  | waitForExit handle limit => exact ((h.uses handle).waitForExit limit).respects.map _
  | exitCode handle => exact (h.uses handle).exitCode.respects.map _
  | closeProcess handle => exact (h.closeProcess handle).respects.map _

/-- The call neither waits for the process nor gives a handle to it back. -/
def Request.Spares (pid : ProcessId) : Request → Prop
  | .waitForExit handle _ => handle.pid ≠ pid
  | .closeProcess handle => handle.pid ≠ pid
  | _ => True

namespace Exchange

/-- A wait for the process ended with its exit, as the `Reply` of the exchange says. -/
def seesExit (pid : ProcessId) : Exchange → Bool
  | ⟨.waitForExit handle _, .waited (.ok .exited)⟩ => handle.pid = pid
  | _ => false

/-- A wait for the process came back, or a handle to it was given back. -/
def forgets (pid : ProcessId) : Exchange → Bool
  | ⟨.waitForExit handle _, .waited _⟩ => handle.pid = pid
  | ⟨.closeProcess handle, .closed⟩ => handle.pid = pid
  | _ => false

lemma seesExit_of_spares {pid : ProcessId} {r : Request} (h : r.Spares pid) (reply : Reply) :
    seesExit pid ⟨r, reply⟩ = false := by
  cases r with
  | waitForExit handle limit =>
    have apart : handle.pid ≠ pid := h
    unfold seesExit
    split <;> simp_all
  | _ => rfl

lemma forgets_of_spares {pid : ProcessId} {r : Request} (h : r.Spares pid) (reply : Reply) :
    forgets pid ⟨r, reply⟩ = false := by
  cases r with
  | waitForExit handle limit | closeProcess handle =>
    have apart : handle.pid ≠ pid := h
    unfold forgets
    split <;> simp_all
  | _ => rfl

end Exchange

end Desktop

namespace ProcessTable

open Desktop (Request Reply Exchange)

/-! ## What the system knows of a child -/

/-- In the worlds `reaped` the child was asked after when it had exited.  The system lets go of it
then, once and for all: it knows no such child any more, and no such process. -/
structure Reaps (c : ProcessCalls κ σ) (pid : ProcessId) (reaped : σ → Prop) : Prop where
  seen : ∀ s, Try.Yields (c.poll (rawPid pid)) s (fun state s₁ => state ≠ .running → reaped s₁)
    (fun _ _ => True) fun _ _ => True
  noChild : ∀ s, reaped s →
    Try.Yields (c.poll (rawPid pid)) s (fun _ _ => False) (fun e _ => e = .noChild)
      fun _ _ => False
  gone : ∀ s, reaped s →
    Try.Yields (c.probe (rawPid pid)) s (fun _ _ => False) (fun _ _ => True) fun _ _ => False
  list : Try.Respects (Preserves reaped) c.list
  probe : ∀ n, Try.Respects (Preserves reaped) (c.probe n)
  terminate : ∀ n, Try.Respects (Preserves reaped) (c.terminate n)
  poll : ∀ n, Try.Respects (Preserves reaped) (c.poll n)
  now : c.now.Respects (Preserves reaped)
  sleep : ∀ time, (c.sleep time).Respects (Preserves reaped)

section

variable {c : ProcessCalls κ σ} {pid : ProcessId} {reaped : σ → Prop}

lemma Reaps.questions (h : Reaps c pid reaped) :
    TracksQuestions id (Preserves reaped) c c where
  own := rfl
  list := h.list.tracks
  probe n := (h.probe n).tracks
  poll n := (h.poll n).tracks
  now := h.now.tracks
  sleep time := (h.sleep time).tracks

/-- No call brings the child back, since none of the system calls does. -/
lemma Reaps.answer (h : Reaps c pid reaped) (hung : κ) (looks : ℕ) (r : Request) :
    ((desktop c hung looks).answer r).Respects (Around (Preserves reaped)) :=
  (desktop_tracks h.questions hung looks fun n => (h.terminate n).tracks).answer r

end

/-! ## Calls that leave an exit code alone -/

section Frame

variable (c : ProcessCalls κ σ) (hung : κ) (looks : ℕ) {γ : Type} {f : ExitCodes → γ}
  {q : ProcessId}

/-- A look at a process changes nothing but what is known of it, so that any `f` that does not read
this is `Kept`. -/
lemma pollExit_kept (hf : ∀ m code, f (m.insert q code) = f m) :
    Try.Respects (Kept f) (pollExit c q) := by
  have noted : ∀ code, Try.Respects (Kept f)
      (do
        Try.lift (note fun m => m.insert q code)
        pure true : Try κ (World σ) PrimitiveError Bool) := by
    intro code
    refine (Try.Respects.lift (Act.Respects.update fun w => ?_)).bind fun _ => Try.Respects.pure _
    exact hf w.exitCodes code
  unfold pollExit
  refine (Try.Respects.lift (trying_kept f _)).bind fun out => ?_
  cases out with
  | ok state =>
    cases state with
    | running => exact Try.Respects.pure _
    | exited code => exact noted _
    | killed signal => exact noted _
  | error e =>
    cases e with
    | noChild =>
      refine (Try.Respects.lift (trying_kept f _)).bind fun out => ?_
      cases out with
      | ok _ => exact Try.Respects.pure _
      | error _ => exact noted _
    | _ => exact Try.Respects.fail _

lemma look_kept (hf : ∀ m code, f (m.insert q code) = f m) (deadline : Option Instant) :
    (look c q deadline).Respects (Kept f) := by
  unfold look
  refine Act.Respects.bind (pollExit_kept c hf) fun out => ?_
  cases out with
  | error e => exact Act.Respects.pure _
  | ok exited =>
    cases exited with
    | true => exact Act.Respects.pure _
    | false =>
      refine (reached_kept f c deadline).bind fun late => Act.Respects.ite (Act.Respects.pure _) ?_
      exact (asking_kept f _).bind fun _ => Act.Respects.pure _

/-- A wait for a process changes nothing but what is known of it, as each of its looks does. -/
lemma waitForExit_kept {handle : Handle} (hf : ∀ m code, f (m.insert handle.pid code) = f m)
    (limit : Option Duration) :
    Try.Respects (Kept f) ((desktop c hung looks).waitForExit handle limit) := by
  refine (Try.Respects.lift (deadline_kept f c limit)).bind fun d => ?_
  refine Act.Respects.bind (Act.Respects.first (fun _ => look_kept c hf d) looks 0) fun out => ?_
  cases out with
  | some ending => exact Act.Respects.pure ending
  | none => exact fun w => rfl

/-- A call that spares a process (`Request.Spares`) leaves alone what is known of it. -/
lemma answer_kept {pid : ProcessId} {r : Request} (h : r.Spares pid) :
    ((desktop c hung looks).answer r).Respects (Kept (· pid)) := by
  have looking := looks_kept (fun m => m pid) c hung looks
  cases r with
  | findWindow p => exact (looking.findWindow p).respects.map _
  | windowOwner w => exact (looking.windowOwner w).respects.map _
  | threadWindows t => exact (looking.threadWindows t).respects.map _
  | className w => exact (looking.className w).respects.map _
  | openProcess p =>
    have opened : Try.Respects (Kept (· pid)) ((desktop c hung looks).openProcess p) :=
      (calling_kept _ "kill" _).bind fun _ => Try.Respects.pure _
    exact opened.map _
  | postQuit w m => exact Act.Respects.map (postQuit_kept _ c hung looks w m) _
  | waitForExit handle limit =>
    have other : ∀ (m : ExitCodes) code, m.insert handle.pid code pid = m pid :=
      fun m code => if_neg (Ne.symm h)
    exact Act.Respects.map (waitForExit_kept c hung looks other limit) _
  | exitCode handle =>
    have asked : Act.Respects (Kept (· pid)) ((desktop c hung looks).exitCode handle).result :=
      fun _ => rfl
    exact asked.map _
  | closeProcess handle =>
    have closed : ((desktop c hung looks).closeProcess handle).Respects (Kept (· pid)) :=
      fun _ => if_neg (Ne.symm h)
    exact closed.map _

end Frame

section LeftAlone

/-- What is known of the process is left alone, and the child stays gone. -/
def LeftAlone (reaped : σ → Prop) (pid : ProcessId) (w w₁ : World σ) : Prop :=
  Kept (· pid) w w₁ ∧ Around (Preserves reaped) w w₁

variable {c : ProcessCalls κ σ} {pid : ProcessId} {reaped : σ → Prop} (reaps : Reaps c pid reaped)
include reaps

lemma deadline_leaves (limit : Option Duration) :
    (deadline c limit).Respects (LeftAlone reaped pid) := fun w =>
  ⟨deadline_kept _ c limit w, (deadline_about reaps.questions.about limit).respects w⟩

lemma reached_leaves (limit : Option Instant) :
    (reached c limit).Respects (LeftAlone reaped pid) := fun w =>
  ⟨reached_kept _ c limit w, (reached_about reaps.questions.about limit).respects w⟩

lemma answer_leaves (hung : κ) (looks : ℕ) {r : Request} (h : r.Spares pid) :
    ((desktop c hung looks).answer r).Respects (LeftAlone reaped pid) := fun w =>
  ⟨answer_kept c hung looks h w, reaps.answer hung looks r w⟩

end LeftAlone

/-! ## Exit codes that can be relied on -/

section Credible

/-- If an exit code of the process is known, it is that of a child that was let go of. -/
def Credible (reaped : σ → Prop) (pid : ProcessId) (w : World σ) : Prop :=
  ∀ code, w.exitCodes pid = some (some code) → reaped w.outside

variable {c : ProcessCalls κ σ} {pid : ProcessId} {reaped : σ → Prop} {w w₁ : World σ}

lemma Credible.kept (h : Credible reaped pid w) (left : LeftAlone reaped pid w w₁) :
    Credible reaped pid w₁ := by
  intro code known
  have before : w₁.exitCodes pid = w.exitCodes pid := left.1
  exact left.2 (h code (before.symm.trans known))

variable (reaps : Reaps c pid reaped)
include reaps

/-- What is known of a process that is seen to have exited can be relied on: it is `Credible` after
that look, whatever was kept before. -/
lemma pollExit_credible (w : World σ) :
    Try.Yields (pollExit c pid) w
      (fun exited w₁ => Credible reaped pid w ∨ exited = true → Credible reaped pid w₁)
      (fun _ => Preserves (Credible reaped pid) w) fun _ => Preserves (Credible reaped pid) w := by
  have let_go : ∀ (s : σ) (code : Option Int), (∀ n, code = some n → reaped s) →
      Credible reaped pid ⟨w.exitCodes.insert pid code, s⟩ := by
    intro s code known n hn
    have inserted : (w.exitCodes.insert pid code) pid = some (some n) := hn
    rw [insert_self] at inserted
    exact known n (Option.some.inj inserted)
  have looked : Try.Yields (pollExit c pid) w
      (fun exited w₁ => Kept (· pid) w w₁ ∧ exited = false ∨ Credible reaped pid w₁)
      (fun _ => Kept (· pid) w) fun _ => Kept (· pid) w := by
    unfold pollExit
    rw [Try.yields_bind, Try.yields_attempt, trying, Try.yields_within]
    refine (reaps.seen w.outside).mono (fun state s seen => ?_) (fun e s _ => ?_) fun _ s _ => rfl
    · cases state with
      | running => exact .inl ⟨rfl, rfl⟩
      | exited code => exact .inr (let_go s _ fun _ _ => seen (by simp))
      | killed signal => exact .inr (let_go s _ fun _ _ => seen (by simp))
    · cases e with
      | noChild =>
        dsimp only
        rw [Try.yields_bind, Try.yields_attempt, trying, Try.yields_within]
        refine Try.Yields.anyway (fun _ s => ?_) (fun _ s => ?_) fun _ s => rfl
        · exact .inl ⟨rfl, rfl⟩
        · exact .inr (let_go s none (by simp))
      | _ => exact rfl
  have around := (pollExit_tracks reaps.questions pid).respects.yields w
  refine (looked.and around).mono (fun exited w₁ h => ?_) (fun _ w₁ h hw => hw.kept h)
    fun _ w₁ h hw => hw.kept h
  obtain ⟨⟨codes, running⟩ | credible, around⟩ := h
  · rintro (hw | exited)
    · exact hw.kept ⟨codes, around⟩
    · rw [running] at exited
      cases exited
  · exact fun _ => credible

lemma look_credible (deadline : Option Instant) (w : World σ) :
    (look c pid deadline).Yields w
      (fun ending w₁ =>
        Credible reaped pid w ∨ ending = some (.ok .exited) → Credible reaped pid w₁)
      fun _ => Preserves (Credible reaped pid) w := by
  have pause : (asking (c.sleep pollInterval)).Respects (LeftAlone reaped pid) :=
    fun w₁ => ⟨asking_kept _ _ w₁, reaps.sleep _ w₁.outside⟩
  unfold look
  rw [Act.yields_bind, Try.yields_result]
  refine (pollExit_credible reaps w).mono (fun exited w₁ h => ?_)
    (fun e w₁ h hw => hw.elim h nofun) fun _ w₁ h => h
  cases exited with
  | true => exact fun _ => h (.inr rfl)
  | false =>
    dsimp only
    rw [Act.yields_bind]
    refine ((reached_leaves reaps deadline).yields w₁).imp (fun timedOut w₂ h₂ => ?_)
      (fun _ w₂ h₂ hw => (h (.inl hw)).kept h₂) fun _ _ _ => trivial
    rw [Act.yields_ite]
    split
    · exact fun hw => hw.elim (fun hw => (h (.inl hw)).kept h₂) nofun
    · rw [Act.yields_bind]
      refine (pause.yields w₂).imp (fun _ w₃ h₃ => ?_)
        (fun _ w₃ h₃ hw => ((h (.inl hw)).kept h₂).kept h₃) fun _ _ _ => trivial
      exact fun hw => hw.elim (fun hw => ((h (.inl hw)).kept h₂).kept h₃) nofun

variable (hung : κ) (looks : ℕ)

lemma waitForExit_credible {handle : Handle} (same : handle.pid = pid) (limit : Option Duration)
    (w : World σ) :
    Try.Yields ((desktop c hung looks).waitForExit handle limit) w
      (fun waited w₁ => Credible reaped pid w ∨ waited = .exited → Credible reaped pid w₁)
      (fun _ => Preserves (Credible reaped pid) w) fun _ => Preserves (Credible reaped pid) w := by
  subst same
  have started := (deadline_leaves reaps limit).keeps
    (I := Preserves (Credible reaped handle.pid) w) fun w₁ left hw => hw.kept left
  refine waitForExit_of_looks hung looks started fun d w₁ h₁ => ?_
  refine (look_credible reaps d w₁).mono (fun ending w₂ h₂ => ?_) fun _ w₂ h₂ hw => h₂ (h₁ hw)
  cases ending with
  | none => exact fun hw => h₂ (.inl (h₁ hw))
  | some ending =>
    cases ending with
    | ok waited =>
      rintro (hw | exited)
      · exact h₂ (.inl (h₁ hw))
      · exact h₂ (.inr (by rw [exited]))
    | error e => exact fun hw => h₂ (.inl (h₁ hw))

/-- A call leaves the exit code one that can be relied on, if it was or if the call sees the process
to have exited. -/
lemma ask_credible (r : Request) (w : World σ) :
    ((desktop c hung looks).ask r).Yields w
      (fun e w₁ => Credible reaped pid w ∨ e.seesExit pid = true → Credible reaped pid w₁)
      fun _ _ => False := by
  rw [Desktop.yields_ask]
  by_cases spares : r.Spares pid
  · refine ((answer_leaves reaps hung looks spares).yields w).imp (fun reply w₁ h => ?_)
      (fun m w₁ h => ?_) fun _ _ _ => trivial
    all_goals
      rw [Exchange.seesExit_of_spares spares]
      exact fun hw => hw.elim (fun hw => hw.kept h) nofun
  · cases r with
    | waitForExit handle limit =>
      have same : handle.pid = pid := not_not.1 spares
      show Act.Yields (Reply.waited <$> ((desktop c hung looks).waitForExit handle limit).result)
        w _ _
      rw [Act.yields_map, Try.yields_result]
      refine (waitForExit_credible reaps hung looks same limit w).mono (fun waited w₁ h => ?_)
        (fun e w₁ h hw => hw.elim h nofun) fun m w₁ h hw => hw.elim h nofun
      cases waited with
      | exited => exact fun _ => h (.inr rfl)
      | timedOut => exact fun hw => hw.elim (fun hw => h (.inl hw)) nofun
    | closeProcess handle =>
      have same : handle.pid = pid := not_not.1 spares
      intro _ code known
      have erased : (w.exitCodes.erase handle.pid) pid = some (some code) := known
      rw [same, ExitCodes.erase, if_pos rfl] at erased
      cases erased
    | _ => exact absurd trivial spares

/-- Once a call has seen the process to have exited, its exit code can be relied on, as no later
call makes it less `Credible`. -/
lemma each_credible {requests : List Request} {said : List Exchange} {w w₁ : World σ}
    (h : (Act.each (desktop c hung looks).ask requests).Answers w said w₁)
    (start : Credible reaped pid w ∨ ∃ e ∈ said, e.seesExit pid = true) :
    Credible reaped pid w₁ := by
  induction requests generalizing w said with
  | nil =>
    obtain ⟨rfl, rfl⟩ := Act.answers_each_nil_iff.1 h
    obtain credible | ⟨e, mem, -⟩ := start
    · exact credible
    · exact absurd mem List.not_mem_nil
  | cons r rest ih =>
    obtain ⟨e, later, w', rfl, first, after⟩ := Act.answers_each_cons_iff.1 h
    have step := first.yields (ask_credible reaps hung looks r w)
    refine ih after ?_
    obtain credible | ⟨e', mem, sees⟩ := start
    · exact .inl (step (.inl credible))
    · obtain rfl | mem := List.mem_cons.1 mem
      · exact .inl (step (.inr sees))
      · exact .inr ⟨e', mem, sees⟩

end Credible

/-! ## What is known of a child that was let go of -/

section Known

/-- The child was let go of, and this is what is known of its exit code. -/
def Known (reaped : σ → Prop) (pid : ProcessId) (code : Option Int) (w : World σ) : Prop :=
  reaped w.outside ∧ (w.exitCodes pid).join = code

variable {c : ProcessCalls κ σ} {pid : ProcessId} {reaped : σ → Prop} {code : Option Int}
  {w w₁ : World σ}

lemma Known.kept (h : Known reaped pid code w) (left : LeftAlone reaped pid w w₁) :
    Known reaped pid code w₁ := by
  have same : w₁.exitCodes pid = w.exitCodes pid := left.1
  exact ⟨left.2 h.1, by rw [same, h.2]⟩

variable (reaps : Reaps c pid reaped)
include reaps

/-- All that can be seen of the child is that it is gone, and after such a look nothing is `Known`
of its exit code. -/
lemma pollExit_known (hw : reaped w.outside) :
    Try.Yields (pollExit c pid) w
      (fun exited w₁ => exited = true ∧ Known reaped pid none w₁) (fun _ _ => False)
      fun _ _ => False := by
  unfold pollExit
  rw [Try.yields_bind, Try.yields_attempt, trying, Try.yields_within]
  have polled := (reaps.noChild w.outside hw).and ((reaps.poll (rawPid pid)).yields w.outside)
  refine polled.mono (fun _ _ h => h.1.elim) (fun e s h => ?_) fun _ _ h => h.1
  obtain ⟨rfl, kept⟩ := h
  dsimp only
  rw [Try.yields_bind, Try.yields_attempt, trying, Try.yields_within]
  have probed := (reaps.gone s (kept hw)).and ((reaps.probe (rawPid pid)).yields s)
  refine probed.mono (fun _ _ h => h.1.elim) (fun e s₁ h => ?_) fun _ _ h => h.1
  have noted : (w.exitCodes.insert pid none pid).join = none := by rw [insert_self]; rfl
  exact ⟨rfl, h.2 (kept hw), noted⟩

lemma look_known (deadline : Option Instant) (hw : reaped w.outside) :
    (look c pid deadline).Yields w
      (fun ending w₁ => ending = some (.ok .exited) ∧ Known reaped pid none w₁)
      fun _ _ => False := by
  unfold look
  rw [Act.yields_bind, Try.yields_result]
  refine (pollExit_known reaps hw).mono (fun exited w₁ h => ?_) (fun _ _ => False.elim)
    fun _ _ => id
  obtain ⟨rfl, known⟩ := h
  exact ⟨rfl, known⟩

variable (hung : κ) (looks : ℕ)

/-- A further wait for the child sees at once that it has exited, and what was known is lost. -/
lemma waitForExit_known {handle : Handle} (same : handle.pid = pid) (limit : Option Duration)
    (hw : Known reaped pid code w) :
    Try.Yields ((desktop c hung looks).waitForExit handle limit) w
      (fun waited w₁ => waited = .exited ∧ Known reaped pid none w₁) (fun _ _ => False)
      fun _ => Known reaped pid code := by
  subst same
  have started := (deadline_leaves reaps limit).keeps
    (I := Known reaped handle.pid code) fun w₁ left => hw.kept left
  refine waitForExit_of_looks hung looks started fun d w₁ h₁ => ?_
  refine (look_known reaps d h₁.1).mono (fun ending w₂ h₂ => ?_) fun _ _ => False.elim
  obtain ⟨rfl, known⟩ := h₂
  exact ⟨rfl, known⟩

/-- What is known of the child stays as it is, but for a call that forgets it (`forgets`). -/
lemma ask_known (r : Request) (hw : Known reaped pid code w) :
    ((desktop c hung looks).ask r).Yields w
      (fun e w₁ => Known reaped pid (if e.forgets pid then none else code) w₁)
      fun _ _ => False := by
  rw [Desktop.yields_ask]
  by_cases spares : r.Spares pid
  · refine ((answer_leaves reaps hung looks spares).yields w).imp (fun reply w₁ h => ?_)
      (fun m w₁ h => ?_) fun _ _ _ => trivial
    all_goals
      rw [Exchange.forgets_of_spares spares, if_neg Bool.false_ne_true]
      exact hw.kept h
  · cases r with
    | waitForExit handle limit =>
      have same : handle.pid = pid := not_not.1 spares
      show Act.Yields (Reply.waited <$> ((desktop c hung looks).waitForExit handle limit).result)
        w _ _ _
      rw [Act.yields_map, Try.yields_result]
      refine (waitForExit_known reaps hung looks same limit hw).mono (fun waited w₁ h => ?_)
        (fun _ _ => False.elim) fun m w₁ h => h
      obtain ⟨rfl, known⟩ := h
      have forgets : Exchange.forgets pid ⟨.waitForExit handle limit, .waited (.ok .exited)⟩ :=
        decide_eq_true same
      rw [if_pos forgets]
      exact known
    | closeProcess handle =>
      have same : handle.pid = pid := not_not.1 spares
      have forgets : Exchange.forgets pid ⟨.closeProcess handle, .closed⟩ := decide_eq_true same
      have erased : (w.exitCodes.erase handle.pid pid).join = none := by
        rw [same, ExitCodes.erase, if_pos rfl]
        rfl
      show Known reaped pid _ { w with exitCodes := w.exitCodes.erase handle.pid }
      rw [if_pos forgets]
      exact ⟨hw.1, erased⟩
    | _ => exact absurd trivial spares

lemma each_known {requests : List Request} {said : List Exchange}
    (h : (Act.each (desktop c hung looks).ask requests).Answers w said w₁)
    (hw : Known reaped pid code w) :
    Known reaped pid (if said.any (·.forgets pid) then none else code) w₁ := by
  induction requests generalizing w said code with
  | nil =>
    obtain ⟨rfl, rfl⟩ := Act.answers_each_nil_iff.1 h
    exact hw
  | cons r rest ih =>
    obtain ⟨e, later, w', rfl, first, after⟩ := Act.answers_each_cons_iff.1 h
    have known := ih after (first.yields (ask_known reaps hung looks r hw))
    rw [List.any_cons]
    cases forgotten : e.forgets pid with
    | true =>
      simp only [forgotten, if_true, ite_self] at known
      exact known
    | false =>
      simp only [forgotten, Bool.false_eq_true, if_false] at known
      exact known

end Known

/-! ## The exit code that is answered -/

lemma exitCode_answers (c : ProcessCalls κ σ) (hung : κ) (looks : ℕ) (handle : Handle)
    (w : World σ) : ((desktop c hung looks).exitCode handle).result.Answers w
      (.ok (w.exitCodes handle.pid).join) w := ⟨rfl, rfl⟩

/-- **What becomes of an exit code.**  A wait has seen a process to have exited, and its exit code
was answered.  Whatever is called then, every handle to the process answers this exit code as long
as no further wait for it has come back and no handle to it was given back.  After either it is not
known any more, also by the handles that are still open. -/
theorem exitCode_forgotten {c : ProcessCalls κ σ} {pid : ProcessId} {reaped : σ → Prop}
    (reaps : Reaps c pid reaped) (hung : κ) (looks : ℕ) {earlier later : List Request}
    {said heard : List Exchange} {w w₁ w₂ : World σ} {handle other : Handle} {status : Int}
    (before : (Act.each (desktop c hung looks).ask earlier).Answers w said w₁)
    (exited : ∃ e ∈ said, e.seesExit pid = true) (same : handle.pid = pid)
    (known : ((desktop c hung looks).exitCode handle).result.Answers w₁ (.ok (some status)) w₁)
    (after : (Act.each (desktop c hung looks).ask later).Answers w₁ heard w₂)
    (too : other.pid = pid) :
    ((desktop c hung looks).exitCode other).result.Answers w₂
      (.ok (if heard.any (·.forgets pid) then none else some status)) w₂ := by
  subst same
  have answered := known.1.symm.trans (exitCode_answers c hung looks handle w₁).1
  have code : (w₁.exitCodes handle.pid).join = some status := by
    cases hcode : (w₁.exitCodes handle.pid).join <;> rw [hcode] at answered <;> cases answered
    rfl
  have credible : Credible reaped handle.pid w₁ :=
    each_credible reaps hung looks before (.inr exited)
  have start : Known reaped handle.pid (some status) w₁ :=
    ⟨credible status (Option.join_eq_some_iff.1 code), code⟩
  have finish := each_known reaps hung looks after start
  have answers := exitCode_answers c hung looks other w₂
  rw [too, finish.2] at answers
  exact answers

section ShortLived

/-- A process, and a handle to it. -/
def child : Handle := ⟨7, ⟨7⟩⟩

/-- A system with one child, which has exited with status 3.  The world tells whether the system has
let go of it. -/
def shortLived : ProcessCalls Unit Bool where
  own := ⟨1⟩
  list := pure []
  probe _ := Try.step fun gone => (if gone then .error .noProcess else .ok (), gone)
  terminate _ := Try.step fun gone => (if gone then .error .noProcess else .ok (), gone)
  poll _ := Try.step fun gone => (if gone then .error .noChild else .ok (.exited 3), true)
  now := pure ⟨0, 0⟩
  sleep _ := pure ()

lemma shortLived_reaps : Reaps shortLived child.pid (· = true) where
  seen s := by cases s <;> simp [shortLived, Try.step]
  noChild s gone := by subst gone; simp [shortLived, Try.step]
  gone s gone := by subst gone; simp [shortLived, Try.step]
  list := Try.Respects.pure _
  probe _ _ := id
  terminate _ _ := id
  poll _ _ _ := rfl
  now := Act.Respects.pure _
  sleep _ := Act.Respects.pure _

/-- The process was waited for, and its exit code is known, which makes the hypotheses of
`exitCode_forgotten` hold. -/
lemma shortLived_known : ∃ w₁, (Act.each (desktop shortLived () 1).ask
      [.openProcess child.pid, .waitForExit child (some ⟨5, 0⟩)]).Answers ⟨.empty, false⟩
      [⟨.openProcess child.pid, .opened (.ok child)⟩,
        ⟨.waitForExit child (some ⟨5, 0⟩), .waited (.ok .exited)⟩] w₁ ∧
    ((desktop shortLived () 1).exitCode child).result.Answers w₁ (.ok (some 3)) w₁ ∧
    w₁.outside = true := ⟨_, ⟨rfl, rfl⟩, ⟨rfl, rfl⟩, rfl⟩

/-- It is waited for once more. -/
theorem shortLived_forgotten : ∃ w₁ w₂ heard,
    ((desktop shortLived () 1).exitCode child).result.Answers w₁ (.ok (some 3)) w₁ ∧
    (Act.each (desktop shortLived () 1).ask [.waitForExit child none]).Answers w₁ heard w₂ ∧
    ((desktop shortLived () 1).exitCode child).result.Answers w₂ (.ok none) w₂ := by
  obtain ⟨w₁, before, known, gone⟩ := shortLived_known
  obtain ⟨codes, _⟩ := w₁
  subst gone
  have after : (Act.each (desktop shortLived () 1).ask [.waitForExit child none]).Answers
      ⟨codes, true⟩ [⟨.waitForExit child none, .waited (.ok .exited)⟩]
      ⟨codes.insert child.pid none, true⟩ := ⟨rfl, rfl⟩
  have exited : ∃ e ∈ [⟨.openProcess child.pid, .opened (.ok child)⟩,
      ⟨.waitForExit child (some ⟨5, 0⟩), .waited (.ok .exited)⟩],
      Exchange.seesExit child.pid e = true :=
    ⟨_, List.mem_cons_of_mem _ (List.mem_singleton_self _), rfl⟩
  exact ⟨_, _, _, known, after,
    exitCode_forgotten shortLived_reaps () 1 before exited rfl known after rfl⟩

/-- The exit code is answered and then not known any more, although the handle was never given
back: neither after a further wait, nor after another handle to the process was given back. -/
theorem shortLived_lost :
    Reaps shortLived child.pid (· = true) ∧
    ((Act.each (desktop shortLived () 1).ask
      [.openProcess child.pid, .waitForExit child (some ⟨5, 0⟩), .exitCode child,
        .waitForExit child (some ⟨5, 0⟩), .exitCode child]) ⟨.empty, false⟩).outcome =
      .returned
        [⟨.openProcess child.pid, .opened (.ok child)⟩,
          ⟨.waitForExit child (some ⟨5, 0⟩), .waited (.ok .exited)⟩,
          ⟨.exitCode child, .exitCode (.ok (some 3))⟩,
          ⟨.waitForExit child (some ⟨5, 0⟩), .waited (.ok .exited)⟩,
          ⟨.exitCode child, .exitCode (.ok none)⟩] ∧
    ((Act.each (desktop shortLived () 1).ask
      [.openProcess child.pid, .openProcess child.pid, .waitForExit child (some ⟨5, 0⟩),
        .exitCode child, .closeProcess child, .exitCode child]) ⟨.empty, false⟩).outcome =
      .returned
        [⟨.openProcess child.pid, .opened (.ok child)⟩,
          ⟨.openProcess child.pid, .opened (.ok child)⟩,
          ⟨.waitForExit child (some ⟨5, 0⟩), .waited (.ok .exited)⟩,
          ⟨.exitCode child, .exitCode (.ok (some 3))⟩,
          ⟨.closeProcess child, .closed⟩,
          ⟨.exitCode child, .exitCode (.ok none)⟩] := ⟨shortLived_reaps, rfl, rfl⟩

end ShortLived

end ProcessTable

end StartupBench
