import StartupBench.Proofs.Act.Recorded
import StartupBench.Proofs.Desktop.Unfolding
import StartupBench.Proofs.Quit.Simulated

/-!
# Asking an application to leave while the desktop goes on

On a restless desktop something happens before every call of a primitive (`Simulated.restless`).
Where this is only what a desktop does by itself (`Restless`), an attempt to make the one newcomer
leave ends without a panic, and once its window was found, all newcomers have exited when the
attempt is over, however it ends (`quit_allLeft`).

The proof follows one window through the protocol (`Simulated.Sole`).  At each call its process has
exited in the meantime, or the call answers as it should.

## One call

Each primitive has a lemma that says so (`windowOwner_sole`, `threadWindows_sole` and so on), and
all of them begin with `Restless.step`, which takes what is true of a primitive on any later state
of the desktop to the primitive on the restless one.

## The attempt

Once the process is open it cannot be missed any more: its window is asked, or it has exited
already, and either way all newcomers have exited when the wait is over
(`QuitTarget.whileOpen_sole`).  Before that an attempt can fail, but only if the process has exited
(`QuitTarget.locate_sole`), or if it has not shown its window yet.
-/

namespace StartupBench

variable {κ σ α : Type}

/-- A desktop on which something happens before every call of a primitive. -/
def Desktop.after (x : Act κ σ Unit) (d : Desktop κ σ) : Desktop κ σ where
  findWindow p := do x; d.findWindow p
  windowOwner w := ExceptT.mk (do x; (d.windowOwner w).run)
  threadWindows t := do x; d.threadWindows t
  className w := do x; d.className w
  openProcess pid := ExceptT.mk (do x; (d.openProcess pid).run)
  postQuit w m := ExceptT.mk (do x; (d.postQuit w m).run)
  waitForExit h limit := ExceptT.mk (do x; (d.waitForExit h limit).run)
  exitCode h := ExceptT.mk (do x; (d.exitCode h).run)
  closeProcess h := do x; d.closeProcess h

/-- A part of the world is a simulated desktop, and something happens in between. -/
def Simulated.restless (get : σ → Simulated) (put : Simulated → σ → σ)
    (meanwhile : Act κ σ Unit) : Desktop κ σ :=
  ((Simulated.desktop κ).within get put).after meanwhile

namespace QuitTarget

open Simulated (desktop restless Unfolds Ages AllLeft AtMostOne Tame Shown Sole fits)

/-- What happens in between is what a desktop does by itself (`Simulated.Unfolds`), and it comes to
an end without a panic. -/
structure Restless (s₀ : Simulated) (get : σ → Simulated) (put : Simulated → σ → σ)
    (meanwhile : Act κ σ Unit) : Prop where
  get_put : ∀ s w, get (put s w) = s
  unfolds : meanwhile.Respects fun w w₁ => Unfolds s₀ (get w) (get w₁)
  answers : ∀ w, meanwhile.Yields w (fun _ _ => True) (fun _ _ => False) fun _ _ => False

namespace Restless

variable {s₀ : Simulated} {get : σ → Simulated} {put : Simulated → σ → σ}
  {meanwhile : Act κ σ Unit} (hm : Restless s₀ get put meanwhile) {w : σ}
include hm

lemma turn (w : σ) :
    meanwhile.Yields w (fun _ w₁ => Unfolds s₀ (get w) (get w₁)) (fun _ _ => False)
      fun _ _ => False :=
  ((hm.answers w).and (hm.unfolds.yields w)).mono (fun _ _ h => h.2) fun _ _ h => h.1

/-- A call answers for the desktop as it has become: what holds of `f` on every state that the
desktop may have by then, holds of the call. -/
lemma step {f : Simulated → α × Simulated} {R : α → Simulated → Prop}
    (h : ∀ s, Unfolds s₀ (get w) s → R (f s).1 (f s).2) :
    (do meanwhile; (Act.step f).within get put).Yields w (fun a w₁ => R a (get w₁))
      (fun _ _ => False) fun _ _ => False := by
  rw [Act.yields_bind]
  refine (hm.turn w).mono (fun _ w₁ h₁ => ?_) fun _ _ h => h
  rw [Act.yields_within, Act.yields_step, hm.get_put]
  exact h (get w₁) h₁

/-- A call that makes a desktop grow older (`Ages`) makes a restless desktop grow older. -/
lemma respects {x : Act κ Simulated α} (hx : x.Respects (Ages s₀)) :
    (do meanwhile; x.within get put).Respects fun w w₁ => Ages s₀ (get w) (get w₁) := by
  refine Act.Respects.bind (fun w => (hm.unfolds w).ages) fun _ w => ?_
  unfold Act.within
  dsimp only
  rw [hm.get_put]
  exact hx (get w)

end Restless

section Protocol

variable {s₀ : Simulated} {get : σ → Simulated} {put : Simulated → σ → σ}
  {meanwhile : Act κ σ Unit} (hm : Restless s₀ get put meanwhile) {p : WindowPattern}
  {v : SimulatedWindow} {w : σ}
include hm

/-- The owner of the window is told, or it has exited and so have all newcomers. -/
lemma windowOwner_sole (hs : Sole s₀ p v (get w)) :
    Try.Yields ((restless get put meanwhile).windowOwner v.id) w
      (fun owner w₁ => owner = (v.thread, v.pid) ∧ Sole s₀ p v (get w₁))
      (fun _ w₁ => AllLeft s₀ (get w₁)) (fun _ _ => False) fun _ _ => False := by
  refine Act.Yields.mono (hm.step (f := fun s => (s.windowOwner v.id, s))
    (R := fun answer s => match answer with
      | .ok owner => owner = (v.thread, v.pid) ∧ Sole s₀ p v s
      | .error _ => AllLeft s₀ s) fun s hunfolds => ?_) ?_ fun _ _ h => h
  · have hs₁ := hs.ages hunfolds.ages
    unfold Simulated.windowOwner
    by_cases hlive : v ∈ s.liveWindows
    · rw [hs₁.tame.numbered.liveWindow?_id hlive]
      exact ⟨rfl, hs₁⟩
    · rw [hs₁.liveWindow?_of_notLive hlive]
      exact hs₁.allLeft_of_notLive hlive
  · intro answer w₁ h₁
    cases answer <;> exact h₁

/-- The window is among those of its thread, or its process has exited. -/
lemma threadWindows_sole (hs : Sole s₀ p v (get w)) :
    ((restless get put meanwhile).threadWindows v.thread).Yields w
      (fun windows w₁ => Sole s₀ p v (get w₁) ∧ (v.id ∈ windows ∨ AllLeft s₀ (get w₁)))
      (fun _ _ => False) fun _ _ => False := by
  refine hm.step (f := fun s => (s.threadWindows v.thread, s))
    (R := fun windows s => Sole s₀ p v s ∧ (v.id ∈ windows ∨ AllLeft s₀ s)) fun s hunfolds => ?_
  have hs₁ := hs.ages hunfolds.ages
  refine ⟨hs₁, ?_⟩
  by_cases hlive : v ∈ s.liveWindows
  · left
    rw [Simulated.threadWindows_eq]
    exact List.mem_map.2 ⟨v, List.mem_filter.2 ⟨hlive, by simp⟩, rfl⟩
  · exact .inr (hs₁.allLeft_of_notLive hlive)

/-- The window is accepted if it is listed, or its process has exited: by induction on the windows
of which the class is asked for. -/
lemma accepted_sole {rule : ClassRule} (hrule : rule.accepts v.windowClass = true)
    (windows : List WindowId) (hs : Sole s₀ p v (get w)) :
    (accepted (restless get put meanwhile) rule windows).Yields w
      (fun found w₁ => Ages s₀ (get w) (get w₁) ∧
        (v.id ∈ windows → v.id ∈ found ∨ AllLeft s₀ (get w₁)))
      (fun _ _ => False) fun _ _ => False := by
  induction windows generalizing w with
  | nil => exact ⟨.refl _ _, .inl⟩
  | cons id rest ih =>
    rw [accepted, Act.yields_bind]
    refine (hm.step (f := fun s => (s.className id, s)) (R := fun answer s =>
      Ages s₀ (get w) s ∧ (v.id = id → answer = some v.windowClass ∨ AllLeft s₀ s))
      fun s hunfolds => ?_).mono (fun windowClass w₁ h₁ => ?_) fun _ _ h => h
    · have hs₁ := hs.ages hunfolds.ages
      refine ⟨hunfolds.ages, ?_⟩
      rintro rfl
      unfold Simulated.className
      by_cases hlive : v ∈ s.liveWindows
      · rw [hs₁.tame.numbered.liveWindow?_id hlive]
        exact .inl rfl
      · exact .inr (hs₁.allLeft_of_notLive hlive)
    · obtain ⟨hages₁, hclass⟩ := h₁
      rw [Act.yields_bind]
      refine (ih (hs.ages hages₁)).mono (fun found w₂ h₂ => ?_) fun _ _ h => h
      obtain ⟨hages₂, hrest⟩ := h₂
      rw [Act.yields_pure]
      refine ⟨hages₁.trans hages₂, fun hv => ?_⟩
      obtain hhead | htail := List.mem_cons.1 hv
      · obtain hanswer | hleft := hclass hhead
        · rw [hanswer, Option.any_some, if_pos hrule, hhead]
          exact .inl List.mem_cons_self
        · exact .inr (hleft.ages hages₂)
      · refine (hrest htail).imp (fun hfound => ?_) fun hleft => hleft
        split
        · exact List.mem_cons_of_mem _ hfound
        · exact hfound

/-- Once the window is asked, its process exits, and no later call brings it back.  Until then it is
among the windows that are left to ask. -/
lemma postAll_sole (message : QuitMessage) {raw : Int} (windows : List WindowId)
    (hs : Sole s₀ p v (get w)) (hopen : raw ∈ (get w).openHandles) :
    (postAll (restless get put meanwhile) message windows).Yields w
      (fun _ w₁ => Ages s₀ (get w) (get w₁) ∧ raw ∈ (get w₁).openHandles ∧
        (v.id ∈ windows → AllLeft s₀ (get w₁)))
      (fun _ _ => False) fun _ _ => False := by
  induction windows generalizing w with
  | nil => exact ⟨.refl _ _, hopen, nofun⟩
  | cons id rest ih =>
    have posted : ((restless get put meanwhile : Desktop κ σ).postQuit id message).result.Yields w
        (fun _ w₁ => Ages s₀ (get w) (get w₁) ∧ raw ∈ (get w₁).openHandles ∧
          (v.id = id → AllLeft s₀ (get w₁))) (fun _ _ => False) fun _ _ => False := by
      refine hm.step (f := fun s => s.postQuit id message) (R := fun _ s =>
        Ages s₀ (get w) s ∧ raw ∈ s.openHandles ∧ (v.id = id → AllLeft s₀ s))
        fun s hunfolds => ?_
      have hs₁ := hs.ages hunfolds.ages
      refine ⟨hunfolds.ages.trans (Simulated.ages_postQuit s₀ s id message), ?_, ?_⟩
      · rw [Simulated.openHandles_postQuit, hunfolds.openHandles_eq]
        exact hopen
      · rintro rfl
        exact hs₁.postQuit message
    have goOn : ∀ w₁, Ages s₀ (get w) (get w₁) ∧ raw ∈ (get w₁).openHandles ∧
        (v.id = id → AllLeft s₀ (get w₁)) →
        (postAll (restless get put meanwhile) message rest).Yields w₁
          (fun _ w₂ => Ages s₀ (get w) (get w₂) ∧ raw ∈ (get w₂).openHandles ∧
            (v.id ∈ id :: rest → AllLeft s₀ (get w₂))) (fun _ _ => False) fun _ _ => False := by
      rintro w₁ ⟨hages₁, hopen₁, hhead⟩
      refine (ih (hs.ages hages₁) hopen₁).mono (fun _ w₂ h₂ => ?_) fun _ _ h => h
      obtain ⟨hages₂, hopen₂, htail⟩ := h₂
      refine ⟨hages₁.trans hages₂, hopen₂, fun hv => ?_⟩
      obtain hid | hmem := List.mem_cons.1 hv
      · exact (hhead hid).ages hages₂
      · exact htail hmem
    rw [postAll, Act.yields_bind]
    refine posted.mono (fun answer w₁ h₁ => ?_) fun _ _ h => h
    cases answer with
    | ok _ => exact goOn w₁ h₁
    | error e =>
      dsimp only
      rw [Act.yields_bind, Act.yields_log]
      exact goOn w₁ h₁

/-- While the process is open all newcomers exit, whatever comes of the wait, and the handle stays
open. -/
lemma whileOpen_sole (t : QuitTarget) (limit : Option Duration) {found : Located}
    {handle : Handle} (hs : Sole s₀ p v (get w)) (hopen : handle.raw ∈ (get w).openHandles)
    (hv : v.id ∈ found.recipients ∨ AllLeft s₀ (get w)) :
    Try.Yields (whileOpen (restless get put meanwhile) t limit found handle) w
      (fun _ w₁ => AllLeft s₀ (get w₁) ∧ handle.raw ∈ (get w₁).openHandles)
      (fun _ w₁ => AllLeft s₀ (get w₁) ∧ handle.raw ∈ (get w₁).openHandles)
      (fun _ _ => False) fun _ _ => False := by
  unfold whileOpen
  rw [Try.yields_bind, Try.yields_monadLift]
  refine (postAll_sole hm t.message found.recipients hs hopen).mono (fun _ w₁ h₁ => ?_)
    fun _ _ h => h
  obtain ⟨hages₁, hopen₁, hasked⟩ := h₁
  have hleft₁ : AllLeft s₀ (get w₁) := hv.elim hasked fun hleft => hleft.ages hages₁
  -- To wait and to read the exit code are questions, and neither panics.
  have questioned : ∀ {α : Type} (question : Simulated → α) (w₁ : σ),
      AllLeft s₀ (get w₁) ∧ handle.raw ∈ (get w₁).openHandles →
      (do meanwhile; (Act.step fun s => (question s, s)).within get put).Yields w₁
        (fun _ w₂ => AllLeft s₀ (get w₂) ∧ handle.raw ∈ (get w₂).openHandles)
        (fun _ _ => False) fun _ _ => False := by
    rintro α question w₁ ⟨hleft, hraw⟩
    exact hm.step (f := fun s => (question s, s))
      (R := fun _ s => AllLeft s₀ s ∧ handle.raw ∈ s.openHandles)
      fun s hunfolds => ⟨hleft.ages hunfolds.ages, hunfolds.openHandles_eq ▸ hraw⟩
  rw [Try.yields_bind, Try.yields_log, Try.yields_bind, Try.yields_mapError]
  refine Act.Yields.mono (questioned (fun s => s.waitForExit handle) w₁ ⟨hleft₁, hopen₁⟩)
    (fun waited w₂ h₂ => ?_) fun _ _ h => h
  cases waited with
  | error e => exact h₂
  | ok waited =>
    cases waited with
    | timedOut => exact h₂
    | exited =>
      dsimp only
      rw [Try.yields_bind, Try.yields_mapError]
      refine Act.Yields.mono (questioned (fun s => s.exitCode handle) w₂ h₂)
        (fun code w₃ h₃ => ?_) fun _ _ h => h
      cases code with
      | error e => exact h₃
      | ok code =>
        dsimp only
        rw [Try.yields_bind, Try.yields_log]
        exact h₃

/-- The process of the newcomer can be opened, and the handle is open then. -/
lemma openProcess_sole (hs : Sole s₀ p v (get w)) :
    Try.Yields ((restless get put meanwhile).openProcess v.pid) w
      (fun handle w₁ => Ages s₀ (get w) (get w₁) ∧ handle.raw ∈ (get w₁).openHandles)
      (fun _ _ => False) (fun _ _ => False) fun _ _ => False := by
  refine Act.Yields.mono (hm.step (f := fun s => s.openProcess v.pid)
    (R := fun answer s => ∃ handle, answer = .ok handle ∧ Ages s₀ (get w) s ∧
      handle.raw ∈ s.openHandles) fun s hunfolds => ?_) ?_ fun _ _ h => h
  · have hs₁ := hs.ages hunfolds.ages
    obtain ⟨hnew, q, hq⟩ := hs₁.newcomer
    have allowed := (hs₁.tame.obedient v.pid q hnew hq).2
    have aged := hunfolds.ages.trans (Simulated.ages_openProcess s₀ s v.pid)
    rw [Simulated.openProcess_of_allowed hq allowed] at aged ⊢
    exact ⟨_, rfl, aged, List.mem_cons_self⟩
  · rintro answer w₁ ⟨handle, rfl, h₁⟩
    exact h₁

/-- A handle that is open can be taken back, and all newcomers stay away. -/
lemma closeProcess_left {handle : Handle} (hleft : AllLeft s₀ (get w))
    (hopen : handle.raw ∈ (get w).openHandles) :
    ((restless get put meanwhile).closeProcess handle).Yields w
      (fun _ w₁ => AllLeft s₀ (get w₁)) (fun _ _ => False) fun _ _ => False := by
  show (do meanwhile; (Simulated.closeProcess handle).within get put).Yields _ _ _ _
  rw [Act.yields_bind]
  refine (hm.turn w).mono (fun _ w₁ hunfolds => ?_) fun _ _ h => h
  have hopen₁ : handle.raw ∈ (get w₁).openHandles := hunfolds.openHandles_eq ▸ hopen
  rw [Act.yields_within]
  refine closeProcess_yields hopen₁ ?_
  rw [hm.get_put]
  exact (hleft.ages hunfolds.ages).ages (Simulated.ages_closeHandle s₀ _ handle)

/-- If a newcomer is found, it is the only one that runs, and its window is asked; if none is found,
none runs that has shown its window. -/
lemma locate_sole {t : QuitTarget}
    (hrule : ∀ v, fits t.instancePattern v → t.recipients.accepts v.windowClass)
    (htame : Tame s₀ t.instancePattern (get w)) (hone : AtMostOne s₀ (get w)) :
    Try.Yields (locate (restless get put meanwhile) t) w
      (fun found w₁ => ∃ v, v.pid = found.owner ∧ Sole s₀ t.instancePattern v (get w₁) ∧
        (v.id ∈ found.recipients ∨ AllLeft s₀ (get w₁)))
      (fun _ w₁ => Shown s₀ t.instancePattern (get w) → AllLeft s₀ (get w₁))
      (fun _ _ => False) fun _ _ => False := by
  unfold locate
  rw [Try.yields_bind, Try.yields_monadLift]
  refine (hm.step (f := fun s => (s.findWindow t.instancePattern, s)) (R := fun answer s =>
    match answer with
    | some id => ∃ v, v.id = id ∧ Sole s₀ t.instancePattern v s
    | none => Shown s₀ t.instancePattern (get w) → AllLeft s₀ s)
    fun s hunfolds => ?_).mono (fun answer w₁ h₁ => ?_) fun _ _ h => h
  · dsimp only
    cases hfind : s.findWindow t.instancePattern with
    | some id =>
      exact Sole.of_found (htame.ages hunfolds.ages) (hone.ages hunfolds.ages) hfind
    | none => exact fun hshown => (hshown.ages hunfolds.ages).allLeft hfind
  · cases answer with
    | none => exact h₁
    | some id =>
      obtain ⟨v, rfl, hs₁⟩ := h₁
      dsimp only
      rw [Try.yields_bind, Try.yields_mapError]
      refine (windowOwner_sole hm hs₁).mono (fun owner w₂ h₂ => ?_) (fun _ _ hleft _ => hleft)
        fun _ _ h => h
      obtain ⟨rfl, hs₂⟩ := h₂
      dsimp only
      rw [Try.yields_bind, Try.yields_monadLift]
      refine (threadWindows_sole hm hs₂).mono (fun windows w₃ h₃ => ?_) fun _ _ h => h
      obtain ⟨hs₃, hlisted⟩ := h₃
      rw [Try.yields_bind, Try.yields_monadLift]
      refine (accepted_sole hm (hrule v hs₃.fits) windows hs₃).mono (fun found w₄ h₄ => ?_)
        fun _ _ h => h
      obtain ⟨hages, haccepted⟩ := h₄
      rw [Try.yields_pure]
      exact ⟨v, rfl, hs₃.ages hages, hlisted.elim haccepted fun hleft => .inr (hleft.ages hages)⟩

/-- The rest of an attempt, once the newcomer is known as `Sole`: however it ends, all newcomers
have exited. -/
lemma leave_allLeft (t : QuitTarget) (limit : Option Duration) {found : Located}
    (howner : v.pid = found.owner) (hs : Sole s₀ p v (get w))
    (hv : v.id ∈ found.recipients ∨ AllLeft s₀ (get w)) :
    Try.Yields
      (do
        let handle ← Try.mapError QuitError.os
          ((restless get put meanwhile).openProcess found.owner)
        ExceptT.mk (Act.ensuring
          (whileOpen (restless get put meanwhile) t limit found handle).run
          ((restless get put meanwhile).closeProcess handle)))
      w (fun _ w₁ => AllLeft s₀ (get w₁)) (fun _ w₁ => AllLeft s₀ (get w₁))
      (fun _ _ => False) fun _ _ => False := by
  rw [Try.yields_bind, Try.yields_mapError, ← howner]
  refine (openProcess_sole hm hs).mono (fun handle w₁ h₁ => ?_) (fun _ _ h => h.elim)
    fun _ _ h => h
  obtain ⟨hages, hopen⟩ := h₁
  rw [Try.yields_mk, Act.yields_ensuring, Try.yields_run]
  refine (whileOpen_sole hm t limit (hs.ages hages) hopen
    (hv.imp_right fun hleft => hleft.ages hages)).mono (fun _ w₂ h₂ => ?_) (fun _ w₂ h₂ => ?_)
    fun _ _ h => h.elim
  · exact closeProcess_left hm h₂.1 h₂.2
  · exact closeProcess_left hm h₂.1 h₂.2

/-- **An attempt to make the newcomer leave.**  If it does not fail, all newcomers have exited after
it; and if the newcomer that runs has shown its window, that is so even if it fails. -/
theorem quit_allLeft {t : QuitTarget} (limit : Option Duration)
    (hrule : ∀ v, fits t.instancePattern v → t.recipients.accepts v.windowClass)
    (htame : Tame s₀ t.instancePattern (get w)) (hone : AtMostOne s₀ (get w)) :
    Try.Yields (quit (restless get put meanwhile) t limit) w
      (fun _ w₁ => AllLeft s₀ (get w₁))
      (fun _ w₁ => Shown s₀ t.instancePattern (get w) → AllLeft s₀ (get w₁))
      (fun _ _ => False) fun _ _ => False := by
  unfold quit
  rw [Try.yields_bind]
  refine (locate_sole hm hrule htame hone).mono (fun found w₁ h₁ => ?_) (fun _ _ h => h)
    fun _ _ h => h
  obtain ⟨v, howner, hs, hv⟩ := h₁
  have rest := (leave_allLeft hm t limit howner hs hv).mono (fun _ _ hleft => hleft)
    (fun _ _ hleft (_ : Shown s₀ t.instancePattern (get w)) => hleft) fun _ _ h => h
  split
  · rw [Try.yields_bind, Try.yields_log]
    exact rest
  · exact rest

end Protocol

end QuitTarget

end StartupBench
