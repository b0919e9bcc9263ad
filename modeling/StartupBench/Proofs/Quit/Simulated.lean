import StartupBench.Proofs.Act.Yields
import StartupBench.Proofs.Desktop.Reachable
import StartupBench.Quit

/-!
# Asking an application to leave on the simulated desktop

On the simulated desktop nothing happens by itself, so that it can be said exactly how an attempt to
make an instance leave ends and what it leaves behind (`Simulated.Quits`).  The windows that are
asked are fixed before the first of them is: live windows of the thread of the window that was
found, of a class that the target accepts (`Simulated.recipients`).  A process that dies on the way
takes no window off this list.

## Asking

`Simulated.Asked` is what asking windows does to the state: the messages are posted in their order,
processes that obey and own one of them have exited, and nothing else has happened.  It is built up
window by window, and a window need not be alive to be asked (`Simulated.Asked.postQuit`), only to
be there.

## The attempt

An attempt fails before it opens the process, or opens it, asks and waits; and the wait ends at
once, since whoever obeys has exited by then.  `QuitTarget.quit_yields_quits` puts the stretches
together, and as the desktop of a simulation has neither a panic nor an abort in it, the attempt
answers (`QuitTarget.exists_quits_of_numbered`).  `Simulated.PrivateThreads` is the case in which
only windows of the instance are asked; where threads are shared, others may be asked along with it.
-/

namespace StartupBench

namespace Simulated

/-! ## What is asked, and what becomes of it -/

/-- The live windows of a thread whose class a rule accepts, in the order of the desktop. -/
def recipients (s : Simulated) (rule : ClassRule) (thread : ThreadId) : List SimulatedWindow :=
  s.liveWindows.filter fun v => v.thread = thread && rule.accepts v.windowClass

/-- These windows were asked to quit, in this order, and nothing else has happened. -/
structure Asked (message : QuitMessage) (asked : List SimulatedWindow) (s s₁ : Simulated) :
    Prop where
  posted : s₁.posted.toList = s.posted.toList ++ asked.map fun v => (v.id, message)
  processes : ∀ pid : ProcessId, s₁.processes[pid]? =
    s.processes[pid]?.map fun p => if ∃ v ∈ asked, v.pid = pid then obey p else p
  rest : s₁ = { s with posted := s₁.posted, processes := s₁.processes }

/-- A handle was opened, with the next value. -/
def holding (s : Simulated) : Simulated :=
  { s with
    lastHandle := s.lastHandle + 1
    openHandles := (s.lastHandle + 1) :: s.openHandles
    opened := s.opened + 1 }

/-- A handle was opened and taken back, so that only the counts and the next value tell. -/
def handled (s : Simulated) : Simulated :=
  { s with lastHandle := s.lastHandle + 1, opened := s.opened + 1, closed := s.closed + 1 }

/-- How an attempt to make an instance leave ends, and what it leaves behind.  Each way has the
state that it is taken from in its hypotheses. -/
inductive Quits (s : Simulated) (t : QuitTarget) (limit : Option Duration) :
    Except QuitError (Option Int) → Simulated → Prop
  | notFound (unseen : s.liveWindows.find? (fits t.instancePattern) = none) :
      Quits s t limit (.error (.targetNotFound t.instancePattern)) s
  | unregistered {w : SimulatedWindow}
      (found : s.liveWindows.find? (fits t.instancePattern) = some w)
      (owner : s.processes[w.pid]? = none) :
      Quits s t limit (.error (.os (missing "OpenProcess"))) s
  | denied {w : SimulatedWindow} {p : SimulatedProcess}
      (found : s.liveWindows.find? (fits t.instancePattern) = some w)
      (owner : s.processes[w.pid]? = some p) (denied : p.denyOpen = true) :
      Quits s t limit (.error (.os ⟨"OpenProcess", .other "access denied"⟩)) s
  /-- The owner of the window that was found obeys and is asked by one of its own windows. -/
  | left {w : SimulatedWindow} {p : SimulatedProcess} {s₁ : Simulated}
      (found : s.liveWindows.find? (fits t.instancePattern) = some w)
      (owner : s.processes[w.pid]? = some p) (allowed : p.denyOpen = false)
      (asked : Asked t.message (s.recipients t.recipients w.thread) s.handled s₁)
      (obeys : p.obedience = .onQuit ∧ ∃ v ∈ s.recipients t.recipients w.thread, v.pid = w.pid) :
      Quits s t limit (.ok (some p.exitCode)) s₁
  | stayed {w : SimulatedWindow} {p : SimulatedProcess} {s₁ : Simulated}
      (found : s.liveWindows.find? (fits t.instancePattern) = some w)
      (owner : s.processes[w.pid]? = some p) (allowed : p.denyOpen = false)
      (asked : Asked t.message (s.recipients t.recipients w.thread) s.handled s₁)
      (stays : ¬(p.obedience = .onQuit ∧
        ∃ v ∈ s.recipients t.recipients w.thread, v.pid = w.pid)) :
      Quits s t limit (.error (.timeout w.pid (limit.getD .longest))) s₁

/-- No thread has windows of two processes. -/
def PrivateThreads (s : Simulated) : Prop :=
  ∀ v ∈ s.windows, ∀ v' ∈ s.windows, v.thread = v'.thread → v.pid = v'.pid

lemma openProcess_of_allowed {s : Simulated} {pid : ProcessId} {p : SimulatedProcess}
    (owner : s.processes[pid]? = some p) (allowed : p.denyOpen = false) :
    s.openProcess pid = (.ok ⟨s.lastHandle + 1, pid⟩, s.holding) := by
  simp [openProcess, owner, allowed, holding]

lemma obey_obey (p : SimulatedProcess) : obey (obey p) = obey p := by
  by_cases obedient : p.obedience = .onQuit
  · simp [obey, obedient]
  · simp [obey, obedient]

lemma obey_exited (p : SimulatedProcess) :
    (obey p).exited = true ↔ p.exited = true ∨ p.obedience = .onQuit := by
  unfold obey
  split <;> simp_all

lemma obey_exitCode (p : SimulatedProcess) : (obey p).exitCode = p.exitCode := by
  unfold obey
  split <;> rfl

namespace Asked

variable {message : QuitMessage} {s s₁ s₂ : Simulated}

lemma nil : Asked message [] s s where
  posted := by simp
  processes pid := by simp
  rest := rfl

lemma trans {first more : List SimulatedWindow} (h : Asked message first s s₁)
    (h₁ : Asked message more s₁ s₂) : Asked message (first ++ more) s s₂ where
  posted := by rw [h₁.posted, h.posted, List.map_append, List.append_assoc]
  processes pid := by
    rw [h₁.processes, h.processes, Option.map_map]
    congr 1
    funext p
    simp only [Function.comp_apply, List.mem_append, or_and_right, exists_or]
    by_cases hfirst : ∃ v ∈ first, v.pid = pid
    · by_cases hmore : ∃ v ∈ more, v.pid = pid
      · rw [if_pos hmore, if_pos hfirst, if_pos (.inl hfirst), obey_obey]
      · rw [if_neg hmore, if_pos hfirst, if_pos (.inl hfirst)]
    · by_cases hmore : ∃ v ∈ more, v.pid = pid
      · rw [if_pos hmore, if_neg hfirst, if_pos (.inr hmore)]
      · rw [if_neg hmore, if_neg hfirst, if_neg (not_or.2 ⟨hfirst, hmore⟩)]
  rest := by rw [h₁.rest, h.rest]

lemma windows_eq {asked : List SimulatedWindow} (h : Asked message asked s s₁) :
    s₁.windows = s.windows := by rw [h.rest]

lemma openHandles_eq {asked : List SimulatedWindow} (h : Asked message asked s s₁) :
    s₁.openHandles = s.openHandles := by rw [h.rest]

lemma numbered {asked : List SimulatedWindow} (h : Asked message asked s s₁)
    (hs : s.Numbered) : s₁.Numbered := by
  rw [h.rest]
  exact hs.congr rfl rfl

/-- To ask one window that is there, which posts the message even if its process has exited. -/
lemma postQuit (message : QuitMessage) (hs : s.Numbered) {w : SimulatedWindow}
    (hw : w ∈ s.windows) :
    Asked message [w] s (s.postQuit w.id message).2 := by
  rw [postQuit_of_find (hs.find?_id hw)]
  dsimp only
  refine ⟨?_, fun pid => ?_, ?_⟩
  · rw [modifyProcess_eq]
    simp
  · rw [getElem?_modifyProcess]
    by_cases hpid : pid = w.pid
    · simp [hpid]
    · simp [hpid, Ne.symm hpid]
  · rw [modifyProcess_eq]

/-- The handle that was opened is taken back, and what was `Asked` is as before. -/
lemma handled {asked : List SimulatedWindow} {pid : ProcessId}
    (h : Asked message asked s.holding s₁) :
    Asked message asked s.handled (s₁.closeHandle ⟨s.lastHandle + 1, pid⟩) where
  posted := h.posted
  processes := h.processes
  rest := by
    rw [h.rest]
    simp [closeHandle, holding, Simulated.handled]

end Asked

end Simulated

namespace QuitTarget

open Simulated (Asked Numbered Quits desktop fits)

variable {κ : Type}

/-! ## The steps of the protocol -/

lemma accepted_yields {s : Simulated} (h : s.Numbered) (rule : ClassRule)
    (windows : List SimulatedWindow) (live : ∀ v ∈ windows, v ∈ s.liveWindows) :
    (accepted (desktop κ) rule (windows.map (·.id))).Yields s
      (fun found s₁ => s₁ = s ∧
        found = (windows.filter fun v => rule.accepts v.windowClass).map (·.id))
      (fun _ _ => False) fun _ _ => False := by
  induction windows with
  | nil => exact ⟨rfl, rfl⟩
  | cons v rest ih =>
    have class_eq : s.className v.id = some v.windowClass := by
      unfold Simulated.className
      rw [h.liveWindow?_id (live v List.mem_cons_self), Option.map_some]
    rw [List.map_cons, accepted, Act.yields_bind]
    show (Act.reading fun s => s.className v.id).Yields s _ _ _
    rw [Act.yields_reading, class_eq, Act.yields_bind]
    refine (ih fun u hu => live u (List.mem_cons_of_mem v hu)).mono (fun found s₁ h₁ => ?_)
      fun _ _ h => h
    obtain ⟨rfl, rfl⟩ := h₁
    rw [Act.yields_pure, Option.any_some, List.filter_cons]
    refine ⟨rfl, ?_⟩
    split <;> rfl

/-- The instance is the first live window that fits, and locating it changes nothing. -/
lemma locate_yields {s : Simulated} (h : s.Numbered) (t : QuitTarget) :
    Try.Yields (locate (desktop κ) t) s
      (fun found s₁ => s₁ = s ∧ ∃ w, s.liveWindows.find? (fits t.instancePattern) = some w ∧
        found = ⟨w.id, (s.recipients t.recipients w.thread).map (·.id), w.pid⟩)
      (fun e s₁ => s₁ = s ∧ s.liveWindows.find? (fits t.instancePattern) = none ∧
        e = .targetNotFound t.instancePattern)
      (fun _ _ => False) fun _ _ => False := by
  unfold locate
  rw [Try.yields_bind, Try.yields_monadLift]
  show (Act.reading fun s => s.findWindow t.instancePattern).Yields s _ _ _
  rw [Act.yields_reading, Simulated.findWindow_eq]
  cases found : s.liveWindows.find? (fits t.instancePattern) with
  | none => exact ⟨rfl, rfl, rfl⟩
  | some w =>
    have hlive := List.mem_of_find?_eq_some found
    have owner_eq : s.windowOwner w.id = .ok (w.thread, w.pid) := by
      unfold Simulated.windowOwner
      rw [h.liveWindow?_id hlive]
    have thread_live : ∀ v ∈ s.liveWindows.filter (fun v => v.thread = w.thread),
        v ∈ s.liveWindows := fun v hv => (List.mem_filter.1 hv).1
    simp only [Option.map_some]
    rw [Try.yields_bind, Try.yields_mapError]
    show Act.Yields (Act.step fun s => (s.windowOwner w.id, s)) s _ _ _
    rw [Act.yields_step, owner_eq]
    dsimp only
    rw [Try.yields_bind, Try.yields_monadLift]
    show (Act.reading fun s => s.threadWindows w.thread).Yields s _ _ _
    rw [Act.yields_reading, Simulated.threadWindows_eq, Try.yields_bind, Try.yields_monadLift]
    refine (accepted_yields h t.recipients _ thread_live).mono (fun recipients s₁ h₁ => ?_)
      fun _ _ h => h
    obtain ⟨rfl, rfl⟩ := h₁
    rw [Try.yields_pure, List.filter_filter]
    refine ⟨rfl, w, rfl, ?_⟩
    unfold Simulated.recipients
    simp only [Bool.and_comm]

/-- All windows are asked, whatever becomes of their owners on the way: by induction on the windows,
with `Asked.postQuit` for each. -/
lemma postAll_yields {s : Simulated} (h : s.Numbered) (message : QuitMessage)
    (windows : List SimulatedWindow) (present : ∀ v ∈ windows, v ∈ s.windows) :
    (postAll (desktop κ) message (windows.map (·.id))).Yields s
      (fun _ => Asked message windows s) (fun _ _ => False) fun _ _ => False := by
  induction windows generalizing s with
  | nil => exact Asked.nil
  | cons v rest ih =>
    have hv := present v List.mem_cons_self
    have asked := Asked.postQuit message h hv
    have answer : (s.postQuit v.id message).1 = .ok () := by
      rw [Simulated.postQuit_of_find (h.find?_id hv)]
    rw [List.map_cons, postAll, Act.yields_bind]
    show (Act.step fun s => s.postQuit v.id message).Yields s _ _ _
    rw [Act.yields_step, answer]
    have present₁ : ∀ u ∈ rest, u ∈ (s.postQuit v.id message).2.windows := by
      rw [asked.windows_eq]
      exact fun u hu => present u (List.mem_cons_of_mem v hu)
    exact (ih (asked.numbered h) present₁).mono (fun _ _ h₁ => asked.trans h₁) fun _ _ h => h

/-- While the process is open its windows are asked, and the wait for it ends at once, with its exit
or at the limit. -/
lemma whileOpen_yields {s : Simulated} (h : s.Numbered) (t : QuitTarget)
    (limit : Option Duration) (window : WindowId) (handle : Handle) {asked : List SimulatedWindow}
    {p : SimulatedProcess} (present : ∀ v ∈ asked, v ∈ s.windows)
    (isOpen : handle.raw ∈ s.openHandles) (owner : s.processes[handle.pid]? = some p)
    (running : p.exited = false) :
    Try.Yields
      (whileOpen (desktop κ) t limit ⟨window, asked.map (·.id), handle.pid⟩ handle) s
      (fun code s₁ => Asked t.message asked s s₁ ∧ code = some p.exitCode ∧
        p.obedience = .onQuit ∧ ∃ v ∈ asked, v.pid = handle.pid)
      (fun e s₁ => Asked t.message asked s s₁ ∧
        e = .timeout handle.pid (limit.getD .longest) ∧
          ¬(p.obedience = .onQuit ∧ ∃ v ∈ asked, v.pid = handle.pid))
      (fun _ _ => False) fun _ _ => False := by
  unfold whileOpen
  rw [Try.yields_bind, Try.yields_monadLift]
  refine (postAll_yields h t.message asked present).mono (fun _ s₁ h₁ => ?_) fun _ _ h => h
  have isOpen₁ : handle.raw ∈ s₁.openHandles := h₁.openHandles_eq ▸ isOpen
  have owner₁ := h₁.processes handle.pid
  rw [owner, Option.map_some] at owner₁
  rw [Try.yields_bind, Try.yields_log, Try.yields_bind, Try.yields_mapError]
  show Act.Yields (Act.step fun s => (s.waitForExit handle, s)) s₁ _ _ _
  rw [Act.yields_step, Simulated.waitForExit, if_pos isOpen₁, owner₁, Option.any_some]
  by_cases own : ∃ v ∈ asked, v.pid = handle.pid
  · rw [if_pos own] at owner₁ ⊢
    by_cases obedient : p.obedience = .onQuit
    · have exited : (Simulated.obey p).exited = true := (Simulated.obey_exited p).2 (.inr obedient)
      simp only [exited, if_true]
      rw [Try.yields_bind, Try.yields_mapError]
      show Act.Yields (Act.step fun s => (s.exitCode handle, s)) s₁ _ _ _
      rw [Act.yields_step, Simulated.exitCode, if_pos isOpen₁, owner₁,
        Option.filter_some_pos exited, Option.map_some, Simulated.obey_exitCode]
      dsimp only
      rw [Try.yields_bind, Try.yields_log]
      exact ⟨h₁, rfl, obedient, own⟩
    · have alive : (Simulated.obey p).exited = false := by
        rw [Simulated.obey, if_neg obedient]
        exact running
      simp only [alive, Bool.false_eq_true, if_false]
      exact ⟨h₁, rfl, fun hobeys => obedient hobeys.1⟩
  · rw [if_neg own] at owner₁ ⊢
    simp only [running, Bool.false_eq_true, if_false]
    exact ⟨h₁, rfl, fun hobeys => own hobeys.2⟩

lemma closeProcess_yields {s : Simulated} {h : Handle} {R : Unit → Simulated → Prop}
    {P : String → Simulated → Prop} {H : Stop κ → Simulated → Prop} (isOpen : h.raw ∈ s.openHandles)
    (hR : R () (s.closeHandle h)) : ((desktop κ).closeProcess h).Yields s R P H := by
  show (Simulated.closeProcess h).Yields s R P H
  unfold Simulated.closeProcess
  rw [Act.yields_bind, Act.yields_world, if_pos isOpen, Act.yields_update]
  exact hR

/-- The rest of an attempt, once the instance is known: the process is opened or refused, and closed
if it was opened. -/
lemma leave_yields_quits {s : Simulated} (h : s.Numbered) (t : QuitTarget)
    (limit : Option Duration) {w : SimulatedWindow}
    (found : s.liveWindows.find? (fits t.instancePattern) = some w) :
    Try.Yields
      (do
        let handle ← Try.mapError QuitError.os ((desktop κ).openProcess w.pid)
        ExceptT.mk (Act.ensuring
          (whileOpen (desktop κ) t limit
            ⟨w.id, (s.recipients t.recipients w.thread).map (·.id), w.pid⟩ handle).run
          ((desktop κ).closeProcess handle)))
      s (fun code => Quits s t limit (.ok code)) (fun e => Quits s t limit (.error e))
      (fun _ _ => False) fun _ _ => False := by
  have live := (List.mem_filter.1 (List.mem_of_find?_eq_some found)).2
  have present : ∀ v ∈ s.recipients t.recipients w.thread, v ∈ s.windows :=
    fun v hv => (List.mem_filter.1 (List.mem_filter.1 hv).1).1
  rw [Try.yields_bind, Try.yields_mapError]
  show Act.Yields (Act.step fun s => s.openProcess w.pid) s _ _ _
  rw [Act.yields_step]
  cases owner : s.processes[w.pid]? with
  | none =>
    rw [Simulated.openProcess, owner]
    exact .unregistered found owner
  | some p =>
    have running : p.exited = false := by simpa [Simulated.isLive, owner] using live
    cases allowed : p.denyOpen with
    | true =>
      simp only [Simulated.openProcess, owner, allowed, if_true]
      exact .denied found owner allowed
    | false =>
      have numbered : s.holding.Numbered := h.congr rfl rfl
      have isOpen : s.lastHandle + 1 ∈ s.holding.openHandles := List.mem_cons_self
      have waited := @whileOpen_yields κ s.holding numbered t limit w.id ⟨s.lastHandle + 1, w.pid⟩
        _ p present isOpen owner running
      have closed : ∀ {asked : List SimulatedWindow} {s₁ : Simulated},
          Asked t.message asked s.holding s₁ →
            (s.lastHandle + 1) ∈ s₁.openHandles := fun asked => asked.openHandles_eq ▸ isOpen
      rw [Simulated.openProcess_of_allowed owner allowed]
      show Act.Yields (Act.ensuring _ _) s.holding _ _ _
      rw [Act.yields_ensuring, Try.yields_run]
      refine waited.mono (fun code s₁ h₁ => ?_) (fun e s₁ h₁ => ?_) fun _ _ h => h.elim
      · obtain ⟨asked, rfl, obeys⟩ := h₁
        exact closeProcess_yields (closed asked) (.left found owner allowed asked.handled obeys)
      · obtain ⟨asked, rfl, stays⟩ := h₁
        exact closeProcess_yields (closed asked) (.stayed found owner allowed asked.handled stays)

/-- An attempt to make an instance leave ends in one of its ways (`Simulated.Quits`), with neither a
panic nor an abort. -/
lemma quit_yields_quits {s : Simulated} (h : s.Numbered) (t : QuitTarget)
    (limit : Option Duration) :
    Try.Yields (quit (desktop κ) t limit) s (fun code => Quits s t limit (.ok code))
      (fun e => Quits s t limit (.error e)) (fun _ _ => False) fun _ _ => False := by
  unfold quit
  rw [Try.yields_bind]
  refine (locate_yields h t).mono (fun found s₁ h₁ => ?_) (fun e s₁ h₁ => ?_) fun _ _ h => h
  · obtain ⟨rfl, w, found, rfl⟩ := h₁
    have leaving := @leave_yields_quits κ _ h t limit w found
    split
    · rw [Try.yields_bind, Try.yields_log]
      exact leaving
    · exact leaving
  · obtain ⟨rfl, unseen, rfl⟩ := h₁
    exact .notFound unseen

/-- An attempt to make an instance leave answers, in one of the ways of `Simulated.Quits`. -/
lemma exists_quits_of_numbered {s : Simulated} (h : s.Numbered) (t : QuitTarget)
    (limit : Option Duration) :
    ∃ answer, ((quit (desktop κ) t limit).run s).outcome = .returned answer ∧
      Quits s t limit answer ((quit (desktop κ) t limit).run s).world := by
  obtain ⟨answer, out, quits⟩ := (quit_yields_quits (κ := κ) h t limit).answered
  cases answer <;> exact ⟨_, out, quits⟩

/-- Where no thread is shared, only windows of the instance itself are asked, as all `recipients`
are on its thread. -/
lemma pid_of_recipient {s : Simulated} (h : s.PrivateThreads) {t : QuitTarget}
    {w v : SimulatedWindow} (found : s.liveWindows.find? (fits t.instancePattern) = some w)
    (hv : v ∈ s.recipients t.recipients w.thread) : v.pid = w.pid := by
  obtain ⟨hlive, hfits⟩ := List.mem_filter.1 hv
  have hthread : v.thread = w.thread := by simp_all
  have hw := (List.mem_filter.1 (List.mem_of_find?_eq_some found)).1
  exact h v (List.mem_filter.1 hlive).1 w hw hthread

/-- Where no thread is shared, no process but the instance is touched, whichever way of `Quits` is
taken. -/
lemma processes_of_quits {s s₁ : Simulated} (h : s.PrivateThreads) {t : QuitTarget}
    {limit : Option Duration} {answer : Except QuitError (Option Int)} {w : SimulatedWindow}
    (quits : Quits s t limit answer s₁)
    (hw : s.liveWindows.find? (fits t.instancePattern) = some w) {pid : ProcessId}
    (other : pid ≠ w.pid) : s₁.processes[pid]? = s.processes[pid]? := by
  have spared : Asked t.message (s.recipients t.recipients w.thread) s.handled s₁ →
      s₁.processes[pid]? = s.processes[pid]? := by
    intro asked
    have none_of_it : ¬∃ v ∈ s.recipients t.recipients w.thread, v.pid = pid := by
      rintro ⟨v, hv, rfl⟩
      exact other (pid_of_recipient h hw hv)
    rw [asked.processes]
    simp only [none_of_it, if_false, Option.map_id']
    rfl
  cases quits with
  | notFound unseen => rfl
  | unregistered found owner => rfl
  | denied found owner denied => rfl
  | left found owner allowed asked obeys =>
    cases hw.symm.trans found
    exact spared asked
  | stayed found owner allowed asked stays =>
    cases hw.symm.trans found
    exact spared asked

/-- An instance that obeys, and that is asked by one of its own windows, leaves with its exit code.
-/
lemma answer_of_quits {s s₁ : Simulated} {t : QuitTarget} {limit : Option Duration}
    {answer : Except QuitError (Option Int)} {w : SimulatedWindow} {p : SimulatedProcess}
    (quits : Quits s t limit answer s₁)
    (hw : s.liveWindows.find? (fits t.instancePattern) = some w)
    (hp : s.processes[w.pid]? = some p) (allowed : p.denyOpen = false)
    (obedient : p.obedience = .onQuit)
    (own : ∃ v ∈ s.recipients t.recipients w.thread, v.pid = w.pid) :
    answer = .ok (some p.exitCode) := by
  cases quits with
  | notFound unseen => cases unseen.symm.trans hw
  | unregistered found owner =>
    cases found.symm.trans hw
    cases owner.symm.trans hp
  | denied found owner denied =>
    cases found.symm.trans hw
    cases owner.symm.trans hp
    cases denied.symm.trans allowed
  | left found owner allowed asked obeys =>
    cases found.symm.trans hw
    cases owner.symm.trans hp
    rfl
  | stayed found owner allowed asked stays =>
    cases found.symm.trans hw
    cases owner.symm.trans hp
    exact absurd ⟨obedient, own⟩ stays

/-- **What an attempt to make an instance leave does.**  In every state that a simulated desktop can
be in, the attempt answers, and its answer and the state it leaves are those of `Simulated.Quits`.
Where no thread is shared between processes, only windows of the instance are asked, and no other
process is touched. -/
theorem quit_simulated {s : Simulated} (h : s.Reachable) (t : QuitTarget)
    (limit : Option Duration) :
    ∃ answer, ((quit (desktop Empty) t limit).run s).outcome = .returned answer ∧
      Quits s t limit answer ((quit (desktop Empty) t limit).run s).world ∧
      (s.PrivateThreads → ∀ w, s.liveWindows.find? (fits t.instancePattern) = some w →
        (∀ v ∈ s.recipients t.recipients w.thread, v.pid = w.pid) ∧
        ∀ pid, pid ≠ w.pid →
          ((quit (desktop Empty) t limit).run s).world.processes[pid]? = s.processes[pid]?) := by
  obtain ⟨answer, out, quits⟩ := exists_quits_of_numbered h.numbered t limit
  refine ⟨answer, out, quits, fun alone w hw => ⟨fun v hv => pid_of_recipient alone hw hv, ?_⟩⟩
  exact fun pid other => processes_of_quits alone quits hw other

/-- Two instances, each on a thread of its own. -/
def twoInstances : Simulated :=
  let s := (Simulated.empty.addProcess ⟨10⟩ 3 .onQuit).addProcess ⟨11⟩ 0 .onQuit
  ((s.addWindow ⟨10⟩ ⟨1⟩ "App" none).2.addWindow ⟨11⟩ ⟨2⟩ "App" none).2

lemma twoInstances_reachable : twoInstances.Reachable :=
  .addWindow _ _ _ _ (.addWindow _ _ _ _ (.addProcess _ _ _ (.addProcess _ _ _ .empty)))

lemma twoInstances_processes (pid : ProcessId) : twoInstances.processes[pid]? =
    if pid = ⟨11⟩ then some { exitCode := 0, obedience := .onQuit }
    else if pid = ⟨10⟩ then some { exitCode := 3, obedience := .onQuit } else none := by
  show ((Simulated.empty.addProcess ⟨10⟩ 3 .onQuit).setProcess ⟨11⟩ _).processes[pid]? = _
  rw [Simulated.getElem?_setProcess, Simulated.addProcess, Simulated.getElem?_setProcess]
  simp [Simulated.empty]

lemma twoInstances_liveWindows : twoInstances.liveWindows =
    [⟨⟨1⟩, ⟨10⟩, ⟨1⟩, "App", none⟩, ⟨⟨2⟩, ⟨11⟩, ⟨2⟩, "App", none⟩] := by
  have listed : twoInstances.windows =
      [⟨⟨1⟩, ⟨10⟩, ⟨1⟩, "App", none⟩, ⟨⟨2⟩, ⟨11⟩, ⟨2⟩, "App", none⟩] := rfl
  simp [Simulated.liveWindows, listed, Simulated.isLive, twoInstances_processes]

/-- The first instance is found first, and only its window is among the `recipients`. -/
lemma twoInstances_first :
    twoInstances.liveWindows.find? (fits ⟨"App", none⟩) =
      some ⟨⟨1⟩, ⟨10⟩, ⟨1⟩, "App", none⟩ ∧
    twoInstances.recipients (.exactly "App") ⟨1⟩ = [⟨⟨1⟩, ⟨10⟩, ⟨1⟩, "App", none⟩] := by
  rw [Simulated.recipients, twoInstances_liveWindows]
  decide

/-- Of two instances the first one found leaves and the other stays. -/
theorem twoInstances_quit :
    twoInstances.Reachable ∧ twoInstances.PrivateThreads ∧
      ((quit (desktop Empty) ⟨⟨"App", none⟩, .exactly "App", .appQuit⟩ none).run
        twoInstances).outcome = .returned (.ok (some 3)) ∧
      ((quit (desktop Empty) ⟨⟨"App", none⟩, .exactly "App", .appQuit⟩ none).run
        twoInstances).world.isRunning ⟨11⟩ = true := by
  have alone : twoInstances.PrivateThreads := by
    unfold Simulated.PrivateThreads
    decide
  obtain ⟨first, asked⟩ := twoInstances_first
  obtain ⟨answer, out, quits, spared⟩ := quit_simulated twoInstances_reachable
    ⟨⟨"App", none⟩, .exactly "App", .appQuit⟩ none
  have left := answer_of_quits quits first (twoInstances_processes ⟨10⟩) rfl rfl
    ⟨_, asked ▸ List.mem_singleton_self _, rfl⟩
  have other := (spared alone _ first).2 ⟨11⟩ (by decide)
  refine ⟨twoInstances_reachable, alone, out.trans (congrArg _ left), ?_⟩
  rw [Simulated.isRunning, other, twoInstances_processes]
  rfl

end QuitTarget

end StartupBench
