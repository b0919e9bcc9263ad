import StartupBench.Proofs.Quit.Restless

/-!
# Asking an application to leave that exits by itself

A process may exit by itself while it is asked to leave.  `Departing` is a simulated desktop
together with the moment at which this happens, told in calls of primitives, and `quit_departing`
says for every such moment up to the wait what comes of the attempt: it fails if the process is gone
before its window was found, and before the owner of its window was told, and at no other moment.

In the proof the lookups go by the exact state, since nothing but the exit changes it.  From the
opening of the process on, all that counts is that the process has exited, or will within as many
calls as there are left before the wait ends (`Departing.Due`).

## The moment

A turn is taken before each call (`Departing.turn`): it counts down, and at zero the process exits.
The desktop is thus one of those on which something happens before every call
(`Simulated.restless`), and `Simulated.callsToWait` is the number of calls up to the wait, so
that every moment before the wait is a number up to that.

## The lookups

`Simulated.Lone` is the instance whose process is about to exit, the only one there is.  If it exits
before its window is looked for, nothing is found; if it exits right after, the owner of the window
cannot be told (`Simulated.Lone.windowOwner_exited`).  Later lookups may answer for a desktop
without the process, and that does no harm: fewer windows are accepted, or none
(`QuitTarget.accepted_departing`).
-/

namespace StartupBench

open Simulated (fits missing)

/-- A simulated desktop one of whose processes is about to exit by itself, after some more calls. -/
structure Departing where
  desktop : Simulated
  /-- How many calls are answered before the process exits; none once it has exited by itself. -/
  calls : Option Nat

namespace Departing

variable {κ α : Type} {pid : ProcessId}

/-- What happens before a call: the process exits if its time has come, and else that is one call
nearer. -/
def turn (pid : ProcessId) (w : Departing) : Departing :=
  match w.calls with
  | some 0 => ⟨w.desktop.exitProcess pid, none⟩
  | some (n + 1) => ⟨w.desktop, some n⟩
  | none => w

lemma turn_now (pid : ProcessId) (s : Simulated) :
    turn pid ⟨s, some 0⟩ = ⟨s.exitProcess pid, none⟩ := rfl

lemma turn_later (pid : ProcessId) (s : Simulated) (n : Nat) :
    turn pid ⟨s, some (n + 1)⟩ = ⟨s, some n⟩ := rfl

/-- The desktop of which a process exits by itself, as `Departing.turn` says. -/
def primitives (κ : Type) (pid : ProcessId) : Desktop κ Departing :=
  Simulated.restless Departing.desktop (fun s w => { w with desktop := s }) (Act.update (turn pid))

/-- A call of a primitive, after its turn. -/
def call (κ : Type) (pid : ProcessId) (f : Simulated → α × Simulated) : Act κ Departing α := do
  Act.update (turn pid)
  (Act.step f).within Departing.desktop fun s w => { w with desktop := s }

/-- A call answers for the desktop as it is after the `turn`, and neither panics nor stays away. -/
lemma yields_call {f : Simulated → α × Simulated} {w : Departing} {R : α → Departing → Prop}
    {P : String → Departing → Prop} {H : Stop κ → Departing → Prop} :
    (call κ pid f).Yields w R P H ↔
      R (f (turn pid w).desktop).1 { turn pid w with desktop := (f (turn pid w).desktop).2 } :=
  Iff.rfl

/-! ## A process that is due -/

/-- The process can be opened, and within the next `n` calls it exits by itself, unless it has
exited before. -/
def Due (pid : ProcessId) (n : Nat) (w : Departing) : Prop :=
  ∃ p, w.desktop.processes[pid]? = some p ∧ p.denyOpen = false ∧
    (p.exited = true ∨ ∃ m < n, w.calls = some m)

namespace Due

variable {n m : Nat} {w : Departing}

lemma mono (h : Due pid n w) (hle : n ≤ m) : Due pid m w := by
  obtain ⟨p, owner, allowed, exits⟩ := h
  refine ⟨p, owner, allowed, exits.imp_right ?_⟩
  rintro ⟨k, hk, hcalls⟩
  exact ⟨k, Nat.lt_of_lt_of_le hk hle, hcalls⟩

/-- A process that is `Due` within no calls at all has exited. -/
lemma exited (h : Due pid 0 w) : ∃ p, w.desktop.processes[pid]? = some p ∧ p.exited = true := by
  obtain ⟨p, owner, -, exits | ⟨m, hm, -⟩⟩ := h
  · exact ⟨p, owner, exits⟩
  · exact absurd hm m.not_lt_zero

lemma isRunning (h : Due pid 0 w) : w.desktop.isRunning pid = false := by
  obtain ⟨p, owner, exits⟩ := h.exited
  simp [Simulated.isRunning, owner, exits]

/-- What a desktop goes through as it grows older (`Simulated.Ages`) keeps a process due. -/
lemma ages {s₀ s : Simulated} (h : Due pid n w) (aged : Simulated.Ages s₀ w.desktop s) :
    Due pid n { w with desktop := s } := by
  obtain ⟨p, owner, allowed, exits⟩ := h
  obtain same | left := aged.processes pid
  · exact ⟨p, same.trans owner, allowed, exits⟩
  · rw [owner, Option.map_some] at left
    exact ⟨_, left, allowed, .inl rfl⟩

lemma turn (h : Due pid (n + 1) w) : Due pid n (turn pid w) := by
  obtain ⟨p, owner, allowed, exits⟩ := h
  unfold Departing.turn
  split
  · -- This is the moment: whatever the process was doing, it exits.
    refine ⟨Simulated.leave p, ?_, allowed, .inl rfl⟩
    rw [Simulated.exitProcess, Simulated.getElem?_modifyProcess, if_pos rfl, owner]
    rfl
  · rename_i k hk
    refine ⟨p, owner, allowed, exits.imp_right ?_⟩
    rintro ⟨m, hm, hcalls⟩
    cases hk.symm.trans hcalls
    exact ⟨k, Nat.lt_of_succ_lt_succ hm, rfl⟩
  · rename_i hnone
    refine ⟨p, owner, allowed, exits.imp_right ?_⟩
    rintro ⟨m, -, hcalls⟩
    cases hnone.symm.trans hcalls

/-- A process that has exited stays as it is, whatever the `turn`. -/
lemma turn_zero (h : Due pid 0 w) : Due pid 0 (Departing.turn pid w) :=
  (h.mono (Nat.zero_le 1)).turn

end Due

lemma openHandles_turn (pid : ProcessId) (w : Departing) :
    (turn pid w).desktop.openHandles = w.desktop.openHandles := by
  unfold turn
  split
  · rw [Simulated.exitProcess, Simulated.modifyProcess_eq]
  · rfl
  · rfl

/-- A question to the desktop brings the exit nearer by one call and changes nothing else. -/
lemma question_due {n : Nat} {w : Departing} (f : Simulated → α) (h : Due pid (n + 1) w) :
    (call κ pid fun s => (f s, s)).Yields w
      (fun a w₁ => Due pid n w₁ ∧ a = f w₁.desktop ∧
        w₁.desktop.openHandles = w.desktop.openHandles) (fun _ _ => False) fun _ _ => False :=
  yields_call.2 ⟨h.turn, rfl, openHandles_turn pid w⟩

end Departing

namespace Simulated

/-! ## The instance in question -/

/-- The window is that of the only instance which a target stands for, and its process can be
opened. -/
structure Lone (s : Simulated) (t : QuitTarget) (v : SimulatedWindow) : Prop where
  reachable : s.Reachable
  found : s.liveWindows.find? (fits t.instancePattern) = some v
  alone : ∀ u ∈ s.liveWindows, fits t.instancePattern u → u.pid = v.pid
  owner : ∃ p, s.processes[v.pid]? = some p ∧ p.denyOpen = false

/-- How many calls an attempt at the instance of a window makes before it waits for its process:
three to find it, one for each window of its thread, one to open it, and one for each window that is
asked. -/
def callsToWait (s : Simulated) (t : QuitTarget) (v : SimulatedWindow) : Nat :=
  3 + (s.threadWindows v.thread).length + 1 + (s.recipients t.recipients v.thread).length

/-- The windows of a process that exits can be seen no more, and all others as before. -/
lemma isLive_exitProcess {s : Simulated} {pid : ProcessId} {p : SimulatedProcess}
    (owner : s.processes[pid]? = some p) (u : SimulatedWindow) :
    (s.exitProcess pid).isLive u = true ↔ s.isLive u = true ∧ u.pid ≠ pid := by
  unfold isLive exitProcess
  rw [getElem?_modifyProcess]
  by_cases hpid : u.pid = pid
  · simp [hpid, owner]
  · simp [hpid]

namespace Lone

variable {s : Simulated} {t : QuitTarget} {v : SimulatedWindow} (h : s.Lone t v)
include h

lemma live : v ∈ s.liveWindows := List.mem_of_find?_eq_some h.found

lemma findWindow_eq : s.findWindow t.instancePattern = some v.id := by
  rw [Simulated.findWindow_eq, h.found, Option.map_some]

lemma windowOwner_eq : s.windowOwner v.id = .ok (v.thread, v.pid) := by
  unfold Simulated.windowOwner
  rw [h.reachable.numbered.liveWindow?_id h.live]

/-- Once the process has exited, nothing is found, as no other process has a window that fits. -/
lemma findWindow_exited : (s.exitProcess v.pid).findWindow t.instancePattern = none := by
  obtain ⟨p, owner, -⟩ := h.owner
  rw [Simulated.findWindow_eq, Option.map_eq_none_iff, List.find?_eq_none]
  intro u hu hfits
  obtain ⟨hmem, hlive⟩ := List.mem_filter.1 hu
  obtain ⟨was_live, other⟩ := (isLive_exitProcess owner u).1 hlive
  rw [exitProcess, modifyProcess_eq] at hmem
  exact other (h.alone u (List.mem_filter.2 ⟨hmem, was_live⟩) hfits)

/-- Once the process has exited, its window has no owner to be told, and the error is that of the
system call. -/
lemma windowOwner_exited : (s.exitProcess v.pid).windowOwner v.id =
    .error (missing "GetWindowThreadProcessId") := by
  obtain ⟨p, owner, -⟩ := h.owner
  have unseen : (s.exitProcess v.pid).liveWindow? v.id = none := by
    rw [liveWindow?_eq, List.find?_eq_none]
    intro u hu hid
    obtain ⟨hmem, hlive⟩ := List.mem_filter.1 hu
    rw [exitProcess, modifyProcess_eq] at hmem
    have same : u = v := h.reachable.numbered.eq_of_id hmem (List.mem_filter.1 h.live).1
      (by simpa using hid)
    exact ((isLive_exitProcess owner u).1 hlive).2 (congrArg _ same)
  unfold Simulated.windowOwner
  rw [unseen]

/-- As long as it runs, its exit is `Due` within any number of calls that is large enough. -/
lemma due {m n : Nat} (hm : m < n) : Departing.Due v.pid n ⟨s, some m⟩ := by
  obtain ⟨p, owner, allowed⟩ := h.owner
  exact ⟨p, owner, allowed, .inr ⟨m, hm, rfl⟩⟩

/-- Its exit before the next call, after which it is `Due` within none. -/
lemma due_exited : Departing.Due v.pid 0 ⟨s.exitProcess v.pid, none⟩ :=
  (h.due Nat.zero_lt_one).turn

end Lone

end Simulated

namespace QuitTarget

open Departing (primitives call yields_call Due turn turn_now turn_later)

variable {κ : Type} {pid : ProcessId}

/-! ## Finding the instance -/

/-- After the exit it does not matter any more which windows are accepted, since a process that is
`Due` within no calls stays so. -/
lemma accepted_due (rule : ClassRule) (windows : List WindowId) {w : Departing}
    (h : Due pid 0 w) :
    (accepted (primitives κ pid) rule windows).Yields w (fun _ w₁ => Due pid 0 w₁)
      (fun _ _ => False) fun _ _ => False := by
  induction windows generalizing w with
  | nil => exact h
  | cons id rest ih =>
    rw [accepted, Act.yields_bind]
    show (call κ pid fun s => (s.className id, s)).Yields w _ _ _
    rw [yields_call, Act.yields_bind]
    exact (ih h.turn_zero).mono (fun _ _ h₁ => h₁) fun _ _ hm => hm

/-- The process exits while the classes are asked for, or all windows that are to be asked are
accepted.  By induction on the windows whose class is not known yet. -/
lemma accepted_departing {s : Simulated} {t : QuitTarget} {v : SimulatedWindow}
    (h : s.Lone t v) (rule : ClassRule) (windows : List SimulatedWindow)
    (live : ∀ u ∈ windows, u ∈ s.liveWindows) (n : Nat) :
    (accepted (primitives κ v.pid) rule (windows.map (·.id))).Yields ⟨s, some n⟩
      (fun found w₁ => Due v.pid 0 w₁ ∨
        windows.length ≤ n ∧ w₁ = ⟨s, some (n - windows.length)⟩ ∧
          found = (windows.filter fun u => rule.accepts u.windowClass).map (·.id))
      (fun _ _ => False) fun _ _ => False := by
  induction windows generalizing n with
  | nil => exact .inr ⟨Nat.zero_le n, rfl, rfl⟩
  | cons u rest ih =>
    rw [List.map_cons, accepted, Act.yields_bind]
    show (call κ v.pid fun s => (s.className u.id, s)).Yields _ _ _ _
    rw [yields_call, Act.yields_bind]
    cases n with
    | zero =>
      exact (accepted_due rule _ h.due_exited).mono (fun _ _ h₁ => .inl h₁) fun _ _ hm => hm
    | succ n =>
      have class_eq : s.className u.id = some u.windowClass := by
        unfold Simulated.className
        rw [h.reachable.numbered.liveWindow?_id (live u List.mem_cons_self), Option.map_some]
      have rest_live : ∀ u ∈ rest, u ∈ s.liveWindows := fun u hu =>
        live u (List.mem_cons_of_mem _ hu)
      refine (ih rest_live n).mono (fun found w₁ h₁ => ?_) fun _ _ hm => hm
      obtain gone | ⟨hle, rfl, rfl⟩ := h₁
      · exact .inl gone
      · right
        refine ⟨Nat.succ_le_succ hle, by simp, ?_⟩
        show (if (s.className u.id).any rule.accepts then _ else _) = _
        rw [class_eq, Option.any_some, List.filter_cons]
        split <;> rfl

/-- Once the owner of the window is known, the windows to ask are, and the exit comes before the
wait. -/
lemma gather_departing {s : Simulated} {t : QuitTarget} {v : SimulatedWindow}
    (h : s.Lone t v) {n : Nat} (hn : n + 2 ≤ s.callsToWait t v) :
    Act.Yields
      (do
        let windows ← (primitives κ v.pid).threadWindows v.thread
        accepted (primitives κ v.pid) t.recipients windows)
      ⟨s, some n⟩ (fun found w₁ => Due v.pid (found.length + 2) w₁) (fun _ _ => False)
      fun _ _ => False := by
  rw [Act.yields_bind]
  show (call κ v.pid fun s => (s.threadWindows v.thread, s)).Yields _ _ _ _
  rw [yields_call]
  match n with
  | 0 =>
    exact (accepted_due t.recipients _ h.due_exited).mono
      (fun _ _ gone => gone.mono (Nat.zero_le _)) fun _ _ hm => hm
  | n + 1 =>
    have thread_live : ∀ u ∈ s.liveWindows.filter (fun u => u.thread = v.thread),
        u ∈ s.liveWindows := fun u hu => (List.mem_filter.1 hu).1
    have asked : (s.liveWindows.filter fun u => u.thread = v.thread).filter
        (fun u => t.recipients.accepts u.windowClass) = s.recipients t.recipients v.thread := by
      unfold Simulated.recipients
      rw [List.filter_filter]
      simp only [Bool.and_comm]
    rw [turn_later]
    unfold Simulated.callsToWait at hn
    dsimp only
    rw [Simulated.threadWindows_eq] at hn ⊢
    rw [List.length_map] at hn
    refine (accepted_departing h t.recipients _ thread_live n).mono (fun found w₁ h₁ => ?_)
      fun _ _ hm => hm
    obtain gone | ⟨hle, rfl, rfl⟩ := h₁
    · exact gone.mono (Nat.zero_le _)
    · refine h.due ?_
      rw [List.length_map, asked]
      omega

/-- The instance is missed if its process exits before its window is looked for, and an error is
answered if it exits right after that.  Otherwise it is found, and it exits before the wait. -/
lemma locate_departing {s : Simulated} {t : QuitTarget} {v : SimulatedWindow}
    (h : s.Lone t v) {n : Nat} (hn : n ≤ s.callsToWait t v) :
    Try.Yields (locate (primitives κ v.pid) t) ⟨s, some n⟩
      (fun found w₁ => 1 < n ∧ found.owner = v.pid ∧
        Due v.pid (found.recipients.length + 2) w₁)
      (fun e w₁ => (n = 0 ∧ e = .targetNotFound t.instancePattern ∨
        n = 1 ∧ e = .os (missing "GetWindowThreadProcessId")) ∧ Due v.pid 0 w₁)
      (fun _ _ => False) fun _ _ => False := by
  unfold locate
  rw [Try.yields_bind, Try.yields_monadLift]
  show (call κ v.pid fun s => (s.findWindow t.instancePattern, s)).Yields _ _ _ _
  rw [yields_call]
  match n with
  | 0 =>
    rw [turn_now]
    dsimp only
    rw [h.findWindow_exited]
    exact ⟨.inl ⟨rfl, rfl⟩, h.due_exited⟩
  | n + 1 =>
    rw [turn_later]
    dsimp only
    rw [h.findWindow_eq]
    dsimp only
    rw [Try.yields_bind, Try.yields_mapError]
    show (call κ v.pid fun s => (s.windowOwner v.id, s)).Yields _ _ _ _
    rw [yields_call]
    match n with
    | 0 =>
      rw [turn_now]
      dsimp only
      rw [h.windowOwner_exited]
      exact ⟨.inr ⟨rfl, rfl⟩, h.due_exited⟩
    | n + 1 =>
      rw [turn_later]
      dsimp only
      rw [h.windowOwner_eq]
      dsimp only
      have gathered := Act.yields_bind.1 (gather_departing (κ := κ) h hn)
      rw [Try.yields_bind, Try.yields_monadLift]
      refine gathered.mono (fun windows w₁ h₁ => ?_) fun _ _ hm => hm
      rw [Try.yields_bind, Try.yields_monadLift]
      refine h₁.mono (fun found w₂ due => ?_) fun _ _ hm => hm
      exact ⟨by omega, rfl, due⟩

/-! ## Leaving -/

/-- While windows are asked, one after the other, the exit comes nearer by one call for each. -/
lemma postAll_due (message : QuitMessage) {raw : Int} (windows : List WindowId) {n : Nat}
    {w : Departing} (h : Due pid (windows.length + n) w) (hopen : raw ∈ w.desktop.openHandles) :
    (postAll (primitives κ pid) message windows).Yields w
      (fun _ w₁ => Due pid n w₁ ∧ raw ∈ w₁.desktop.openHandles) (fun _ _ => False)
      fun _ _ => False := by
  induction windows generalizing w with
  | nil => exact ⟨by simpa using h, hopen⟩
  | cons id rest ih =>
    rw [List.length_cons, Nat.succ_add_eq_add_succ, Nat.add_succ] at h
    have posted : (call κ pid fun s => s.postQuit id message).Yields w
        (fun _ w₁ => Due pid (rest.length + n) w₁ ∧ raw ∈ w₁.desktop.openHandles)
        (fun _ _ => False) fun _ _ => False := by
      refine yields_call.2 ⟨h.turn.ages (Simulated.ages_postQuit .empty _ id message), ?_⟩
      rw [Simulated.openHandles_postQuit, Departing.openHandles_turn]
      exact hopen
    rw [postAll, Act.yields_bind]
    refine posted.mono (fun answer w₁ h₁ => ?_) fun _ _ hm => hm
    cases answer with
    | ok _ => exact ih h₁.1 h₁.2
    | error e =>
      dsimp only
      rw [Act.yields_bind, Act.yields_log]
      exact ih h₁.1 h₁.2

/-- A process that exits before the wait is waited for successfully, since it is `Due` within no
calls by then. -/
lemma whileOpen_due (t : QuitTarget) (limit : Option Duration) {found : Located}
    {handle : Handle} {w : Departing} (howner : handle.pid = pid)
    (h : Due pid (found.recipients.length + 1) w)
    (hopen : handle.raw ∈ w.desktop.openHandles) :
    Try.Yields (whileOpen (primitives κ pid) t limit found handle) w
      (fun _ w₁ => Due pid 0 w₁ ∧ handle.raw ∈ w₁.desktop.openHandles) (fun _ _ => False)
      (fun _ _ => False) fun _ _ => False := by
  unfold whileOpen
  rw [Try.yields_bind, Try.yields_monadLift]
  refine (postAll_due t.message found.recipients h hopen).mono (fun _ w₁ h₁ => ?_)
    fun _ _ hm => hm
  obtain ⟨due, hopen₁⟩ := h₁
  rw [Try.yields_bind, Try.yields_log, Try.yields_bind, Try.yields_mapError]
  refine Act.Yields.mono (Departing.question_due (fun s => s.waitForExit handle) due)
    (fun waited w₂ h₂ => ?_) fun _ _ hm => hm
  obtain ⟨gone, rfl, hsame⟩ := h₂
  have hopen₂ : handle.raw ∈ w₂.desktop.openHandles := hsame ▸ hopen₁
  obtain ⟨p, owner, exited⟩ := gone.exited
  rw [Simulated.waitForExit, if_pos hopen₂, howner, owner, Option.any_some, if_pos exited]
  dsimp only
  rw [Try.yields_bind, Try.yields_mapError]
  refine Act.Yields.mono (Departing.question_due (fun s => s.exitCode handle)
    (gone.mono (Nat.zero_le 1))) (fun code w₃ h₃ => ?_) fun _ _ hm => hm
  obtain ⟨gone₃, rfl, hsame₃⟩ := h₃
  have hopen₃ : handle.raw ∈ w₃.desktop.openHandles := hsame₃ ▸ hopen₂
  rw [Simulated.exitCode, if_pos hopen₃]
  dsimp only
  rw [Try.yields_bind, Try.yields_log]
  exact ⟨gone₃, hopen₃⟩

/-- A process that is `Due` can be opened, and an open handle can be taken back. -/
lemma leave_due (t : QuitTarget) (limit : Option Duration) {found : Located} {w : Departing}
    (howner : found.owner = pid) (h : Due pid (found.recipients.length + 2) w) :
    Try.Yields
      (do
        let handle ← Try.mapError QuitError.os ((primitives κ pid).openProcess found.owner)
        ExceptT.mk (Act.ensuring (whileOpen (primitives κ pid) t limit found handle).run
          ((primitives κ pid).closeProcess handle)))
      w (fun _ w₁ => Due pid 0 w₁) (fun _ _ => False) (fun _ _ => False) fun _ _ => False := by
  rw [Try.yields_bind, Try.yields_mapError, howner]
  have due := h.turn
  obtain ⟨p, owner, allowed, -⟩ := h.turn
  have opened : (call κ pid fun s => s.openProcess pid).Yields w
      (fun answer w₁ => ∃ handle : Handle, answer = .ok handle ∧ handle.pid = pid ∧
        Due pid (found.recipients.length + 1) w₁ ∧ handle.raw ∈ w₁.desktop.openHandles)
      (fun _ _ => False) fun _ _ => False := by
    have aged := due.ages (Simulated.ages_openProcess .empty _ pid)
    rw [yields_call]
    rw [Simulated.openProcess_of_allowed owner allowed] at aged ⊢
    exact ⟨_, rfl, rfl, aged, List.mem_cons_self⟩
  refine Act.Yields.mono opened (fun answer w₁ h₁ => ?_) fun _ _ hm => hm
  obtain ⟨handle, rfl, hpid, due₁, hopen⟩ := h₁
  dsimp only
  rw [Try.yields_mk, Act.yields_ensuring, Try.yields_run]
  refine (whileOpen_due t limit hpid due₁ hopen).mono (fun _ w₂ h₂ => ?_) (fun _ _ hm => hm.elim)
    fun _ _ hm => hm.elim
  obtain ⟨gone, hopen₂⟩ := h₂
  show (do
    Act.update (turn pid)
    (Simulated.closeProcess handle).within Departing.desktop
      fun s w => { w with desktop := s } : Act κ Departing Unit).Yields w₂ _ _ _
  rw [Act.yields_bind, Act.yields_update, Act.yields_within]
  refine closeProcess_yields (by rw [Departing.openHandles_turn]; exact hopen₂) ?_
  exact gone.turn_zero.ages (Simulated.ages_closeHandle .empty _ handle)

/-- An attempt to make an instance leave that exits by itself before the wait: when it is over the
process has exited, and the attempt has failed only if the process was gone before its window was
found, or before its owner was told. -/
lemma quit_departing {s : Simulated} {t : QuitTarget} {v : SimulatedWindow} (h : s.Lone t v)
    (limit : Option Duration) {n : Nat} (hn : n ≤ s.callsToWait t v) :
    Try.Yields (quit (primitives κ v.pid) t limit) ⟨s, some n⟩
      (fun _ w₁ => 1 < n ∧ Due v.pid 0 w₁)
      (fun e w₁ => (n = 0 ∧ e = .targetNotFound t.instancePattern ∨
        n = 1 ∧ e = .os (missing "GetWindowThreadProcessId")) ∧ Due v.pid 0 w₁)
      (fun _ _ => False) fun _ _ => False := by
  unfold quit
  rw [Try.yields_bind]
  refine (locate_departing h hn).mono (fun found w₁ h₁ => ?_) (fun _ _ he => he) fun _ _ hm => hm
  obtain ⟨hlt, howner, due⟩ := h₁
  have left := leave_due (κ := κ) t limit howner due
  split
  · rw [Try.yields_bind, Try.yields_log]
    exact left.mono (fun _ _ gone => ⟨hlt, gone⟩) (fun _ _ he => he.elim) fun _ _ hm => hm
  · exact left.mono (fun _ _ gone => ⟨hlt, gone⟩) (fun _ _ he => he.elim) fun _ _ hm => hm

end QuitTarget

end StartupBench
