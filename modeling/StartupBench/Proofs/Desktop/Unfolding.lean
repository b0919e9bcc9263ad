import StartupBench.Proofs.Act.Respects
import StartupBench.Proofs.Desktop.Reachable

/-!
# A desktop that goes on by itself

A benchmark shares its desktop with the application that it launches: a process that was launched
exits when it is asked to, and its windows appear when they appear.  `Simulated.Unfolds s₀` is what
may happen to a desktop by itself when `s₀` was its state before the first launch, and
`Simulated.Launches s₀` is what a launch may do to it.

`Simulated.Ages s₀` is coarser: it allows what the primitives do as well.  Along it no process comes
back to life and none is new.  What is kept of a desktop is that windows that fit the pattern belong
to newcomers and that newcomers obey (`Simulated.Tame`), and that at most one newcomer has not
exited (`Simulated.AtMostOne`).

## From launch to launch

Before the first launch nothing fits (`Simulated.Tame.start`).  A launch adds one process at most,
so that at most one newcomer runs after it if none did before (`Simulated.Launches.spec`).  For the
next launch to be of the same kind all newcomers must have exited by then (`Simulated.AllLeft`),
which is what an attempt to make the application leave is for.

## One newcomer

If a window is found then, it is that of the newcomer that runs, and no other newcomer runs
(`Simulated.Sole.of_found`).  From there on, either the window can still be seen, or all newcomers
have exited (`Simulated.Sole.allLeft_of_notLive`); and to ask the window is to make its process exit
(`Simulated.Sole.postQuit`).  `Proofs.Quit.Restless` follows the window with these through an
attempt.
-/

namespace StartupBench.Simulated

variable {s₀ s s₁ s₂ : Simulated} {p : WindowPattern} {pid : ProcessId}

/-! ## What happens by itself -/

/-- The process was added since `s₀`, and is in the table now. -/
def Newcomer (s₀ s : Simulated) (pid : ProcessId) : Prop :=
  s₀.processes[pid]? = none ∧ ∃ q, s.processes[pid]? = some q

/-- What may happen by itself: windows of newcomers appear, and processes exit, in any order and
number. -/
inductive Unfolds (s₀ s : Simulated) : Simulated → Prop
  | refl : Unfolds s₀ s s
  | addWindow {s₁ : Simulated} {pid : ProcessId} (thread : ThreadId) (windowClass : String)
      (title : Option String) : Unfolds s₀ s s₁ → Newcomer s₀ s₁ pid →
      Unfolds s₀ s (s₁.addWindow pid thread windowClass title).2
  | exitProcess {s₁ : Simulated} (pid : ProcessId) :
      Unfolds s₀ s s₁ → Unfolds s₀ s (s₁.exitProcess pid)

/-- What a launch may do: at most one process is added, of a new number, and it obeys.  Before and
after that the desktop `Unfolds`. -/
def Launches (s₀ s s₁ : Simulated) : Prop :=
  Unfolds s₀ s s₁ ∨ ∃ s₂ pid exitCode, Unfolds s₀ s s₂ ∧ s₂.processes[pid]? = none ∧
    Unfolds s₀ (s₂.addProcess pid exitCode .onQuit) s₁

lemma Unfolds.openHandles_eq (h : Unfolds s₀ s s₁) : s₁.openHandles = s.openHandles := by
  induction h with
  | refl => rfl
  | addWindow thread windowClass title _ _ ih => exact ih
  | exitProcess pid _ ih =>
    rw [Simulated.exitProcess, modifyProcess_eq]
    exact ih

/-! ## Growing older -/

/-- The process has exited, and is otherwise as it was. -/
def leave (q : SimulatedProcess) : SimulatedProcess := { q with exited := true }

/-- Processes have exited at most, windows were added by newcomers at most, and what is not to be
seen of a desktop has changed in some way. -/
structure Ages (s₀ s s₁ : Simulated) : Prop where
  numbered : s.Numbered → s₁.Numbered
  processes : ∀ pid : ProcessId, s₁.processes[pid]? = s.processes[pid]? ∨
    s₁.processes[pid]? = s.processes[pid]?.map leave
  kept : ∀ v ∈ s.windows, v ∈ s₁.windows
  added : ∀ v ∈ s₁.windows, v ∈ s.windows ∨ Newcomer s₀ s v.pid

namespace Ages

/-- No process is new, and none is forgotten, along `Ages`. -/
lemma newcomer_iff (h : Ages s₀ s s₁) : Newcomer s₀ s₁ pid ↔ Newcomer s₀ s pid := by
  have known : (∃ q, s₁.processes[pid]? = some q) ↔ ∃ q, s.processes[pid]? = some q := by
    obtain hsame | hleft := h.processes pid
    · rw [hsame]
    · rw [hleft]
      simp
  unfold Newcomer
  rw [known]

lemma unknown (h : Ages s₀ s s₁) (hpid : s₁.processes[pid]? = none) :
    s.processes[pid]? = none := by
  obtain hsame | hleft := h.processes pid
  · rw [← hsame, hpid]
  · rw [hleft] at hpid
    exact Option.map_eq_none_iff.1 hpid

/-- No process comes back to life along `Ages`. -/
lemma isRunning (h : Ages s₀ s s₁) (hrun : s₁.isRunning pid = true) :
    s.isRunning pid = true := by
  unfold Simulated.isRunning at hrun ⊢
  obtain hsame | hleft := h.processes pid
  · rw [← hsame]
    exact hrun
  · rw [hleft] at hrun
    cases hq : s.processes[pid]? with
    | none => rw [hq] at hrun; cases hrun
    | some q => rw [hq] at hrun; cases hrun

lemma isLive (h : Ages s₀ s s₁) {v : SimulatedWindow} (hlive : s₁.isLive v = true) :
    s.isLive v = true := by
  unfold Simulated.isLive at hlive ⊢
  obtain hsame | hleft := h.processes v.pid
  · rw [← hsame]
    exact hlive
  · rw [hleft] at hlive
    cases hq : s.processes[v.pid]? with
    | none => rfl
    | some q => rw [hq] at hlive; cases hlive

protected lemma refl (s₀ s : Simulated) : Ages s₀ s s :=
  ⟨id, fun _ => .inl rfl, fun _ => id, fun _ => .inl⟩

protected lemma trans (h : Ages s₀ s s₁) (h₁ : Ages s₀ s₁ s₂) : Ages s₀ s s₂ where
  numbered := fun hs => h₁.numbered (h.numbered hs)
  processes pid := by
    have twice : ∀ q, leave (leave q) = leave q := fun _ => rfl
    obtain hsame | hleft := h.processes pid
    · rw [← hsame]
      exact h₁.processes pid
    · right
      obtain hsame₁ | hleft₁ := h₁.processes pid
      · rw [hsame₁, hleft]
      · rw [hleft₁, hleft, Option.map_map]
        rfl
  kept v hv := h₁.kept v (h.kept v hv)
  added v hv := by
    obtain hold | hnew := h₁.added v hv
    · exact h.added v hold
    · exact .inr (h.newcomer_iff.1 hnew)

end Ages

instance : IsPreorder Simulated (Ages s₀) where
  refl := Ages.refl s₀
  trans _ _ _ := Ages.trans

/-- Only the table of processes has changed, and only one process in it, which has exited if it is
not as it was. -/
lemma ages_modifyProcess (s₀ s : Simulated) (pid : ProcessId)
    {f : SimulatedProcess → SimulatedProcess} (hf : ∀ q, f q = q ∨ f q = leave q) :
    Ages s₀ s (s.modifyProcess pid f) where
  numbered hs := hs.modifyProcess pid f
  processes q := by
    rw [getElem?_modifyProcess]
    by_cases hq : q = pid
    · rw [if_pos hq]
      cases hprocess : s.processes[q]? with
      | none => exact .inl rfl
      | some r =>
        obtain hsame | hleft := hf r
        · exact .inl (congrArg some hsame)
        · exact .inr (congrArg some hleft)
    · rw [if_neg hq]
      exact .inl rfl
  kept v hv := by
    rw [modifyProcess_eq]
    exact hv
  added v hv := by
    rw [modifyProcess_eq] at hv
    exact .inl hv

/-- Nothing that can be seen has changed, only handles and messages. -/
lemma ages_of_unseen (s₀ : Simulated) (hwindows : s₁.windows = s.windows)
    (hlast : s₁.lastWindow = s.lastWindow) (hprocesses : s₁.processes = s.processes) :
    Ages s₀ s s₁ where
  numbered hs := hs.congr hwindows hlast
  processes _ := .inl (by rw [hprocesses])
  kept _ hv := hwindows ▸ hv
  added _ hv := .inl (hwindows ▸ hv)

lemma ages_addWindow (hnew : Newcomer s₀ s pid) (thread : ThreadId) (windowClass : String)
    (title : Option String) : Ages s₀ s (s.addWindow pid thread windowClass title).2 where
  numbered hs := hs.addWindow pid thread windowClass title
  processes _ := .inl rfl
  kept _ hv := List.mem_append_left _ hv
  added v hv := by
    obtain hold | hadded := List.mem_append.1 hv
    · exact .inl hold
    · rw [List.mem_singleton.1 hadded]
      exact .inr hnew

lemma Unfolds.ages (h : Unfolds s₀ s s₁) : Ages s₀ s s₁ := by
  induction h with
  | refl => exact .refl s₀ s
  | addWindow thread windowClass title _ newcomer ih =>
    exact ih.trans (ages_addWindow newcomer thread windowClass title)
  | exitProcess pid _ ih => exact ih.trans (ages_modifyProcess s₀ _ pid fun _ => .inr rfl)

lemma ages_openProcess (s₀ s : Simulated) (pid : ProcessId) :
    Ages s₀ s (s.openProcess pid).2 := by
  unfold Simulated.openProcess
  split
  · exact .refl s₀ s
  · split
    · exact .refl s₀ s
    · exact ages_of_unseen s₀ rfl rfl rfl

lemma ages_postQuit (s₀ s : Simulated) (id : WindowId) (message : QuitMessage) :
    Ages s₀ s (s.postQuit id message).2 := by
  have obeys : ∀ q, obey q = q ∨ obey q = leave q := by
    intro q
    unfold obey
    split
    · exact .inr rfl
    · exact .inl rfl
  cases hfind : s.windows.find? fun w => w.id = id with
  | none =>
    rw [postQuit_of_missing hfind]
    exact .refl s₀ s
  | some w =>
    rw [postQuit_of_find hfind]
    have noted : Ages s₀ s { s with posted := s.posted.push (id, message) } :=
      ages_of_unseen s₀ rfl rfl rfl
    exact noted.trans (ages_modifyProcess s₀ _ w.pid obeys)

lemma openHandles_postQuit (s : Simulated) (id : WindowId) (message : QuitMessage) :
    (s.postQuit id message).2.openHandles = s.openHandles := by
  cases hfind : s.windows.find? fun w => w.id = id with
  | none => rw [postQuit_of_missing hfind]
  | some w => rw [postQuit_of_find hfind, modifyProcess_eq]

lemma ages_closeHandle (s₀ s : Simulated) (h : Handle) : Ages s₀ s (s.closeHandle h) :=
  ages_of_unseen s₀ rfl rfl rfl

lemma closeProcess_respects {κ : Type} (s₀ : Simulated) (h : Handle) :
    (closeProcess h : Act κ Simulated Unit).Respects (Ages s₀) := by
  intro s
  have looked : (closeProcess h : Act κ Simulated Unit) s =
      if h.raw ∈ s.openHandles then Act.update (fun s => s.closeHandle h) s
      else Act.panic "closed a process handle that was not open" s := by
    unfold closeProcess
    rw [Act.bind_run]
    dsimp only [Act.world]
    split <;> rfl
  rw [looked]
  split
  · exact ages_closeHandle s₀ s h
  · exact .refl s₀ s

/-! ## Newcomers -/

/-- At most one newcomer has not exited, of all that were added since `s₀`. -/
def AtMostOne (s₀ s : Simulated) : Prop :=
  ∀ pid q : ProcessId, s₀.processes[pid]? = none → s₀.processes[q]? = none →
    s.isRunning pid = true → s.isRunning q = true → pid = q

/-- All newcomers have exited, so that another may be launched. -/
def AllLeft (s₀ s : Simulated) : Prop :=
  ∀ pid : ProcessId, s₀.processes[pid]? = none → s.isRunning pid = false

/-- A newcomer that has not exited has a window that fits, by which it can be found. -/
def Shown (s₀ : Simulated) (p : WindowPattern) (s : Simulated) : Prop :=
  ∀ pid : ProcessId, s₀.processes[pid]? = none → s.isRunning pid = true →
    ∃ v ∈ s.windows, fits p v ∧ v.pid = pid

lemma AllLeft.ages (hs : AllLeft s₀ s) (h : Ages s₀ s s₁) : AllLeft s₀ s₁ := by
  intro pid hpid
  by_contra hrun
  have hrunning := h.isRunning (Bool.not_eq_false _ ▸ hrun)
  rw [hs pid hpid] at hrunning
  cases hrunning

lemma AtMostOne.ages (hs : AtMostOne s₀ s) (h : Ages s₀ s s₁) : AtMostOne s₀ s₁ :=
  fun pid q hpid hq hrun hrun' => hs pid q hpid hq (h.isRunning hrun) (h.isRunning hrun')

lemma AllLeft.atMostOne (hs : AllLeft s₀ s) : AtMostOne s₀ s := by
  intro pid q hpid _ hrun
  rw [hs pid hpid] at hrun
  cases hrun

lemma Shown.ages (hs : Shown s₀ p s) (h : Ages s₀ s s₁) : Shown s₀ p s₁ := by
  intro pid hpid hrun
  obtain ⟨v, hv, hfits, hvpid⟩ := hs pid hpid (h.isRunning hrun)
  exact ⟨v, h.kept v hv, hfits, hvpid⟩

/-- What is kept of a desktop between launches: windows that fit and can be seen belong to
newcomers, and newcomers let themselves be opened and obey. -/
structure Tame (s₀ : Simulated) (p : WindowPattern) (s : Simulated) : Prop where
  numbered : s.Numbered
  mine : ∀ v ∈ s.liveWindows, fits p v → Newcomer s₀ s v.pid
  obedient : ∀ (pid : ProcessId) (q : SimulatedProcess), s₀.processes[pid]? = none →
    s.processes[pid]? = some q → q.obedience = .onQuit ∧ q.denyOpen = false
  older : ∀ pid : ProcessId, s.processes[pid]? = none → s₀.processes[pid]? = none

lemma Tame.ages (hs : Tame s₀ p s) (h : Ages s₀ s s₁) : Tame s₀ p s₁ where
  numbered := h.numbered hs.numbered
  mine v hv hfits := by
    obtain ⟨hmem, hlive⟩ := List.mem_filter.1 hv
    rw [h.newcomer_iff]
    obtain hold | hnew := h.added v hmem
    · exact hs.mine v (List.mem_filter.2 ⟨hold, h.isLive hlive⟩) hfits
    · exact hnew
  obedient pid q hpid hq := by
    obtain hsame | hleft := h.processes pid
    · exact hs.obedient pid q hpid (hsame ▸ hq)
    · rw [hleft] at hq
      obtain ⟨r, hr, rfl⟩ := Option.map_eq_some_iff.1 hq
      exact hs.obedient pid r hpid hr
  older pid hpid := hs.older pid (h.unknown hpid)

/-- A desktop on which nothing fits and can be seen is `Tame` as it is, since it has no newcomers.
-/
lemma Tame.start (hs : s₀.Numbered) (hnone : s₀.findWindow p = none) : Tame s₀ p s₀ where
  numbered := hs
  mine v hv hfits := by
    rw [findWindow_eq, Option.map_eq_none_iff] at hnone
    exact absurd hfits (List.find?_eq_none.1 hnone v hv)
  obedient pid q hpid hq := by
    rw [hpid] at hq
    cases hq
  older _ := id

lemma AllLeft.start : AllLeft s₀ s₀ := by
  intro pid hpid
  unfold Simulated.isRunning
  rw [hpid]
  rfl

section Fresh

variable {exitCode : Int}

lemma getElem?_addProcess (s : Simulated) (pid q : ProcessId) (exitCode : Int) :
    (s.addProcess pid exitCode .onQuit).processes[q]? =
      if q = pid then some { exitCode, obedience := .onQuit } else s.processes[q]? :=
  getElem?_setProcess s pid q _

lemma Tame.addProcess (hs : Tame s₀ p s) (hfresh : s.processes[pid]? = none) :
    Tame s₀ p (s.addProcess pid exitCode .onQuit) where
  numbered := hs.numbered.congr rfl rfl
  mine v hv hfits := by
    obtain ⟨hmem, hlive⟩ := List.mem_filter.1 hv
    unfold Newcomer
    rw [getElem?_addProcess]
    by_cases hpid : v.pid = pid
    · rw [if_pos hpid, hpid]
      exact ⟨hs.older pid hfresh, _, rfl⟩
    · unfold isLive at hlive
      rw [getElem?_addProcess, if_neg hpid] at hlive
      rw [if_neg hpid]
      exact hs.mine v (List.mem_filter.2 ⟨hmem, hlive⟩) hfits
  obedient q r hq hr := by
    rw [getElem?_addProcess] at hr
    by_cases hpid : q = pid
    · rw [if_pos hpid] at hr
      cases hr
      exact ⟨rfl, rfl⟩
    · rw [if_neg hpid] at hr
      exact hs.obedient q r hq hr
  older q hq := by
    rw [getElem?_addProcess] at hq
    by_cases hpid : q = pid
    · rw [if_pos hpid] at hq
      cases hq
    · rw [if_neg hpid] at hq
      exact hs.older q hq

/-- Only the process that was added is running, if `AllLeft` held before. -/
lemma AllLeft.addProcess (hs : AllLeft s₀ s) :
    AtMostOne s₀ (s.addProcess pid exitCode .onQuit) := by
  have added : ∀ q : ProcessId, s₀.processes[q]? = none →
      (s.addProcess pid exitCode .onQuit).isRunning q = true → q = pid := by
    intro q hq hrun
    by_contra hpid
    unfold Simulated.isRunning at hrun
    rw [getElem?_addProcess, if_neg hpid] at hrun
    have hleft := hs q hq
    unfold Simulated.isRunning at hleft
    rw [hleft] at hrun
    cases hrun
  exact fun q q' hq hq' hrun hrun' => (added q hq hrun).trans (added q' hq' hrun').symm

end Fresh

/-- After a launch one newcomer runs at most, if none did before, and the desktop is still `Tame`.
-/
lemma Launches.spec (h : Launches s₀ s s₁) (hs : Tame s₀ p s) (hleft : AllLeft s₀ s) :
    Tame s₀ p s₁ ∧ AtMostOne s₀ s₁ := by
  obtain hunfolds | ⟨s₂, pid, exitCode, hunfolds, hfresh, hafter⟩ := h
  · exact ⟨hs.ages hunfolds.ages, (hleft.ages hunfolds.ages).atMostOne⟩
  · have tame : Tame s₀ p (s₂.addProcess pid exitCode .onQuit) :=
      (hs.ages hunfolds.ages).addProcess hfresh
    have one : AtMostOne s₀ (s₂.addProcess pid exitCode .onQuit) :=
      (hleft.ages hunfolds.ages).addProcess
    exact ⟨tame.ages hafter.ages, one.ages hafter.ages⟩

/-! ## Looking for a newcomer -/

lemma isLive_of_isRunning {v : SimulatedWindow} (hrun : s.isRunning v.pid = true) :
    s.isLive v = true := by
  unfold Simulated.isRunning at hrun
  unfold isLive
  cases hq : s.processes[v.pid]? with
  | none => rfl
  | some q =>
    rw [hq] at hrun
    exact hrun

/-- If a newcomer that has not exited has a window that fits, it is found; and so all have exited if
nothing is. -/
lemma Shown.allLeft (hs : Shown s₀ p s) (hnone : s.findWindow p = none) : AllLeft s₀ s := by
  rw [findWindow_eq, Option.map_eq_none_iff] at hnone
  intro pid hpid
  by_contra hrun
  have hrunning : s.isRunning pid = true := Bool.not_eq_false _ ▸ hrun
  obtain ⟨v, hv, hfits, rfl⟩ := hs pid hpid hrunning
  have hlive : v ∈ s.liveWindows := List.mem_filter.2 ⟨hv, isLive_of_isRunning hrunning⟩
  exact absurd hfits (List.find?_eq_none.1 hnone v hlive)

/-- The window fits and is that of a newcomer, and no other newcomer is running. -/
structure Sole (s₀ : Simulated) (p : WindowPattern) (v : SimulatedWindow) (s : Simulated) :
    Prop where
  tame : Tame s₀ p s
  present : v ∈ s.windows
  fits : fits p v
  newcomer : Newcomer s₀ s v.pid
  sole : ∀ q : ProcessId, s₀.processes[q]? = none → s.isRunning q = true → q = v.pid

namespace Sole

variable {v : SimulatedWindow}

lemma ages (hs : Sole s₀ p v s) (h : Ages s₀ s s₁) : Sole s₀ p v s₁ where
  tame := hs.tame.ages h
  present := h.kept v hs.present
  fits := hs.fits
  newcomer := h.newcomer_iff.2 hs.newcomer
  sole q hq hrun := hs.sole q hq (h.isRunning hrun)

/-- The newcomer that is found is the only one that runs, by `AtMostOne`. -/
lemma of_found (hs : Tame s₀ p s) (hone : AtMostOne s₀ s) {id : WindowId}
    (found : s.findWindow p = some id) : ∃ v, v.id = id ∧ Sole s₀ p v s := by
  rw [findWindow_eq] at found
  obtain ⟨v, hfind, rfl⟩ := Option.map_eq_some_iff.1 found
  have hlive := List.mem_of_find?_eq_some hfind
  have hfits : Simulated.fits p v := List.find?_some hfind
  obtain ⟨hnew, q, hq⟩ := hs.mine v hlive hfits
  have hrun : s.isRunning v.pid = true := by
    have hisLive := (List.mem_filter.1 hlive).2
    unfold isLive at hisLive
    unfold Simulated.isRunning
    rw [hq] at hisLive ⊢
    exact hisLive
  exact ⟨v, rfl, hs, (List.mem_filter.1 hlive).1, hfits, ⟨hnew, q, hq⟩,
    fun r hr hrunning => hone r v.pid hr hnew hrunning hrun⟩

lemma allLeft (hs : Sole s₀ p v s) (hexit : s.isRunning v.pid = false) : AllLeft s₀ s := by
  intro q hq
  by_contra hrun
  have hrunning : s.isRunning q = true := Bool.not_eq_false _ ▸ hrun
  rw [hs.sole q hq hrunning, hexit] at hrunning
  cases hrunning

lemma shown (hs : Sole s₀ p v s) : Shown s₀ p s :=
  fun q hq hrun => ⟨v, hs.present, hs.fits, (hs.sole q hq hrun).symm⟩

/-- If the window cannot be seen any more, all newcomers have exited: its process has, and there was
no other. -/
lemma allLeft_of_notLive (hs : Sole s₀ p v s) (hgone : v ∉ s.liveWindows) : AllLeft s₀ s := by
  refine hs.allLeft (Bool.eq_false_iff.2 fun hrun => hgone ?_)
  exact List.mem_filter.2 ⟨hs.present, isLive_of_isRunning hrun⟩

lemma liveWindow?_of_notLive (hs : Sole s₀ p v s) (hgone : v ∉ s.liveWindows) :
    s.liveWindow? v.id = none := by
  rw [liveWindow?_eq, List.find?_eq_none]
  intro u hu hid
  have same : u = v :=
    hs.tame.numbered.eq_of_id (List.mem_filter.1 hu).1 hs.present (by simpa using hid)
  exact hgone (same ▸ hu)

/-- To ask the window is to make its process exit, as newcomers obey. -/
lemma postQuit (hs : Sole s₀ p v s) (message : QuitMessage) :
    AllLeft s₀ (s.postQuit v.id message).2 := by
  have aged := hs.ages (ages_postQuit s₀ s v.id message)
  refine aged.allLeft ?_
  obtain ⟨hnew, q, hq⟩ := hs.newcomer
  have obeys : obey q = { q with exited := true } :=
    if_pos (hs.tame.obedient v.pid q hnew hq).1
  rw [postQuit_of_find (hs.tame.numbered.find?_id hs.present)]
  unfold isRunning
  rw [getElem?_modifyProcess, if_pos rfl]
  dsimp only
  rw [hq, Option.map_some, obeys]
  rfl

end Sole

end StartupBench.Simulated
