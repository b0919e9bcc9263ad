import Mathlib.Data.List.Nodup
import StartupBench.Desktop.Simulated

/-!
# States of a simulated desktop

`Simulated.Reachable` are the states that the operations on a simulated desktop lead to.  Whatever
was done, its windows have numbers of their own (`Simulated.Numbered`), so that a number stands for
one window in every question and request.

Processes are kept in a table.  What an operation does to it is said for every entry
(`Simulated.getElem?_modifyProcess`), and everything else it leaves alone in one equation
(`Simulated.modifyProcess_eq`).

A window is seen as long as its process has not exited, and whoever knows the number of such a
window finds the window itself by it (`Simulated.Numbered.liveWindow?_id`).  A process that obeys
and is asked by one of its windows exits (`Simulated.obey`), and that is all that a request
to quit does to the table.  `Proofs.Quit.Simulated` describes a whole attempt to make an instance
leave on these grounds, and `Proofs.Desktop.Unfolding` what a desktop does in between.
-/

namespace StartupBench.Simulated

/-! ## The table of processes -/

section Table

variable {s : Simulated} {pid : ProcessId}

lemma modifyProcess_of_some {p : SimulatedProcess} (h : s.processes[pid]? = some p)
    (f : SimulatedProcess → SimulatedProcess) : s.modifyProcess pid f = s.setProcess pid (f p) := by
  unfold modifyProcess
  rw [h]

lemma modifyProcess_of_none (h : s.processes[pid]? = none)
    (f : SimulatedProcess → SimulatedProcess) : s.modifyProcess pid f = s := by
  unfold modifyProcess
  rw [h]

end Table

/-- Only the table is changed by `modifyProcess`, so that all other fields can be read through it.
-/
lemma modifyProcess_eq (s : Simulated) (pid : ProcessId)
    (f : SimulatedProcess → SimulatedProcess) :
    s.modifyProcess pid f = { s with processes := (s.modifyProcess pid f).processes } := by
  cases h : s.processes[pid]? with
  | some p =>
    rw [modifyProcess_of_some h]
    rfl
  | none => rw [modifyProcess_of_none h]

lemma getElem?_setProcess (s : Simulated) (pid q : ProcessId) (p : SimulatedProcess) :
    (s.setProcess pid p).processes[q]? = if q = pid then some p else s.processes[q]? := by
  unfold setProcess
  rw [Std.HashMap.getElem?_insert]
  by_cases hq : q = pid
  · simp [hq]
  · simp [hq, Ne.symm hq]

/-- One process is changed, and only if it is there; every other entry of the table is as before. -/
lemma getElem?_modifyProcess (s : Simulated) (pid q : ProcessId)
    (f : SimulatedProcess → SimulatedProcess) :
    (s.modifyProcess pid f).processes[q]? =
      if q = pid then s.processes[q]?.map f else s.processes[q]? := by
  cases hpid : s.processes[pid]? with
  | some p =>
    rw [modifyProcess_of_some hpid, getElem?_setProcess]
    by_cases hq : q = pid
    · rw [if_pos hq, if_pos hq, hq, hpid, Option.map_some]
    · rw [if_neg hq, if_neg hq]
  | none =>
    rw [modifyProcess_of_none hpid]
    by_cases hq : q = pid
    · rw [if_pos hq, hq, hpid, Option.map_none]
    · rw [if_neg hq]

/-- A process after one of its windows was asked to quit: it exits if it obeys, and stays as it is
otherwise. -/
def obey (p : SimulatedProcess) : SimulatedProcess :=
  if p.obedience = .onQuit then { p with exited := true } else p

lemma postQuit_of_find {s : Simulated} {id : WindowId} {w : SimulatedWindow}
    (h : s.windows.find? (fun w => w.id = id) = some w) (message : QuitMessage) :
    s.postQuit id message =
      (.ok (), { s with posted := s.posted.push (id, message) }.modifyProcess w.pid obey) := by
  unfold postQuit
  rw [h]
  rfl

lemma postQuit_of_missing {s : Simulated} {id : WindowId}
    (h : s.windows.find? (fun w => w.id = id) = none) (message : QuitMessage) :
    s.postQuit id message = (.error (missing "PostMessage"), s) := by
  unfold postQuit
  rw [h]

/-! ## What the operations lead to -/

/-- The states that operations lead to from an empty desktop.  Questions change nothing, and a
handle that is not open cannot be taken back. -/
inductive Reachable : Simulated → Prop
  | empty : Reachable empty
  | addProcess {s : Simulated} (pid : ProcessId) (exitCode : Int) (obedience : Obedience) :
      Reachable s → Reachable (s.addProcess pid exitCode obedience)
  | addWindow {s : Simulated} (pid : ProcessId) (thread : ThreadId) (windowClass : String)
      (title : Option String) :
      Reachable s → Reachable (s.addWindow pid thread windowClass title).2
  | denyOpen {s : Simulated} (pid : ProcessId) : Reachable s → Reachable (s.denyOpen pid)
  | exitProcess {s : Simulated} (pid : ProcessId) : Reachable s → Reachable (s.exitProcess pid)
  | openProcess {s : Simulated} (pid : ProcessId) : Reachable s → Reachable (s.openProcess pid).2
  | postQuit {s : Simulated} (id : WindowId) (message : QuitMessage) :
      Reachable s → Reachable (s.postQuit id message).2
  | closeHandle {s : Simulated} (h : Handle) :
      Reachable s → h.raw ∈ s.openHandles → Reachable (s.closeHandle h)

/-- The windows have numbers of their own, and the next number is new. -/
structure Numbered (s : Simulated) : Prop where
  nodup : (s.windows.map (·.id)).Nodup
  le_last : ∀ w ∈ s.windows, w.id.number ≤ s.lastWindow

namespace Numbered

variable {s s₁ : Simulated}

lemma congr (h : s.Numbered) (hw : s₁.windows = s.windows)
    (hl : s₁.lastWindow = s.lastWindow) : s₁.Numbered where
  nodup := by rw [hw]; exact h.nodup
  le_last := by rw [hw, hl]; exact h.le_last

lemma modifyProcess (h : s.Numbered) (pid : ProcessId)
    (f : SimulatedProcess → SimulatedProcess) : (s.modifyProcess pid f).Numbered := by
  rw [modifyProcess_eq]
  exact h.congr rfl rfl

lemma addWindow (h : s.Numbered) (pid : ProcessId) (thread : ThreadId) (windowClass : String)
    (title : Option String) : (s.addWindow pid thread windowClass title).2.Numbered where
  nodup := by
    have new : ∀ v ∈ s.windows, v.id ≠ ⟨s.lastWindow + 1⟩ := by
      intro v hv hid
      have hle := h.le_last v hv
      rw [hid] at hle
      exact absurd hle (Int.not_le.2 (Int.lt_succ _))
    simp only [Simulated.addWindow, List.map_append, List.map_cons, List.map_nil]
    refine List.nodup_append.2 ⟨h.nodup, List.nodup_singleton _, ?_⟩
    intro id hid id' hid'
    obtain ⟨v, hv, rfl⟩ := List.mem_map.1 hid
    rw [List.mem_singleton.1 hid']
    exact new v hv
  le_last := by
    intro w hw
    obtain hw | hw := List.mem_append.1 hw
    · exact Int.le_add_one (h.le_last w hw)
    · rw [List.mem_singleton.1 hw]
      exact Int.le_refl _

lemma openProcess (h : s.Numbered) (pid : ProcessId) : (s.openProcess pid).2.Numbered := by
  unfold Simulated.openProcess
  split
  · exact h
  · split
    · exact h
    · exact h.congr rfl rfl

lemma postQuit (h : s.Numbered) (id : WindowId) (message : QuitMessage) :
    (s.postQuit id message).2.Numbered := by
  cases hfind : s.windows.find? fun w => w.id = id with
  | none =>
    rw [postQuit_of_missing hfind]
    exact h
  | some w =>
    have noted : Numbered { s with posted := s.posted.push (id, message) } := h.congr rfl rfl
    rw [postQuit_of_find hfind]
    exact noted.modifyProcess w.pid obey

/-- A number stands for one window, so that two windows of it are the same. -/
lemma eq_of_id (h : s.Numbered) {v w : SimulatedWindow} (hv : v ∈ s.windows)
    (hw : w ∈ s.windows) (hid : v.id = w.id) : v = w :=
  List.inj_on_of_nodup_map h.nodup hv hw hid

lemma find?_eq (h : s.Numbered) {w : SimulatedWindow} (hw : w ∈ s.windows)
    {p : SimulatedWindow → Bool} (hp : p w) (only : ∀ v, p v → v.id = w.id) :
    s.windows.find? p = some w := by
  cases hfind : s.windows.find? p with
  | none => exact absurd hp (List.find?_eq_none.1 hfind w hw)
  | some v =>
    have hv := List.mem_of_find?_eq_some hfind
    exact congrArg some (h.eq_of_id hv hw (only v (List.find?_some hfind)))

lemma find?_id (h : s.Numbered) {w : SimulatedWindow} (hw : w ∈ s.windows) :
    s.windows.find? (fun v => v.id = w.id) = some w :=
  h.find?_eq hw (by simp) fun v hv => by simpa using hv

/-- A window that can be seen is the one that its number stands for, in `liveWindow?` as well. -/
lemma liveWindow?_id (h : s.Numbered) {w : SimulatedWindow} (hw : w ∈ s.liveWindows) :
    s.liveWindow? w.id = some w := by
  obtain ⟨hmem, hlive⟩ := List.mem_filter.1 hw
  exact h.find?_eq hmem (by simp [hlive]) fun v hv => by simp_all

end Numbered

lemma Reachable.numbered {s : Simulated} (h : s.Reachable) : s.Numbered := by
  induction h with
  | empty => exact ⟨List.nodup_nil, by simp [Simulated.empty]⟩
  | addProcess pid exitCode obedience _ ih => exact ih.congr rfl rfl
  | addWindow pid thread windowClass title _ ih => exact ih.addWindow pid thread windowClass title
  | denyOpen pid _ ih => exact ih.modifyProcess _ _
  | exitProcess pid _ ih => exact ih.modifyProcess _ _
  | openProcess pid _ ih => exact ih.openProcess pid
  | postQuit id message _ ih => exact ih.postQuit id message
  | closeHandle h _ _ ih => exact ih.congr rfl rfl

end StartupBench.Simulated
