import StartupBench.Proofs.Quit.Simulated

/-!
# What remains after an attempt to make an instance leave

An attempt on the simulated desktop goes for the first window that fits, and asks windows of its
thread.  The processes that obey and are asked take their windows along (`Asked.isLive_iff`); a
window that fits and belongs to another process remains (`Simulated.Remains`).

`Simulated.Remains` speaks of the state before the attempt alone, and `Simulated.Quits.remains_iff`
says that after an attempt that did not fail there is an instance to be found if and only if one
remains in this sense.  An instance is missed only if there is none (`Simulated.Quits.unseen`), so
that whoever goes on after either of these knows what can still run.  If all windows that fit belong
to one process, nothing remains (`Simulated.Quits.not_remains`), which is the case of an application
that is launched once and waited for.
-/

namespace StartupBench

namespace Simulated

/-- The process obeys, and one of its windows is asked. -/
def Dismissed (s : Simulated) (asked : List SimulatedWindow) (pid : ProcessId) : Prop :=
  (∃ p, s.processes[pid]? = some p ∧ p.obedience = .onQuit) ∧ ∃ v ∈ asked, v.pid = pid

/-- A window that fits outlasts an attempt to make an instance leave: the attempt goes for the first
window that fits, and does not make the process of this one exit. -/
def Remains (s : Simulated) (t : QuitTarget) : Prop :=
  ∃ w v, s.liveWindows.find? (fits t.instancePattern) = some w ∧ v ∈ s.liveWindows ∧
    fits t.instancePattern v ∧ ¬s.Dismissed (s.recipients t.recipients w.thread) v.pid

/-- Some window that fits can be seen, exactly if `findWindow` finds one. -/
lemma findWindow_isSome_iff {s : Simulated} {p : WindowPattern} :
    (s.findWindow p).isSome = true ↔ ∃ v ∈ s.liveWindows, fits p v := by
  rw [findWindow_eq, Option.isSome_map, List.find?_isSome]

/-- A process that is `Dismissed` takes its windows along, and every other window can be seen as
before. -/
lemma Asked.isLive_iff {message : QuitMessage} {asked : List SimulatedWindow}
    {s s₁ : Simulated} (h : Asked message asked s s₁) (v : SimulatedWindow) :
    s₁.isLive v = true ↔ s.isLive v = true ∧ ¬s.Dismissed asked v.pid := by
  unfold isLive Dismissed
  rw [h.processes]
  cases owner : s.processes[v.pid]? with
  | none => simp
  | some p =>
    by_cases own : ∃ u ∈ asked, u.pid = v.pid
    · rw [Option.map_some, if_pos own]
      by_cases obedient : p.obedience = .onQuit
      · simp [obey, obedient, own]
      · simp [obey, obedient]
    · rw [Option.map_some, if_neg own]
      simp [own]

/-- What can be seen after windows were asked is what could be seen before, without the processes
that are dismissed. -/
lemma Asked.mem_liveWindows_iff {message : QuitMessage} {asked : List SimulatedWindow}
    {s s₁ : Simulated} (h : Asked message asked s s₁) {v : SimulatedWindow} :
    v ∈ s₁.liveWindows ↔ v ∈ s.liveWindows ∧ ¬s.Dismissed asked v.pid := by
  unfold liveWindows
  rw [List.mem_filter, List.mem_filter, h.windows_eq, h.isLive_iff, and_assoc]

/-- After an instance has left, there is one to be found if and only if one remains, as `Remains`
says of the state before. -/
lemma Quits.remains_iff {s s₁ : Simulated} {t : QuitTarget} {limit : Option Duration}
    {code : Option Int} (h : Quits s t limit (.ok code) s₁) :
    (s₁.findWindow t.instancePattern).isSome = true ↔ s.Remains t := by
  cases h with
  | left found owner allowed asked obeys =>
    rename_i w p
    rw [findWindow_isSome_iff]
    constructor
    · rintro ⟨v, hv, hfits⟩
      obtain ⟨hlive, stays⟩ := asked.mem_liveWindows_iff.1 hv
      exact ⟨w, v, found, hlive, hfits, stays⟩
    · rintro ⟨w', v, found', hlive, hfits, stays⟩
      cases found.symm.trans found'
      exact ⟨v, asked.mem_liveWindows_iff.2 ⟨hlive, stays⟩, hfits⟩

/-- An instance is missed only if there is none, and the pattern is that of the target. -/
lemma Quits.unseen {s s₁ : Simulated} {t : QuitTarget} {limit : Option Duration}
    {p : WindowPattern} (h : Quits s t limit (.error (.targetNotFound p)) s₁) :
    s.liveWindows.find? (fits t.instancePattern) = none := by
  cases h with
  | notFound unseen => exact unseen

/-- If all windows that fit belong to one process, none of them outlasts it, and so nothing
`Remains`. -/
lemma Quits.not_remains {s s₁ : Simulated} {t : QuitTarget} {limit : Option Duration}
    {code : Option Int} (h : Quits s t limit (.ok code) s₁)
    (one : ∀ v ∈ s.liveWindows, ∀ v' ∈ s.liveWindows, fits t.instancePattern v →
      fits t.instancePattern v' → v.pid = v'.pid) : ¬s.Remains t := by
  cases h with
  | left found owner allowed asked obeys =>
    rintro ⟨w', v, found', hlive, hfits, stays⟩
    cases found.symm.trans found'
    have hpid := one v hlive _ (List.mem_of_find?_eq_some found) hfits (List.find?_some found)
    exact stays (hpid ▸ ⟨⟨_, owner, obeys.1⟩, obeys.2⟩)

/-- Where nothing is found, nothing `Remains`, as there is no first window that fits. -/
lemma not_remains_of_findWindow {s : Simulated} {t : QuitTarget}
    (h : s.findWindow t.instancePattern = none) : ¬s.Remains t := by
  rintro ⟨w, v, -, hlive, hfits, -⟩
  have some := findWindow_isSome_iff.2 ⟨v, hlive, hfits⟩
  rw [h] at some
  cases some

end Simulated

end StartupBench
