import Mathlib.Data.Finset.Card
import Mathlib.Data.Nat.Find
import StartupBench.Proofs.Quit.Remaining

/-!
# One attempt after the other

An attempt to make an instance leave goes for one window.  Where several processes own windows that
fit, attempts are made one after the other (`QuitTarget.after`), and each of them makes at least one
process exit, if all of these processes let themselves be asked (`Simulated.Willing`).  What is left
after an attempt lets itself be asked as well, so that the attempts go on until there is no window
that fits any more (`QuitTarget.quit_drains`).  They may be fewer than the processes, since an
attempt asks all windows of one thread, whichever process owns them.

## One attempt

`Simulated.Quits` says how an attempt ends.  Where all are willing it answers an exit code, and the
owner of the first window that fits is not among the instances any more (`Simulated.Drains`); where
there is no instance it changes nothing (`Simulated.Quits.of_no_instance`).

## All attempts

What holds between two attempts is `QuitTarget.Between`, which is an induction on the number of
attempts.  While there is an instance the next attempt uses one up, and so there are at most as many
of these attempts as there were instances (`QuitTarget.card_instances_add_le`); and once there is
none, none ever comes back (`QuitTarget.after_drained`).
-/

namespace StartupBench

namespace Simulated

variable {s s₁ : Simulated} {t : QuitTarget} {p : WindowPattern}

/-! ## The instances -/

/-- The processes that own a window that fits and can be seen.  There are finitely many, and their
number is what the attempts are counted by. -/
def instances (s : Simulated) (p : WindowPattern) : Finset ProcessId :=
  ((s.liveWindows.filter (fits p)).map (·.pid)).toFinset

lemma mem_instances {pid : ProcessId} :
    pid ∈ s.instances p ↔ ∃ v ∈ s.liveWindows, fits p v ∧ v.pid = pid := by
  simp [instances, and_assoc]

/-- Every window that fits and can be seen belongs to a process that obeys and lets itself be
opened, and that owns a window on the same thread that the target accepts. -/
def Willing (s : Simulated) (t : QuitTarget) : Prop :=
  ∀ w ∈ s.liveWindows, fits t.instancePattern w →
    (∃ q, s.processes[w.pid]? = some q ∧ q.obedience = .onQuit ∧ q.denyOpen = false) ∧
    ∃ v ∈ s.recipients t.recipients w.thread, v.pid = w.pid

/-- Who lets itself be asked and is not dismissed was not asked: its windows are not among `asked`.
-/
lemma Willing.not_asked (h : s.Willing t) {asked : List SimulatedWindow} {w : SimulatedWindow}
    (hw : w ∈ s.liveWindows) (hfits : fits t.instancePattern w)
    (stays : ¬s.Dismissed asked w.pid) : ¬∃ v ∈ asked, v.pid = w.pid := by
  obtain ⟨⟨q, owner, obedient, -⟩, -⟩ := h w hw hfits
  intro own
  exact stays ⟨⟨q, owner, obedient⟩, own⟩

/-- Those who are left after windows were `Asked` still let themselves be asked. -/
lemma Willing.asked (h : s.Willing t) {message : QuitMessage} {asked : List SimulatedWindow}
    (hasked : Asked message asked s s₁) : s₁.Willing t := by
  intro w hw hfits
  obtain ⟨hlive, stays⟩ := hasked.mem_liveWindows_iff.1 hw
  have spared := h.not_asked hlive hfits stays
  obtain ⟨⟨q, owner, willing⟩, v, hv, hpid⟩ := h w hlive hfits
  constructor
  · refine ⟨q, ?_, willing⟩
    rw [hasked.processes, owner, Option.map_some, if_neg spared]
  · -- The window of its own that can be asked is not dismissed either.
    obtain ⟨hvlive, haccepted⟩ := List.mem_filter.1 hv
    have hvlive₁ : v ∈ s₁.liveWindows := hasked.mem_liveWindows_iff.2 ⟨hvlive, hpid ▸ stays⟩
    exact ⟨v, List.mem_filter.2 ⟨hvlive₁, haccepted⟩, hpid⟩

/-- Where there is an instance, a window that fits is found, and the other way round. -/
lemma instances_nonempty_iff :
    (s.instances p).Nonempty ↔ ∃ w, s.liveWindows.find? (fits p) = some w := by
  rw [← Option.isSome_iff_exists, List.find?_isSome]
  simp [Finset.Nonempty, mem_instances]

/-! ## One attempt -/

/-- What an attempt achieves where all let themselves be asked: the owner of the first window that
fits exits with its code, and there are fewer instances than before. -/
structure Drains (t : QuitTarget) (answer : Except QuitError (Option Int)) (s s₁ : Simulated) :
    Prop where
  answer_eq : ∃ w q, s.liveWindows.find? (fits t.instancePattern) = some w ∧
    s.processes[w.pid]? = some q ∧ answer = .ok (some q.exitCode)
  fewer : (s₁.instances t.instancePattern).card < (s.instances t.instancePattern).card

lemma Quits.drains {limit : Option Duration} {answer : Except QuitError (Option Int)}
    (h : Quits s t limit answer s₁) (willing : s.Willing t)
    (some : (s.instances t.instancePattern).Nonempty) :
    Drains t answer s s₁ ∧ s₁.Willing t ∧ s₁.opened = s.opened + 1 ∧ s₁.closed = s.closed + 1 := by
  obtain ⟨w, hw⟩ := instances_nonempty_iff.1 some
  have hlive : w ∈ s.liveWindows := List.mem_of_find?_eq_some hw
  have hfits : fits t.instancePattern w := List.find?_some hw
  obtain ⟨⟨q, hq, obedient, allowed⟩, own⟩ := willing w hlive hfits
  have willing' : s.handled.Willing t := willing
  cases h with
  | notFound unseen => cases unseen.symm.trans hw
  | unregistered found owner =>
    cases found.symm.trans hw
    cases owner.symm.trans hq
  | denied found owner denied =>
    cases found.symm.trans hw
    cases owner.symm.trans hq
    cases denied.symm.trans allowed
  | stayed found owner allowed' asked stays =>
    cases found.symm.trans hw
    cases owner.symm.trans hq
    exact absurd ⟨obedient, own⟩ stays
  | left found owner allowed' asked obeys =>
    cases found.symm.trans hw
    cases owner.symm.trans hq
    have left : w.pid ∉ s₁.instances t.instancePattern := by
      intro hpid
      obtain ⟨v, hv, -, hvpid⟩ := mem_instances.1 hpid
      exact (asked.mem_liveWindows_iff.1 hv).2 (hvpid ▸ ⟨⟨q, hq, obedient⟩, own⟩)
    have kept : s₁.instances t.instancePattern ⊆ s.instances t.instancePattern := by
      intro pid hpid
      obtain ⟨v, hv, hvfits, hvpid⟩ := mem_instances.1 hpid
      exact mem_instances.2 ⟨v, (asked.mem_liveWindows_iff.1 hv).1, hvfits, hvpid⟩
    have fewer : s₁.instances t.instancePattern ⊂ s.instances t.instancePattern := by
      refine (Finset.ssubset_iff_of_subset kept).2 ⟨w.pid, ?_, left⟩
      exact mem_instances.2 ⟨w, hlive, hfits, rfl⟩
    refine ⟨⟨⟨w, q, hw, hq, rfl⟩, Finset.card_lt_card fewer⟩, willing'.asked asked, ?_, ?_⟩
    · rw [asked.rest]
      rfl
    · rw [asked.rest]
      rfl

/-- Without an instance nothing happens, and the attempt says that its target was not found. -/
lemma Quits.of_no_instance {limit : Option Duration} {answer : Except QuitError (Option Int)}
    (h : Quits s t limit answer s₁) (none : s.instances t.instancePattern = ∅) :
    answer = .error (.targetNotFound t.instancePattern) ∧ s₁ = s := by
  have unseen : ¬∃ w, s.liveWindows.find? (fits t.instancePattern) = some w := by
    rw [← instances_nonempty_iff, none]
    exact Finset.not_nonempty_empty
  cases h with
  | notFound unseen => exact ⟨rfl, rfl⟩
  | unregistered found _ => exact absurd ⟨_, found⟩ unseen
  | denied found _ _ => exact absurd ⟨_, found⟩ unseen
  | left found _ _ _ _ => exact absurd ⟨_, found⟩ unseen
  | stayed found _ _ _ _ => exact absurd ⟨_, found⟩ unseen

lemma Quits.numbered {limit : Option Duration} {answer : Except QuitError (Option Int)}
    (h : Quits s t limit answer s₁) (hs : s.Numbered) : s₁.Numbered := by
  have hs' : s.handled.Numbered := hs.congr rfl rfl
  cases h with
  | notFound _ => exact hs
  | unregistered _ _ => exact hs
  | denied _ _ _ => exact hs
  | left _ _ _ asked _ => exact asked.numbered hs'
  | stayed _ _ _ asked _ => exact asked.numbered hs'

end Simulated

namespace QuitTarget

open Simulated (desktop fits Quits Drains)

/-! ## Attempt after attempt -/

/-- The state after so many attempts, each with a limit of its own. -/
def after (t : QuitTarget) (limits : ℕ → Option Duration) (s : Simulated) : ℕ → Simulated
  | 0 => s
  | i + 1 => ((quit (desktop Empty) t (limits i)).run (after t limits s i)).world

/-- How an attempt ends after so many others, in the state that `after` has it begin in. -/
def ending (t : QuitTarget) (limits : ℕ → Option Duration) (s : Simulated) (i : ℕ) :
    Outcome Empty (Except QuitError (Option Int)) :=
  ((quit (desktop Empty) t (limits i)).run (t.after limits s i)).outcome

/-- What holds between two attempts: all are still willing, and as many handles were opened as
closed. -/
structure Between (t : QuitTarget) (s s₁ : Simulated) : Prop where
  numbered : s₁.Numbered
  willing : s₁.Willing t
  balanced : s.opened = s.closed → s₁.opened = s₁.closed

section Attempts

variable {t : QuitTarget} {s : Simulated} (limits : ℕ → Option Duration)

lemma exists_quits {i : ℕ} (numbered : (t.after limits s i).Numbered) :
    ∃ answer, t.ending limits s i = .returned answer ∧
      Quits (t.after limits s i) t (limits i) answer (t.after limits s (i + 1)) :=
  exists_quits_of_numbered numbered t (limits i)

lemma between (numbered : s.Numbered) (willing : s.Willing t) (i : ℕ) :
    Between t s (t.after limits s i) := by
  induction i with
  | zero => exact ⟨numbered, willing, id⟩
  | succ i ih =>
    obtain ⟨answer, -, quits⟩ := exists_quits limits ih.numbered
    rcases Finset.eq_empty_or_nonempty
      ((t.after limits s i).instances t.instancePattern) with none | some
    · rw [(quits.of_no_instance none).2]
      exact ih
    · obtain ⟨-, still, opened, closed⟩ := quits.drains ih.willing some
      refine ⟨quits.numbered ih.numbered, still, fun balanced => ?_⟩
      rw [opened, closed, ih.balanced balanced]

variable (numbered : s.Numbered) (willing : s.Willing t)
include numbered willing

/-- An attempt while there is an instance answers, and it `Drains` the desktop of one at least. -/
lemma exists_drains {i : ℕ}
    (some : ((t.after limits s i).instances t.instancePattern).Nonempty) :
    ∃ answer, t.ending limits s i = .returned answer ∧
      Drains t answer (t.after limits s i) (t.after limits s (i + 1)) := by
  have now := between limits numbered willing i
  obtain ⟨answer, out, quits⟩ := exists_quits limits now.numbered
  exact ⟨answer, out, (quits.drains now.willing some).1⟩

/-- An attempt without an instance does not find its target, and fails with that. -/
lemma ending_of_no_instance {i : ℕ}
    (none : (t.after limits s i).instances t.instancePattern = ∅) :
    t.ending limits s i = .returned (.error (.targetNotFound t.instancePattern)) ∧
      t.after limits s (i + 1) = t.after limits s i := by
  obtain ⟨answer, out, quits⟩ := exists_quits limits (between limits numbered willing i).numbered
  obtain ⟨rfl, same⟩ := quits.of_no_instance none
  exact ⟨out, same⟩

/-- Attempts that find an instance each use one up at least, so that there are as many fewer: by
induction on the attempts. -/
lemma card_instances_add_le {i : ℕ}
    (some : ∀ j < i, ((t.after limits s j).instances t.instancePattern).Nonempty) :
    ((t.after limits s i).instances t.instancePattern).card + i ≤
      (s.instances t.instancePattern).card := by
  induction i with
  | zero => exact le_rfl
  | succ i ih =>
    have before := ih fun j hj => some j (by omega)
    have now := some i (Nat.lt_succ_self i)
    obtain ⟨answer, -, drains⟩ := exists_drains limits numbered willing now
    have fewer := drains.fewer
    omega

/-- At some time, and after not more attempts than there were instances, there is none. -/
lemma exists_drained :
    ∃ m ≤ (s.instances t.instancePattern).card,
      (∀ i < m, ((t.after limits s i).instances t.instancePattern).Nonempty) ∧
      (t.after limits s m).instances t.instancePattern = ∅ := by
  have drained : ∃ m, (t.after limits s m).instances t.instancePattern = ∅ := by
    by_contra never
    push Not at never
    have bound := card_instances_add_le limits numbered willing
      (i := (s.instances t.instancePattern).card + 1) fun j _ => never j
    omega
  have before : ∀ i < Nat.find drained,
      ((t.after limits s i).instances t.instancePattern).Nonempty :=
    fun i hi => Finset.nonempty_iff_ne_empty.2 (Nat.find_min drained hi)
  have bound := card_instances_add_le limits numbered willing before
  exact ⟨Nat.find drained, by omega, before, Nat.find_spec drained⟩

/-- Once there is no instance, none ever comes back, as the state does not change any more. -/
lemma after_drained {m : ℕ} (none : (t.after limits s m).instances t.instancePattern = ∅)
    {i : ℕ} (hi : m ≤ i) : t.after limits s i = t.after limits s m := by
  induction i, hi using Nat.le_induction with
  | base => rfl
  | succ i _ ih => exact (ending_of_no_instance limits numbered willing (ih ▸ none)).2.trans ih

end Attempts

/-- **Attempt after attempt makes all instances leave.**  If all processes that own a window that
fits let themselves be asked, every attempt made while there is one of them answers the exit code of
the owner of the first such window, and leaves fewer of them.  So after as many attempts at most as
there were processes, each of them a success, no instance is found any more.  As many handles were
opened as closed all the time, if it was so at the start. -/
theorem quit_drains {s : Simulated} (h : s.Reachable) (t : QuitTarget) (willing : s.Willing t)
    (limits : ℕ → Option Duration) :
    (∀ i, 0 < ((t.after limits s i).instances t.instancePattern).card →
      ∃ answer, t.ending limits s i = .returned answer ∧
        Drains t answer (t.after limits s i) (t.after limits s (i + 1))) ∧
    (∃ m ≤ (s.instances t.instancePattern).card,
      (∀ i < m, ∃ code, t.ending limits s i = .returned (.ok code)) ∧
      ∀ i ≥ m, t.ending limits s i = .returned (.error (.targetNotFound t.instancePattern)) ∧
        t.after limits s i = t.after limits s m) ∧
    (s.opened = s.closed →
      ∀ i, (t.after limits s i).opened = (t.after limits s i).closed) := by
  have drains := fun i => @exists_drains t s limits h.numbered willing i
  refine ⟨fun i some => drains i (Finset.card_pos.1 some), ?_, fun balanced i =>
    (between limits h.numbered willing i).balanced balanced⟩
  obtain ⟨m, hm, before, none⟩ := exists_drained limits h.numbered willing
  refine ⟨m, hm, fun i hi => ?_, fun i hi => ?_⟩
  · obtain ⟨answer, out, drained⟩ := drains i (before i hi)
    obtain ⟨w, q, -, -, rfl⟩ := drained.answer_eq
    exact ⟨_, out⟩
  · have same := after_drained limits h.numbered willing none hi
    exact ⟨(ending_of_no_instance limits h.numbered willing (same ▸ none)).1, same⟩

/-- Two instances let themselves be asked: the first attempt makes the one found first leave, and
after two attempts at most there is none. -/
theorem twoInstances_drained :
    let t : QuitTarget := ⟨⟨"App", none⟩, .exactly "App", .appQuit⟩
    twoInstances.Reachable ∧ twoInstances.Willing t ∧
      t.ending (fun _ => none) twoInstances 0 = .returned (.ok (some 3)) ∧
      ∃ m ≤ 2, t.ending (fun _ => none) twoInstances m =
        .returned (.error (.targetNotFound t.instancePattern)) := by
  intro t
  have two : twoInstances.instances t.instancePattern = {⟨10⟩, ⟨11⟩} := by
    rw [Simulated.instances, twoInstances_liveWindows]
    decide
  have willing : twoInstances.Willing t := by
    unfold Simulated.Willing Simulated.recipients
    rw [twoInstances_liveWindows]
    intro w hw _
    simp only [List.mem_cons, List.not_mem_nil, or_false] at hw
    rcases hw with rfl | rfl
    · exact ⟨⟨_, twoInstances_processes ⟨10⟩, rfl, rfl⟩, by decide⟩
    · exact ⟨⟨_, twoInstances_processes ⟨11⟩, rfl, rfl⟩, by decide⟩
  obtain ⟨each, ⟨m, hm, -, none⟩, -⟩ :=
    quit_drains twoInstances_reachable t willing fun _ => none
  have some : 0 < (twoInstances.instances t.instancePattern).card := by
    rw [two]
    decide
  rw [two] at hm
  obtain ⟨answer, out, drains⟩ := each 0 some
  obtain ⟨w, q, found, owner, rfl⟩ := drains.answer_eq
  cases found.symm.trans twoInstances_first.1
  cases owner.symm.trans (twoInstances_processes ⟨10⟩)
  exact ⟨twoInstances_reachable, willing, out, m, hm, (none m le_rfl).1⟩

end QuitTarget

end StartupBench
