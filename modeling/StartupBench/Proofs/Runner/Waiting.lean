import Mathlib.Data.ENat.Lattice
import StartupBench.Proofs.Act.Answers
import StartupBench.Proofs.Runner.Recorded

/-!
# How a wait for an application ends

While somebody waits for an application (`Patience.await`), two checks are made in turn: whether the
application runs, and whether the user wants to stop.  Whatever state the checks have, together they
answer two streams `r` and `b` (`Patience.Streams`), and the first places at which these are true
decide how the wait ends, and after how many checks (`Patience.await_ends`).

Both checks are made in a round, and an application that runs goes before a user who wants to stop
in the same round.  The checks are counted on a record (`Patience.awaitRecorded`), and the loop is
followed by induction on the rounds that are left (`Patience.first_ends`): all rounds so far were in
vain, and the record is that of so many rounds.  First places are numbers of `ℕ∞`, so that streams
that are never true need no case of their own.
-/

namespace StartupBench

/-! ## The first place at which a stream is true -/

/-- The first place at which a stream of answers is true, which is `⊤` if there is none. -/
noncomputable def firstTrue (answers : ℕ → Bool) : ℕ∞ :=
  sInf (Nat.cast '' {i : ℕ | answers i = true})

section FirstTrue

variable {answers : ℕ → Bool} {n : ℕ}

lemma firstTrue_lt_iff : firstTrue answers < n ↔ ∃ i < n, answers i = true := by
  unfold firstTrue
  rw [sInf_lt_iff]
  constructor
  · rintro ⟨_, ⟨i, hi, rfl⟩, hlt⟩
    exact ⟨i, Nat.cast_lt.1 hlt, hi⟩
  · rintro ⟨i, hlt, hi⟩
    exact ⟨i, ⟨i, hi, rfl⟩, Nat.cast_lt.2 hlt⟩

lemma le_firstTrue_iff : (n : ℕ∞) ≤ firstTrue answers ↔ ∀ i < n, answers i = false := by
  rw [← not_lt, firstTrue_lt_iff]
  simp

lemma firstTrue_eq (now : answers n = true) (before : ∀ i < n, answers i = false) :
    firstTrue answers = n := by
  apply le_antisymm
  · exact sInf_le ⟨n, now, rfl⟩
  · exact le_firstTrue_iff.2 before

end FirstTrue

namespace Patience

variable {κ σ : Type}

/-! ## Rounds -/

/-- What is checked during a wait, once in each round. -/
inductive Check where
  | running
  | interrupted
  deriving DecidableEq, Repr

/-- The checks of `n` rounds in vain, each of which makes both. -/
def rounds (n : ℕ) : List Check := (List.replicate n [Check.running, Check.interrupted]).flatten

lemma rounds_succ (n : ℕ) : rounds (n + 1) = rounds n ++ [.running, .interrupted] := by
  simp [rounds, List.replicate_succ']

lemma count_rounds (n : ℕ) (check : Check) : (rounds n).count check = n := by
  induction n with
  | zero => simp [rounds]
  | succ n ih =>
    rw [rounds_succ, List.count_append, ih]
    cases check <;> simp

/-- Checked again and again from `w`, with a pause after each round, the application is said to run
as in `r`, and the user to want to stop as in `b`. -/
def Streams (p : Patience) (isRunning interrupted : Act κ σ Bool)
    (sleep : Duration → Act κ σ Unit) (w : σ) (r b : ℕ → Bool) : Prop :=
  ∃ worlds : ℕ → σ, worlds 0 = w ∧ ∀ i, ∃ w₁ w₂, isRunning.Answers (worlds i) (r i) w₁ ∧
    interrupted.Answers w₁ (b i) w₂ ∧ (sleep p.interval).Answers w₂ () (worlds (i + 1))

/-- How a wait ends on these answers, and with which checks: in round `k` because the application
runs, in round `j` because the user wants to stop, or after all rounds in vain. -/
inductive Ends (p : Patience) (r b : ℕ → Bool) : Except RunError Unit → List Check → Prop
  | running {k : ℕ} (inTime : k < p.looks) (now : r k = true)
      (before : ∀ i < k, r i = false ∧ b i = false) :
      Ends p r b (.ok ()) (rounds k ++ [.running])
  | interrupted {j : ℕ} (inTime : j < p.looks) (now : b j = true) (notRunning : r j = false)
      (before : ∀ i < j, r i = false ∧ b i = false) :
      Ends p r b (.error .interrupted) (rounds (j + 1))
  | timeout (before : ∀ i < p.looks, r i = false ∧ b i = false) :
      Ends p r b (.error (.launchTimeout p.looks)) (rounds p.looks)

/-- A wait that keeps a record of its checks; it is `Patience.await` otherwise. -/
def awaitRecorded (p : Patience) (isRunning interrupted : Act κ σ Bool)
    (sleep : Duration → Act κ σ Unit) : Try κ (Recorded Check σ) RunError Unit :=
  p.await (isRunning.recorded fun _ => .running) (interrupted.recorded fun _ => .interrupted)
    fun time => (sleep time).unrecorded

section Rounds

variable {p : Patience} {isRunning interrupted : Act κ σ Bool} {sleep : Duration → Act κ σ Unit}

/-- The record does not change how the wait ends: it is `Act.Over` the wait itself. -/
lemma awaitRecorded_over : Try.Over Recorded.world (p.awaitRecorded isRunning interrupted sleep)
    (p.await isRunning interrupted sleep) :=
  (p.await_tracks (Act.recorded_over _ isRunning).tracks (Act.recorded_over _ interrupted).tracks
    fun time => (Act.unrecorded_over (sleep time)).tracks).toOver

section Look

variable {w w₁ w₂ w₃ : σ} {checks : List Check} (done : ℕ)

lemma look_of_running (hr : isRunning.Answers w true w₁) :
    (p.look (isRunning.recorded fun _ => .running) (interrupted.recorded fun _ => .interrupted)
      (fun time => (sleep time).unrecorded) done).Answers ⟨checks, w⟩ (some (.ok ()))
        ⟨checks ++ [.running], w₁⟩ := by
  unfold look
  refine (hr.recorded _ checks).bind ?_
  exact ⟨rfl, rfl⟩

lemma look_of_interrupted (hr : isRunning.Answers w false w₁)
    (hb : interrupted.Answers w₁ true w₂) :
    (p.look (isRunning.recorded fun _ => .running) (interrupted.recorded fun _ => .interrupted)
      (fun time => (sleep time).unrecorded) done).Answers ⟨checks, w⟩ (some (.error .interrupted))
        ⟨checks ++ [.running] ++ [.interrupted], w₂⟩ := by
  unfold look
  refine (hr.recorded _ checks).bind ?_
  refine (hb.recorded _ _).bind ?_
  exact ⟨rfl, rfl⟩

lemma look_in_vain (hr : isRunning.Answers w false w₁) (hb : interrupted.Answers w₁ false w₂)
    (hs : (sleep p.interval).Answers w₂ () w₃) :
    (p.look (isRunning.recorded fun _ => .running) (interrupted.recorded fun _ => .interrupted)
      (fun time => (sleep time).unrecorded) done).Answers ⟨checks, w⟩ none
        ⟨checks ++ [.running] ++ [.interrupted], w₃⟩ := by
  unfold look
  refine (hr.recorded _ checks).bind ?_
  refine (hb.recorded _ _).bind ?_
  exact (hs.unrecorded _).bind (Act.answers_pure _ _)

end Look

/-- From a round on, if all rounds before it were in vain, the wait ends as in `Ends`.  The proof is
by induction on the rounds that are left. -/
lemma first_ends {worlds : ℕ → σ} {r b : ℕ → Bool}
    (round : ∀ i, ∃ w₁ w₂, isRunning.Answers (worlds i) (r i) w₁ ∧
      interrupted.Answers w₁ (b i) w₂ ∧ (sleep p.interval).Answers w₂ () (worlds (i + 1)))
    {left done : ℕ} (all : done + left = p.looks)
    (before : ∀ i < done, r i = false ∧ b i = false) :
    ∃ ending checks w, (Act.first (p.look (isRunning.recorded fun _ => .running)
        (interrupted.recorded fun _ => .interrupted) fun time => (sleep time).unrecorded)
          left done).Answers ⟨rounds done, worlds done⟩ ending ⟨checks, w⟩ ∧
      p.Ends r b (ending.getD (.error (.launchTimeout p.looks))) checks := by
  induction left generalizing done with
  | zero =>
    subst all
    exact ⟨none, _, _, Act.answers_pure _ _, .timeout before⟩
  | succ left ih =>
    obtain ⟨w₁, w₂, hr, hb, hs⟩ := round done
    have inTime : done < p.looks := by omega
    rw [Act.first_succ]
    cases now : r done with
    | true =>
      rw [now] at hr
      exact ⟨_, _, _, (look_of_running done hr).bind (Act.answers_pure _ _),
        .running inTime now before⟩
    | false =>
      rw [now] at hr
      cases stop : b done with
      | true =>
        rw [stop] at hb
        refine ⟨_, _, _, (look_of_interrupted done hr hb).bind (Act.answers_pure _ _), ?_⟩
        rw [List.append_assoc]
        exact rounds_succ done ▸ .interrupted inTime stop now before
      | false =>
        rw [stop] at hb
        have before' : ∀ i < done + 1, r i = false ∧ b i = false := by
          intro i hi
          rcases Nat.lt_succ_iff_lt_or_eq.1 hi with hi | rfl
          · exact before i hi
          · exact ⟨now, stop⟩
        obtain ⟨ending, checks, w, rest, ends⟩ := ih (by omega) before'
        rw [rounds_succ] at rest
        refine ⟨ending, checks, w, (look_in_vain done hr hb hs).bind ?_, ends⟩
        simpa using rest

lemma await_ends_recorded {w : σ} {r b : ℕ → Bool}
    (h : p.Streams isRunning interrupted sleep w r b) :
    ∃ answer checks w₁, (p.awaitRecorded isRunning interrupted sleep).run.Answers ⟨[], w⟩ answer
        ⟨checks, w₁⟩ ∧
      p.Ends r b answer checks := by
  obtain ⟨worlds, rfl, round⟩ := h
  obtain ⟨ending, checks, w₁, first, ends⟩ := first_ends round (Nat.zero_add p.looks)
    fun i hi => absurd hi (Nat.not_lt_zero i)
  exact ⟨_, checks, w₁, first.bind (Act.answers_pure _ _), ends⟩

end Rounds

/-! ## The first round that decides -/

/-- How a wait ends and how many checks it makes, by the first places `k` and `j` at which the
application is said to run and the user to want to stop. -/
structure Decided (p : Patience) (k j : ℕ∞) (answer : Except RunError Unit)
    (checks : List Check) : Prop where
  ok_iff : answer = .ok () ↔ k < p.looks ∧ k ≤ j
  interrupted_iff : answer = .error .interrupted ↔ j < p.looks ∧ j < k
  timeout_iff : answer = .error (.launchTimeout p.looks) ↔
    ¬(k < p.looks ∧ k ≤ j) ∧ ¬(j < p.looks ∧ j < k)
  /-- An application that runs is seen to do so without a further question. -/
  checks_of_ok : answer = .ok () →
    (checks.count .running : ℕ∞) = k + 1 ∧ (checks.count .interrupted : ℕ∞) = k
  checks_of_interrupted : answer = .error .interrupted →
    (checks.count .running : ℕ∞) = j + 1 ∧ (checks.count .interrupted : ℕ∞) = j + 1
  checks_of_timeout : answer = .error (.launchTimeout p.looks) →
    checks.count .running = p.looks ∧ checks.count .interrupted = p.looks

lemma Ends.decided {p : Patience} {r b : ℕ → Bool} {answer : Except RunError Unit}
    {checks : List Check} (h : p.Ends r b answer checks) :
    p.Decided (firstTrue r) (firstTrue b) answer checks := by
  cases h with
  | @running k inTime now before =>
    have hk : firstTrue r = k := firstTrue_eq now fun i hi => (before i hi).1
    have hj : (k : ℕ∞) ≤ firstTrue b := le_firstTrue_iff.2 fun i hi => (before i hi).2
    have soon : (k : ℕ∞) < p.looks := Nat.cast_lt.2 inTime
    rw [hk]
    constructor <;> simp [soon, hj, count_rounds]
  | @interrupted j inTime now notRunning before =>
    have hj : firstTrue b = j := firstTrue_eq now fun i hi => (before i hi).2
    have hk : (j : ℕ∞) < firstTrue r := by
      have upTo : ((j + 1 : ℕ) : ℕ∞) ≤ firstTrue r := by
        refine le_firstTrue_iff.2 fun i hi => ?_
        rcases Nat.lt_succ_iff_lt_or_eq.1 hi with hi | rfl
        · exact (before i hi).1
        · exact notRunning
      exact lt_of_lt_of_le (Nat.cast_lt.2 (Nat.lt_succ_self j)) upTo
    have soon : (j : ℕ∞) < p.looks := Nat.cast_lt.2 inTime
    rw [hj]
    constructor <;> simp [soon, hk, count_rounds]
  | timeout before =>
    have hk : (p.looks : ℕ∞) ≤ firstTrue r := le_firstTrue_iff.2 fun i hi => (before i hi).1
    have hj : (p.looks : ℕ∞) ≤ firstTrue b := le_firstTrue_iff.2 fun i hi => (before i hi).2
    constructor <;> simp [hk, hj, count_rounds]

/-- **How a wait for an application ends.**  Let `k` be the first place at which the application is
said to run and `j` the first at which the user is said to want to stop, and look `a` times at most.
The wait is over once the application runs if `k < a` and `k ≤ j`, it is interrupted if `j < a` and
`j < k`, and it takes too long otherwise, each after exactly so many checks. -/
theorem await_ends (p : Patience) (isRunning interrupted : Act κ σ Bool)
    (sleep : Duration → Act κ σ Unit) {w : σ} {r b : ℕ → Bool}
    (h : p.Streams isRunning interrupted sleep w r b) :
    ∃ answer checks w₁, ((p.await isRunning interrupted sleep).run w).outcome = .returned answer ∧
      (p.awaitRecorded isRunning interrupted sleep).run.Answers ⟨[], w⟩ answer ⟨checks, w₁⟩ ∧
      p.Decided (firstTrue r) (firstTrue b) answer checks := by
  obtain ⟨answer, checks, w₁, recorded, ends⟩ := await_ends_recorded h
  refine ⟨answer, checks, w₁, ?_, recorded, ends.decided⟩
  exact (Act.Over.outcome_eq awaitRecorded_over ⟨[], w⟩).symm.trans recorded.1

/-! ## Any answers -/

/-- Whether the application runs, answered from the script `r`.  The world counts the checks of each
kind that were made. -/
def scriptedRunning (r : ℕ → Bool) : Act κ (ℕ × ℕ) Bool :=
  Act.step fun made => (r made.1, (made.1 + 1, made.2))

/-- Whether the user wants to stop, answered from the script `b`. -/
def scriptedInterrupted (b : ℕ → Bool) : Act κ (ℕ × ℕ) Bool :=
  Act.step fun made => (b made.2, (made.1, made.2 + 1))

/-- Any two streams can be answered, by `scriptedRunning` and `scriptedInterrupted`. -/
lemma scripted_streams (p : Patience) (r b : ℕ → Bool) :
    p.Streams (scriptedRunning r : Act κ (ℕ × ℕ) Bool) (scriptedInterrupted b) (fun _ => pure ())
      (0, 0) r b := by
  refine ⟨fun i => (i, i), rfl, fun i => ⟨(i + 1, i), (i + 1, i + 1), ?_, ?_, ?_⟩⟩
  all_goals exact ⟨rfl, rfl⟩

/-- In the third round the application runs and the user wants to stop: the wait is over after three
looks and two questions. -/
theorem await_of_tie :
    Streams ⟨5, .zero⟩ (scriptedRunning (· = 2) : Act Empty (ℕ × ℕ) Bool)
        (scriptedInterrupted (· = 2)) (fun _ => pure ()) (0, 0) (· = 2) (· = 2) ∧
      ∃ checks : List Check, checks.count .running = 3 ∧ checks.count .interrupted = 2 ∧
        ((await ⟨5, .zero⟩ (scriptedRunning (· = 2) : Act Empty (ℕ × ℕ) Bool)
          (scriptedInterrupted (· = 2)) fun _ => pure ()).run (0, 0)).outcome =
            .returned (.ok ()) := by
  have third : firstTrue (· = 2) = 2 := firstTrue_eq (n := 2) (by decide) (by decide)
  have streams := scripted_streams (κ := Empty) ⟨5, .zero⟩ (· = 2) (· = 2)
  obtain ⟨answer, checks, -, out, -, decided⟩ := await_ends ⟨5, .zero⟩ _ _ _ streams
  rw [third] at decided
  have ok : answer = .ok () := decided.ok_iff.2 ⟨by decide, le_rfl⟩
  obtain ⟨hr, hb⟩ := decided.checks_of_ok ok
  exact ⟨streams, checks, by exact_mod_cast hr, by exact_mod_cast hb, ok ▸ out⟩

end Patience

end StartupBench
