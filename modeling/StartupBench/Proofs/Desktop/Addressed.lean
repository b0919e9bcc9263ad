import Mathlib.Algebra.Group.Int.Defs
import StartupBench.Proofs.Desktop.Requests
import StartupBench.Proofs.Desktop.Spared

/-!
# Whom the system is asked about

Over a table of processes a window is a process number, and a request about a window, a thread or a
process ends in calls of the system that take that number as a signed word.  The system takes only
positive words for processes; zero and the negative words are groups of them, or all of them
(`ProcessTable.addressee`).

A number that is negative or longer than 32 bits is refused, but neither zero nor a number in the
upper half of the 32 bits is.  So the numbers that the system is given are those of the processes
that were asked for, and they stand for these processes exactly if they are in the lower half and
not zero (`ProcessTable.processes_addressed`).  Asked for zero, the quit request goes to the
program's own group (`ProcessTable.zero_not_process`).

## From requests to calls

The calls with a process number are recorded by `ProcessCalls.addressed`, and `ProcessTable.Leads`
says which of them a `Desktop.Request` leads to: none at all if it only looks at the table, one for
a request to quit, and any number of looks at one and the same process for a wait.  One request is
`ProcessTable.answer_leads`, with a case for each kind of request, and a list of them is
`ProcessTable.requests_lead`.  There the list may end early, where a call of the system does not
come back.

## From numbers to processes

`ProcessTable.addressee_rawPid` reads the signed word back: it is the number of the process in the
lower half of the 32 bits and is not in the upper one, and `ProcessTable.rawPid_eq_number_iff` says
that these are the only two cases.
-/

namespace StartupBench

/-! ## Computations one after the other -/

namespace Act

variable {κ σ α β ε : Type}

lemma bind_pure_world (x : Act κ σ α) (g : α → β) (w : σ) :
    ((x >>= fun a => pure (g a)) w).world = (x w).world := by
  rw [bind_run]
  rcases x w with ⟨a | m | k, w₁, n₁⟩ <;> rfl

/-- Every computation adds a stretch of its own to a list, as far as they come: if each `f a` adds
one that stands in `C` to `a`, then `Act.each` adds as many, in order. -/
lemma each_stretches {f : α → Act κ σ β} {C : List ε → α → Prop} (read : σ → List ε)
    (adds : ∀ a w, ∃ l, C l a ∧ read (f a w).world = read w ++ l) (as : List α) (w : σ) :
    ∃ done rest stretches, as = done ++ rest ∧ List.Forall₂ C stretches done ∧
      read (each f as w).world = read w ++ stretches.flatten ∧
      ∀ bs, (each f as w).outcome = .returned bs → rest = [] := by
  induction as generalizing w with
  | nil => exact ⟨[], [], [], rfl, .nil, (List.append_nil _).symm, fun _ _ => rfl⟩
  | cons a as ih =>
    obtain ⟨l, hl, added⟩ := adds a w
    rw [each_cons, bind_run]
    rcases hr : f a w with ⟨b | m | k, w₁, n₁⟩ <;> rw [hr] at added <;> dsimp only at added ⊢
    · obtain ⟨done, rest, stretches, rfl, later, more, ended⟩ := ih w₁
      refine ⟨a :: done, rest, l :: stretches, rfl, .cons hl later, ?_, fun bs out => ?_⟩
      · rw [bind_pure_world, more, added, List.flatten_cons, List.append_assoc]
      · obtain ⟨_, _, ⟨answered, -⟩, -⟩ := answers_bind_iff.1 ⟨out, rfl⟩
        exact ended _ answered
    · exact ⟨[a], as, [l], rfl, .cons hl .nil, by rw [added, List.flatten_singleton], nofun⟩
    · exact ⟨[a], as, [l], rfl, .cons hl .nil, by rw [added, List.flatten_singleton], nofun⟩

end Act

variable {κ σ : Type}

/-! ## Calls with a process number -/

/-- A call of the system that takes a process number, which is a signed word there. -/
inductive SystemCall where
  | probe (number : Int32)
  | terminate (number : Int32)
  | poll (number : Int32)
  deriving DecidableEq, Repr

/-- The process number that the system was given, in whichever call. -/
def SystemCall.number : SystemCall → Int32
  | probe n | terminate n | poll n => n

/-- System calls that keep a record of those with a process number, as a `SystemCall` each, and do
what they did. -/
def ProcessCalls.addressed (c : ProcessCalls κ σ) : ProcessCalls κ (Recorded SystemCall σ) where
  own := c.own
  list := Try.unrecorded c.list
  probe n := Try.recorded (fun _ => .probe n) (c.probe n)
  terminate n := Try.recorded (fun _ => .terminate n) (c.terminate n)
  poll n := Try.recorded (fun _ => .poll n) (c.poll n)
  now := c.now.unrecorded
  sleep time := (c.sleep time).unrecorded

namespace ProcessTable

open Desktop (Request)
open ProcessEntry (ofLine?)
open Recorded (Adds)

lemma addressed_about (c : ProcessCalls κ σ) {K : Int32 → Prop} {C : SystemCall → Prop}
    (probe : ∀ n, K n → C (.probe n)) (poll : ∀ n, K n → C (.poll n)) :
    TracksAbout Recorded.world (Adds C) K c.addressed c where
  own := rfl
  list := ⟨Try.unrecorded_over _, Act.Respects.unrecorded C _⟩
  probe n hn := Try.recorded_tracks (fun _ => SystemCall.probe n) _ fun _ => probe n hn
  poll n hn := Try.recorded_tracks (fun _ => SystemCall.poll n) _ fun _ => poll n hn
  now := ⟨Act.unrecorded_over _, Act.Respects.unrecorded C _⟩
  sleep _ := ⟨Act.unrecorded_over _, Act.Respects.unrecorded C _⟩

/-- The calls that a request may lead to.  A wait for a process may look at it any number of times,
in two ways. -/
def Leads (calls : List SystemCall) : Request → Prop
  | .postQuit window _ =>
    calls = (processOf? window).toList.map fun pid => .terminate (rawPid pid)
  | .openProcess pid => calls = [.probe (rawPid pid)]
  | .threadWindows thread => calls = [.probe (rawPid ⟨thread.number⟩)]
  | .waitForExit handle _ =>
    ∀ call ∈ calls, call = .poll (rawPid handle.pid) ∨ call = .probe (rawPid handle.pid)
  | _ => calls = []

/-- The computation makes these calls, whichever way it ends, a panic and a call that never comes
back included. -/
def Makes {α : Type} (x : Act κ (World (Recorded SystemCall σ)) α) (calls : List SystemCall) :
    Prop :=
  ∀ w, (x w).world.outside.calls = w.outside.calls ++ calls

section Makes

variable {α β : Type} {x : Act κ (World (Recorded SystemCall σ)) α} {calls : List SystemCall}

lemma Makes.bind (hx : Makes x calls) {g : α → Act κ (World (Recorded SystemCall σ)) β}
    (hg : ∀ a, Makes (g a) []) : Makes (x >>= g) calls := by
  intro w
  have hw := hx w
  rw [Act.bind_run]
  rcases hr : x w with ⟨a | m | k, w₁, n₁⟩ <;> rw [hr] at hw
  · exact ((hg a w₁).trans (List.append_nil _)).trans hw
  · exact hw
  · exact hw

lemma makes_pure (a : α) :
    Makes (pure a : Act κ (World (Recorded SystemCall σ)) α) [] :=
  fun _ => (List.append_nil _).symm

lemma Makes.map (hx : Makes x calls) (g : α → β) : Makes (g <$> x) calls := by
  rw [map_eq_pure_bind]
  exact hx.bind fun a => makes_pure (g a)

lemma makes_asking {ε : Type} (call : SystemCall) (x : Try κ σ ε α) :
    Makes (asking (Try.recorded (fun _ => call) x).result) [call] := fun _ => rfl

lemma makes_calling (operation : String) (call : SystemCall) (x : Try κ σ Errno α) :
    Makes (calling operation (Try.recorded (fun _ => call) x)).result [call] := fun w =>
  congrArg (fun w : World (Recorded SystemCall σ) => w.outside.calls) (Try.mapError_world _ _ w)

end Makes

section Requests

variable (c : ProcessCalls κ σ) (hung : κ) (looks : Nat)

lemma openProcess_makes (pid : ProcessId) :
    Makes ((desktop c.addressed hung looks).openProcess pid).result [.probe (rawPid pid)] := by
  refine (makes_calling "kill" (.probe (rawPid pid)) (c.probe (rawPid pid))).bind fun out => ?_
  cases out with
  | ok _ => exact makes_pure _
  | error _ => exact makes_pure _

lemma threadWindows_makes (thread : ThreadId) :
    Makes ((desktop c.addressed hung looks).threadWindows thread)
      [.probe (rawPid ⟨thread.number⟩)] := by
  refine (makes_asking (.probe (rawPid ⟨thread.number⟩)) (c.probe _)).bind fun out => ?_
  cases out with
  | ok _ => exact makes_pure _
  | error _ => exact makes_pure _

lemma postQuit_makes (window : WindowId) (message : QuitMessage) :
    Makes ((desktop c.addressed hung looks).postQuit window message).result
      ((processOf? window).toList.map fun pid => .terminate (rawPid pid)) := by
  cases hw : processOf? window with
  | none =>
    unfold desktop windowOwner
    dsimp only
    rw [hw]
    exact makes_pure _
  | some pid =>
    rw [postQuit_eq hung looks c.addressed hw]
    exact makes_calling "kill" (.terminate (rawPid pid)) (c.terminate (rawPid pid))

/-- A request leads to calls about the process that it is about, as `Leads` says, with a case for
each kind of `Request`. -/
lemma answer_leads (r : Request) (w : World (Recorded SystemCall σ)) :
    ∃ calls, Leads calls r ∧
      ((desktop c.addressed hung looks).answer r w).world.outside.calls =
        w.outside.calls ++ calls := by
  -- What only looks at the table leads to no call with a number.
  have looked : ∀ {α : Type} {x : Act κ (World (Recorded SystemCall σ)) α} (g : α → Desktop.Reply),
      x.Respects (Around (Adds fun _ => False)) →
        ∃ calls, calls = [] ∧
          ((g <$> x) w).world.outside.calls = w.outside.calls ++ calls := by
    intro α x g hx
    obtain ⟨calls, hcalls, none⟩ := hx.map g w
    exact ⟨calls, List.eq_nil_iff_forall_not_mem.2 none, hcalls⟩
  have about := addressed_about c (K := fun _ => False) (C := fun _ => False)
    (fun _ => id) fun _ => id
  cases r with
  | findWindow p => exact looked _ (findWindow_about about hung looks p).respects
  | windowOwner window => exact looked _ (Act.Respects.pure _)
  | threadWindows thread => exact ⟨_, rfl, (threadWindows_makes c hung looks thread).map _ w⟩
  | className window => exact looked _ (className_about about hung looks window).respects
  | openProcess pid => exact ⟨_, rfl, (openProcess_makes c hung looks pid).map _ w⟩
  | postQuit window message => exact ⟨_, rfl, (postQuit_makes c hung looks window message).map _ w⟩
  | waitForExit handle limit =>
    let C : SystemCall → Prop := fun call =>
      call = .poll (rawPid handle.pid) ∨ call = .probe (rawPid handle.pid)
    have aboutHandle := addressed_about c (K := fun n => n = rawPid handle.pid) (C := C)
      (fun n hn => .inr (congrArg _ hn)) fun n hn => .inl (congrArg _ hn)
    have waits := (waitForExit_about aboutHandle hung looks rfl limit).result.respects
    obtain ⟨calls, hcalls, made⟩ := (waits.map Desktop.Reply.waited) w
    exact ⟨calls, made, hcalls⟩
  | exitCode handle => exact looked _ fun _ => Std.Refl.refl (r := Adds fun _ => False) _
  | closeProcess handle =>
    exact looked _ (note_tracks (π := Recorded.world) fun m => m.erase handle.pid).respects

/-- Requests one after the other, as far as they come, each lead to the calls about their own
process.  If all of them were replied to, no request is left in `rest`. -/
lemma requests_lead (requests : List Request) (w : World (Recorded SystemCall σ)) :
    ∃ done rest stretches, requests = done ++ rest ∧ List.Forall₂ Leads stretches done ∧
      ((Act.each (desktop c.addressed hung looks).ask requests) w).world.outside.calls =
        w.outside.calls ++ stretches.flatten ∧
      ∀ said, ((Act.each (desktop c.addressed hung looks).ask requests) w).outcome =
        .returned said → rest = [] := by
  have adds : ∀ (r : Request) (w : World (Recorded SystemCall σ)), ∃ calls, Leads calls r ∧
      ((desktop c.addressed hung looks).ask r w).world.outside.calls =
        w.outside.calls ++ calls := by
    intro r w
    rw [Desktop.ask_world]
    exact answer_leads c hung looks r w
  exact Act.each_stretches (fun w => w.outside.calls) adds requests w

end Requests

/-! ## Whom a number stands for -/

/-- Whom the system takes a process number for, which is more than processes. -/
inductive Addressee where
  | process (number : Nat)
  /-- All processes in the group of the running program. -/
  | ownGroup
  | everyone
  | group (number : Nat)
  deriving DecidableEq, Repr

/-- A positive number is a process, and a negative one the group of that number; but there is no
group of number one, and `-1` is everyone. -/
def addressee (number : Int32) : Addressee :=
  if 0 < number.toInt then .process number.toInt.toNat
  else if number.toInt = 0 then .ownGroup
  else if number.toInt = -1 then .everyone
  else .group (-number.toInt).toNat

lemma toInt_rawPid (pid : ProcessId) :
    (rawPid pid).toInt = if pid.number.toNat < 2 ^ 31 then (pid.number.toNat : Int)
      else pid.number.toNat - 2 ^ 32 := by
  have bits : (rawPid pid).toInt = pid.number.toBitVec.toInt := rfl
  have value : pid.number.toBitVec.toNat = pid.number.toNat := rfl
  rw [bits, BitVec.toInt_eq_toNat_cond, value]
  split_ifs <;> omega

/-- A number in the upper half of the 32 bits is taken for a group, or for everyone, since `rawPid`
makes a negative word of it. -/
lemma addressee_rawPid (pid : ProcessId) :
    addressee (rawPid pid) =
      if pid.number.toNat = 0 then .ownGroup
      else if pid.number.toNat < 2 ^ 31 then .process pid.number.toNat
      else if pid.number.toNat = 2 ^ 32 - 1 then .everyone
      else .group (2 ^ 32 - pid.number.toNat) := by
  have bound : pid.number.toNat < 2 ^ 32 := pid.number.toNat_lt
  unfold addressee
  rw [toInt_rawPid]
  split_ifs <;> first | omega | rfl | (congr 1; omega)

/-- Only then is a number positive and its own: `rawPid` keeps the lower half of the 32 bits as it
is. -/
lemma rawPid_eq_number_iff (pid : ProcessId) :
    0 < (rawPid pid).toInt ∧ (rawPid pid).toInt = pid.number.toNat ↔
      0 < pid.number.toNat ∧ pid.number.toNat < 2 ^ 31 := by
  have bound : pid.number.toNat < 2 ^ 32 := pid.number.toNat_lt
  rw [toInt_rawPid]
  split_ifs <;> omega

/-! ## What is asked for and who is meant -/

lemma windowOwner_eq_ok_iff {window : WindowId} {thread : ThreadId} {pid : ProcessId} :
    windowOwner window = .ok (thread, pid) ↔ window = windowOf pid ∧ thread = ⟨pid.number⟩ := by
  constructor
  · intro h
    cases hw : processOf? window with
    | none =>
      unfold windowOwner at h
      rw [hw] at h
      cases h
    | some owner =>
      rw [windowOwner_of hw] at h
      cases h
      exact ⟨windowOf_of_processOf? hw, rfl⟩
  · rintro ⟨rfl, rfl⟩
    exact windowOwner_of (processOf?_windowOf pid)

/-- Every number of 32 bits is read as that of a process: there is a line of which `ofLine?` reads
it. -/
lemma exists_line (pid : ProcessId) : ∃ line e, ofLine? line = some e ∧ e.pid = pid := by
  have shown : ("app" : Path).display = "app" := Utf8.lossy_encode _
  have command : Text.words (Command.display ⟨"app", []⟩) = ["app"] := by
    rw [ProcessEntry.words_display, shown]
    decide
  exact ⟨_, _, ProcessEntry.ofLine?_line pid Browser.alive_sleeping command, rfl⟩

/-- **Whom the system is asked about.**  The numbers that the system is given are those of the
processes that were asked for: a window has an owner exactly if it is a number of 32 bits, which is
then the owner's; every number of 32 bits is read from the table; and requests, in any order and as
far as they come, lead to calls with the number of the process that they are about, a request to
quit to exactly one if the window has an owner.  But the system takes such a number for the process
of that number only if it is not zero and in the lower half of the 32 bits; otherwise it takes it
for the own group, for everyone or for another group. -/
theorem processes_addressed (c : ProcessCalls κ σ) (hung : κ) (looks : Nat) :
    (∀ window thread pid, windowOwner window = .ok (thread, pid) ↔
      window.number = pid.number.toNat ∧ thread.number = pid.number) ∧
    (∀ pid, ∃ line e, ofLine? line = some e ∧ e.pid = pid) ∧
    (∀ (requests : List Request) (w : World (Recorded SystemCall σ)),
      ∃ done rest stretches, requests = done ++ rest ∧ List.Forall₂ Leads stretches done ∧
        ((Act.each (desktop c.addressed hung looks).ask requests) w).world.outside.calls =
          w.outside.calls ++ stretches.flatten ∧
        ∀ said, ((Act.each (desktop c.addressed hung looks).ask requests) w).outcome =
          .returned said → rest = []) ∧
    ∀ pid, (0 < (rawPid pid).toInt ∧ (rawPid pid).toInt = pid.number.toNat ↔
        0 < pid.number.toNat ∧ pid.number.toNat < 2 ^ 31) ∧
      addressee (rawPid pid) =
        if pid.number.toNat = 0 then .ownGroup
        else if pid.number.toNat < 2 ^ 31 then .process pid.number.toNat
        else if pid.number.toNat = 2 ^ 32 - 1 then .everyone
        else .group (2 ^ 32 - pid.number.toNat) := by
  refine ⟨fun window thread pid => ?_, exists_line, requests_lead c hung looks,
    fun pid => ⟨rawPid_eq_number_iff pid, addressee_rawPid pid⟩⟩
  rw [windowOwner_eq_ok_iff]
  obtain ⟨window⟩ := window
  obtain ⟨thread⟩ := thread
  simp [windowOf]

/-- A window that has an owner may be number zero, and then the request to quit is not for a
process. -/
theorem zero_not_process :
    ¬ ∀ (window : WindowId) (thread : ThreadId) (pid : ProcessId) (message : QuitMessage)
        (calls : List SystemCall),
      windowOwner window = .ok (thread, pid) →
      (((desktop (Browser.frozen "").addressed () 1).postQuit window message).run
        ⟨.empty, ⟨[], ()⟩⟩).world.outside.calls = calls →
      ∀ call ∈ calls, 0 < call.number.toInt ∧ call.number.toInt = window.number := by
  intro positive
  have zero := positive ⟨0⟩ ⟨0⟩ ⟨0⟩ .appQuit [.terminate 0] rfl rfl (.terminate 0)
    (List.mem_singleton_self _)
  exact absurd zero.1 (by decide)

end ProcessTable

end StartupBench
