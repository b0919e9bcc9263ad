import Mathlib.Data.List.Nodup
import StartupBench.Proofs.Desktop.Reachable
import StartupBench.Proofs.Desktop.Requests

/-!
# The books of a simulated desktop

Whatever is done with a simulated desktop, it can be told from what was heard of it: which windows
there are and which messages they were sent, which handles are open, and with which code a process
exits.  `Simulated.perform` carries out an operation and notes what came of it (`Entry`), and
`Simulated.Step` says once what an operation can do to the state.  The books are kept along every
step (`Books.step`), and so after any operations, one after the other (`Simulated.books_kept`).

## Entries

What was heard is read off the entries: `Simulated.handlesOpened` and `Simulated.handlesClosed` are
the values of handles, `Simulated.windowsAdded` the windows, `Simulated.posts` the messages and
`Simulated.exitCodeOf` the exit code of a process.  None of them looks at the state.

## Books

`Simulated.Books` are what relates the entries to the state, in three parts that have nothing to do
with each other: handles, windows with their messages, and exit codes.  Each part has a lemma for
the operations that leave it alone (`HandlesKept.congr`, `WindowsKept.congr`) and one for each that
does not, so that `Books.step` is a case analysis on the step with two of the three parts for free.

## What they tell

`Simulated.Told` is about the replies of the desktop as well.  A primitive is called once more in
the state that was reached, and `Simulated.Replies` is what comes of it; this is told by the
entries, or by what else the desktop replies.
-/

namespace StartupBench.Simulated

open Desktop (Request Reply Exchange)

variable {κ : Type}

/-! ## Operations -/

/-- Something that is done with a simulated desktop: the scene is set, or a primitive is called, as
a `Request`. -/
inductive Operation where
  | addProcess (pid : ProcessId) (exitCode : Int) (obedience : Obedience)
  | addWindow (pid : ProcessId) (thread : ThreadId) (windowClass : String) (title : Option String)
  | denyOpen (pid : ProcessId)
  | exitProcess (pid : ProcessId)
  | call (request : Request)

/-- An operation, and what came of it.  A call of a primitive has its `Reply` with it. -/
inductive Entry where
  | processAdded (pid : ProcessId) (exitCode : Int) (obedience : Obedience)
  | windowAdded (window : SimulatedWindow)
  | openDenied (pid : ProcessId)
  | processExited (pid : ProcessId)
  | called (exchange : Exchange)

/-- Carry out an operation, and answer with the `Entry` for it. -/
def perform : Operation → Act κ Simulated Entry
  | .addProcess pid exitCode obedience => do
    Act.update fun s => s.addProcess pid exitCode obedience
    pure (.processAdded pid exitCode obedience)
  | .addWindow pid thread windowClass title => do
    let id ← Act.step fun s => s.addWindow pid thread windowClass title
    pure (.windowAdded { id, pid, thread, windowClass, title })
  | .denyOpen pid => do
    Act.update fun s => s.denyOpen pid
    pure (.openDenied pid)
  | .exitProcess pid => do
    Act.update fun s => s.exitProcess pid
    pure (.processExited pid)
  | .call request => do
    let exchange ← (desktop κ).ask request
    pure (.called exchange)

/-! ## What is told by the entries -/

namespace Entry

/-- The window that was added, if this is such an entry. -/
def window? : Entry → Option SimulatedWindow
  | .windowAdded window => some window
  | _ => none

/-- The value of the handle that was opened, if this is a call that opened one. -/
def opened? : Entry → Option Int
  | .called ⟨_, .opened (.ok handle)⟩ => some handle.raw
  | _ => none

/-- The value of the handle that was taken back, if this is a call that took one back. -/
def closed? : Entry → Option Int
  | .called ⟨.closeProcess handle, .closed⟩ => some handle.raw
  | _ => none

/-- The message that was posted, and its window, if the call succeeded. -/
def posted? : Entry → Option (WindowId × QuitMessage)
  | .called ⟨.postQuit window message, .posted (.ok ())⟩ => some (window, message)
  | _ => none

/-- The exit code with which the process was added, if the process `pid` was added here. -/
def exitCode? (pid : ProcessId) : Entry → Option Int
  | .processAdded q exitCode _ => if q = pid then some exitCode else none
  | _ => none

end Entry

/-- The windows that were added, in their order. -/
def windowsAdded (done : List Entry) : List SimulatedWindow := done.filterMap Entry.window?

/-- The values of the handles that were opened, in their order. -/
def handlesOpened (done : List Entry) : List Int := done.filterMap Entry.opened?

/-- The values of the handles that were taken back, in their order. -/
def handlesClosed (done : List Entry) : List Int := done.filterMap Entry.closed?

/-- The messages that were posted, in their order and with their windows. -/
def posts (done : List Entry) : List (WindowId × QuitMessage) := done.filterMap Entry.posted?

/-- The exit code of a process is the one with which it was added last, as a process that is added
again is replaced. -/
def exitCodeOf (done : List Entry) (pid : ProcessId) : Option Int :=
  (done.filterMap (Entry.exitCode? pid)).getLast?

/-! ## One operation -/

/-- What an operation can do.  A question changes nothing, whatever its reply, and neither does a
call that fails. -/
inductive Step (s : Simulated) : Entry → Simulated → Prop
  | processAdded (pid : ProcessId) (exitCode : Int) (obedience : Obedience) :
      Step s (.processAdded pid exitCode obedience) (s.addProcess pid exitCode obedience)
  | windowAdded (pid : ProcessId) (thread : ThreadId) (windowClass : String)
      (title : Option String) :
      Step s (.windowAdded ⟨⟨s.lastWindow + 1⟩, pid, thread, windowClass, title⟩)
        (s.addWindow pid thread windowClass title).2
  | openDenied (pid : ProcessId) : Step s (.openDenied pid) (s.denyOpen pid)
  | processExited (pid : ProcessId) : Step s (.processExited pid) (s.exitProcess pid)
  | opened (pid : ProcessId) :
      Step s (.called ⟨.openProcess pid, .opened (.ok ⟨s.lastHandle + 1, pid⟩)⟩)
        { s with
          lastHandle := s.lastHandle + 1
          openHandles := (s.lastHandle + 1) :: s.openHandles
          opened := s.opened + 1 }
  | posted {w : SimulatedWindow} (here : w ∈ s.windows) (message : QuitMessage) :
      Step s (.called ⟨.postQuit w.id message, .posted (.ok ())⟩)
        ({ s with posted := s.posted.push (w.id, message) }.modifyProcess w.pid obey)
  | closed {handle : Handle} (isOpen : handle.raw ∈ s.openHandles) :
      Step s (.called ⟨.closeProcess handle, .closed⟩) (s.closeHandle handle)
  | answered {request : Request} {reply : Reply} (notOpened : ∀ h, reply ≠ .opened (.ok h))
      (notPosted : reply ≠ .posted (.ok ())) (notClosed : reply ≠ .closed) :
      Step s (.called ⟨request, reply⟩) s

lemma closeProcess_eq (handle : Handle) (s : Simulated) :
    (closeProcess handle : Act κ Simulated Unit) s =
      if handle.raw ∈ s.openHandles then ⟨.returned (), s.closeHandle handle, []⟩
      else ⟨.panicked "closed a process handle that was not open", s, []⟩ := by
  unfold closeProcess
  rw [Act.bind_run]
  dsimp only [Act.world]
  split <;> rfl

lemma ask_closeProcess {s : Simulated} {handle : Handle} (isOpen : handle.raw ∈ s.openHandles) :
    ((desktop κ).ask (.closeProcess handle)).Answers s ⟨.closeProcess handle, .closed⟩
      (s.closeHandle handle) := by
  have ran := closeProcess_eq (κ := κ) handle s
  rw [if_pos isOpen] at ran
  have closes : ((desktop κ).closeProcess handle).Answers s () (s.closeHandle handle) :=
    ⟨congrArg Ran.outcome ran, congrArg Ran.world ran⟩
  exact Desktop.ask_answers closes.map

lemma ask_closeProcess_panicked {s : Simulated} {handle : Handle}
    (notOpen : handle.raw ∉ s.openHandles) :
    ((desktop κ).ask (.closeProcess handle)).Answers s
      ⟨.closeProcess handle, .panicked "closed a process handle that was not open"⟩ s := by
  have ran := closeProcess_eq (κ := κ) handle s
  rw [if_neg notOpen] at ran
  have panics : (desktop κ).answer (.closeProcess handle) s =
      ⟨.panicked "closed a process handle that was not open", s, []⟩ := by
    show ((fun _ => Reply.closed) <$> (closeProcess handle : Act κ Simulated Unit)) s = _
    rw [map_eq_pure_bind, Act.bind_run, ran]
  exact Desktop.ask_of_panicked (congrArg Ran.outcome panics) (congrArg Ran.world panics)

/-- A process is refused by `openProcess`, and nothing is changed, or it is opened by a handle with
the next value. -/
lemma openProcess_cases (s : Simulated) (pid : ProcessId) :
    (∃ e, s.openProcess pid = (.error e, s)) ∨
      s.openProcess pid = (.ok ⟨s.lastHandle + 1, pid⟩, { s with
        lastHandle := s.lastHandle + 1
        openHandles := (s.lastHandle + 1) :: s.openHandles
        opened := s.opened + 1 }) := by
  unfold openProcess
  split
  · exact .inl ⟨_, rfl⟩
  · split
    · exact .inl ⟨_, rfl⟩
    · exact .inr rfl

/-- Every operation comes to an end, and it does what it can do: `perform` makes a `Step`, and makes
it without a panic. -/
lemma perform_step (s : Simulated) (op : Operation) :
    ∃ e s₁, (perform op : Act κ Simulated Entry).Answers s e s₁ ∧ Step s e s₁ := by
  cases op with
  | addProcess pid exitCode obedience =>
    exact ⟨_, _, ⟨rfl, rfl⟩, .processAdded pid exitCode obedience⟩
  | addWindow pid thread windowClass title =>
    exact ⟨_, _, ⟨rfl, rfl⟩, .windowAdded pid thread windowClass title⟩
  | denyOpen pid => exact ⟨_, _, ⟨rfl, rfl⟩, .openDenied pid⟩
  | exitProcess pid => exact ⟨_, _, ⟨rfl, rfl⟩, .processExited pid⟩
  | call request =>
    suffices asked : ∃ reply s₁, ((desktop κ).ask request).Answers s ⟨request, reply⟩ s₁ ∧
        Step s (.called ⟨request, reply⟩) s₁ by
      obtain ⟨reply, s₁, answers, step⟩ := asked
      exact ⟨_, s₁, answers.bind (Act.answers_pure _ _), step⟩
    cases request with
    | findWindow p => exact ⟨_, _, ⟨rfl, rfl⟩, .answered nofun nofun nofun⟩
    | windowOwner w => exact ⟨_, _, ⟨rfl, rfl⟩, .answered nofun nofun nofun⟩
    | threadWindows t => exact ⟨_, _, ⟨rfl, rfl⟩, .answered nofun nofun nofun⟩
    | className w => exact ⟨_, _, ⟨rfl, rfl⟩, .answered nofun nofun nofun⟩
    | waitForExit handle limit => exact ⟨_, _, ⟨rfl, rfl⟩, .answered nofun nofun nofun⟩
    | exitCode handle => exact ⟨_, _, ⟨rfl, rfl⟩, .answered nofun nofun nofun⟩
    | openProcess pid =>
      have answers : ((desktop κ).answer (.openProcess pid)).Answers s
          (.opened (s.openProcess pid).1) (s.openProcess pid).2 := ⟨rfl, rfl⟩
      obtain ⟨e, refused⟩ | opens := openProcess_cases s pid
      · rw [refused] at answers
        exact ⟨_, _, Desktop.ask_answers answers, .answered nofun nofun nofun⟩
      · rw [opens] at answers
        exact ⟨_, _, Desktop.ask_answers answers, .opened pid⟩
    | postQuit window message =>
      have answers : ((desktop κ).answer (.postQuit window message)).Answers s
          (.posted (s.postQuit window message).1) (s.postQuit window message).2 := ⟨rfl, rfl⟩
      cases hfind : s.windows.find? fun w => w.id = window with
      | none =>
        rw [postQuit_of_missing hfind] at answers
        exact ⟨_, _, Desktop.ask_answers answers, .answered nofun nofun nofun⟩
      | some w =>
        rw [postQuit_of_find hfind] at answers
        obtain rfl : w.id = window := by simpa using List.find?_some hfind
        exact ⟨_, _, Desktop.ask_answers answers,
          .posted (List.mem_of_find?_eq_some hfind) message⟩
    | closeProcess handle =>
      by_cases isOpen : handle.raw ∈ s.openHandles
      · exact ⟨_, _, ask_closeProcess isOpen, .closed isOpen⟩
      · exact ⟨_, _, ask_closeProcess_panicked isOpen, .answered nofun nofun nofun⟩

/-! ## The books -/

/-- What is known of the handles: how many there were, which are open, and that no value was handed
out twice. -/
structure HandlesKept (done : List Entry) (s : Simulated) : Prop where
  opened : s.opened = (handlesOpened done).length
  closed : s.closed = (handlesClosed done).length
  balanced : s.opened = s.closed + s.openHandles.length
  nodup : (handlesOpened done).Nodup
  le_last : ∀ raw ∈ handlesOpened done, raw ≤ s.lastHandle
  open_nodup : s.openHandles.Nodup
  open_iff : ∀ raw, raw ∈ s.openHandles ↔ raw ∈ handlesOpened done ∧ raw ∉ handlesClosed done
  closed_opened : ∀ raw ∈ handlesClosed done, raw ∈ handlesOpened done

/-- What is known of the windows and of the messages that they were sent.  That the windows are
`Numbered` makes a message one to a single window. -/
structure WindowsKept (done : List Entry) (s : Simulated) : Prop where
  windows : s.windows = windowsAdded done
  numbered : s.Numbered
  posted : s.posted.toList = posts done
  posted_added : ∀ post ∈ posts done, ∃ w ∈ windowsAdded done, w.id = post.1

/-- What is known of the exit codes: each process in the state has the one of `exitCodeOf`. -/
def CodesKept (done : List Entry) (s : Simulated) : Prop :=
  ∀ pid : ProcessId, (s.processes[pid]?).map (·.exitCode) = exitCodeOf done pid

section Steps

variable {done : List Entry} {s s₁ : Simulated} {e : Entry}

lemma filterMap_concat {α β : Type} (f : α → Option β) (l : List α) (a : α) :
    (l ++ [a]).filterMap f = l.filterMap f ++ (f a).toList := by
  cases h : f a <;> simp [h]

lemma handlesOpened_concat (done : List Entry) (e : Entry) :
    handlesOpened (done ++ [e]) = handlesOpened done ++ e.opened?.toList :=
  filterMap_concat _ _ _

lemma handlesClosed_concat (done : List Entry) (e : Entry) :
    handlesClosed (done ++ [e]) = handlesClosed done ++ e.closed?.toList :=
  filterMap_concat _ _ _

lemma windowsAdded_concat (done : List Entry) (e : Entry) :
    windowsAdded (done ++ [e]) = windowsAdded done ++ e.window?.toList :=
  filterMap_concat _ _ _

lemma posts_concat (done : List Entry) (e : Entry) :
    posts (done ++ [e]) = posts done ++ e.posted?.toList :=
  filterMap_concat _ _ _

lemma exitCodeOf_concat (done : List Entry) (e : Entry) (pid : ProcessId) :
    exitCodeOf (done ++ [e]) pid = (e.exitCode? pid).or (exitCodeOf done pid) := by
  unfold exitCodeOf
  rw [filterMap_concat]
  cases e.exitCode? pid <;> simp

/-- An operation that neither opens a handle nor takes one back keeps what is known of them. -/
lemma HandlesKept.congr (h : HandlesKept done s) (opens : e.opened? = none)
    (closes : e.closed? = none) (opened : s₁.opened = s.opened) (closed : s₁.closed = s.closed)
    (last : s₁.lastHandle = s.lastHandle) (handles : s₁.openHandles = s.openHandles) :
    HandlesKept (done ++ [e]) s₁ := by
  have log : handlesOpened (done ++ [e]) = handlesOpened done := by
    rw [handlesOpened_concat, opens, Option.toList_none, List.append_nil]
  have back : handlesClosed (done ++ [e]) = handlesClosed done := by
    rw [handlesClosed_concat, closes, Option.toList_none, List.append_nil]
  constructor
  · rw [log, opened]
    exact h.opened
  · rw [back, closed]
    exact h.closed
  · rw [opened, closed, handles]
    exact h.balanced
  · rw [log]
    exact h.nodup
  · rw [log, last]
    exact h.le_last
  · rw [handles]
    exact h.open_nodup
  · rw [log, back, handles]
    exact h.open_iff
  · rw [log, back]
    exact h.closed_opened

/-- The new value is beyond all values that were handed out, and so what is known of the handles is
kept by opening one. -/
lemma HandlesKept.opening (h : HandlesKept done s) (pid : ProcessId) :
    HandlesKept (done ++ [.called ⟨.openProcess pid, .opened (.ok ⟨s.lastHandle + 1, pid⟩)⟩])
      { s with
        lastHandle := s.lastHandle + 1
        openHandles := (s.lastHandle + 1) :: s.openHandles
        opened := s.opened + 1 } := by
  have new : s.lastHandle + 1 ∉ handlesOpened done := by
    intro mem
    have old := h.le_last _ mem
    omega
  have back : s.lastHandle + 1 ∉ handlesClosed done := fun mem => new (h.closed_opened _ mem)
  have log : handlesOpened (done ++ [_]) = handlesOpened done ++ [s.lastHandle + 1] :=
    handlesOpened_concat done (.called ⟨.openProcess pid, .opened (.ok ⟨s.lastHandle + 1, pid⟩)⟩)
  have log_back : handlesClosed (done ++ [_]) = handlesClosed done ++ [] :=
    handlesClosed_concat done (.called ⟨.openProcess pid, .opened (.ok ⟨s.lastHandle + 1, pid⟩)⟩)
  rw [List.append_nil] at log_back
  constructor
  · rw [log, List.length_append, ← h.opened]
    rfl
  · rw [log_back]
    exact h.closed
  · have balanced := h.balanced
    simp only [List.length_cons]
    omega
  · rw [log]
    refine List.nodup_append.2 ⟨h.nodup, List.nodup_singleton _, fun a old b last same => ?_⟩
    rw [same, List.mem_singleton.1 last] at old
    exact new old
  · rw [log]
    intro raw mem
    obtain old | last := List.mem_append.1 mem
    · exact Int.le_add_one (h.le_last raw old)
    · exact Int.le_of_eq (List.mem_singleton.1 last)
  · exact List.nodup_cons.2 ⟨fun mem => new ((h.open_iff _).1 mem).1, h.open_nodup⟩
  · intro raw
    rw [log, log_back, List.mem_cons, h.open_iff, List.mem_append, List.mem_singleton]
    constructor
    · rintro (rfl | ⟨opened, still⟩)
      · exact ⟨.inr rfl, back⟩
      · exact ⟨.inl opened, still⟩
    · rintro ⟨opened | rfl, still⟩
      · exact .inr ⟨opened, still⟩
      · exact .inl rfl
  · rw [log, log_back]
    exact fun raw mem => List.mem_append_left _ (h.closed_opened raw mem)

lemma HandlesKept.closing (h : HandlesKept done s) {handle : Handle}
    (isOpen : handle.raw ∈ s.openHandles) :
    HandlesKept (done ++ [.called ⟨.closeProcess handle, .closed⟩]) (s.closeHandle handle) := by
  have log : handlesOpened (done ++ [_]) = handlesOpened done ++ [] :=
    handlesOpened_concat done (.called ⟨.closeProcess handle, .closed⟩)
  have log_back : handlesClosed (done ++ [_]) = handlesClosed done ++ [handle.raw] :=
    handlesClosed_concat done (.called ⟨.closeProcess handle, .closed⟩)
  rw [List.append_nil] at log
  have opened := ((h.open_iff handle.raw).1 isOpen).1
  constructor
  · rw [log]
    exact h.opened
  · rw [log_back, List.length_append, ← h.closed]
    rfl
  · have balanced := h.balanced
    have one := List.length_erase_add_one isOpen
    simp only [closeHandle]
    omega
  · rw [log]
    exact h.nodup
  · rw [log]
    exact h.le_last
  · exact h.open_nodup.erase _
  · intro raw
    have erased : raw ∈ (s.closeHandle handle).openHandles ↔
        raw ≠ handle.raw ∧ raw ∈ s.openHandles := h.open_nodup.mem_erase_iff
    rw [erased, h.open_iff, log, log_back, List.mem_append, List.mem_singleton]
    tauto
  · rw [log, log_back]
    intro raw mem
    obtain old | same := List.mem_append.1 mem
    · exact h.closed_opened raw old
    · rw [List.mem_singleton.1 same]
      exact opened

lemma HandlesKept.step (h : HandlesKept done s) (step : Step s e s₁) :
    HandlesKept (done ++ [e]) s₁ := by
  cases step with
  | processAdded pid exitCode obedience => exact h.congr rfl rfl rfl rfl rfl rfl
  | windowAdded pid thread windowClass title => exact h.congr rfl rfl rfl rfl rfl rfl
  | openDenied pid =>
    unfold denyOpen
    rw [modifyProcess_eq]
    exact h.congr rfl rfl rfl rfl rfl rfl
  | processExited pid =>
    unfold exitProcess
    rw [modifyProcess_eq]
    exact h.congr rfl rfl rfl rfl rfl rfl
  | opened pid => exact h.opening pid
  | posted here message =>
    rw [modifyProcess_eq]
    exact h.congr rfl rfl rfl rfl rfl rfl
  | closed isOpen => exact h.closing isOpen
  | @answered request reply notOpened notPosted notClosed =>
    refine h.congr ?_ ?_ rfl rfl rfl rfl
    · unfold Entry.opened?
      split <;> simp_all
    · unfold Entry.closed?
      split <;> simp_all

/-- An operation that neither adds a window nor posts a message keeps what is known of them. -/
lemma WindowsKept.congr (h : WindowsKept done s) (adds : e.window? = none)
    (posts : e.posted? = none) (windows : s₁.windows = s.windows)
    (last : s₁.lastWindow = s.lastWindow) (posted : s₁.posted = s.posted) :
    WindowsKept (done ++ [e]) s₁ := by
  have log : windowsAdded (done ++ [e]) = windowsAdded done := by
    rw [windowsAdded_concat, adds, Option.toList_none, List.append_nil]
  have sent : Simulated.posts (done ++ [e]) = Simulated.posts done := by
    rw [posts_concat, posts, Option.toList_none, List.append_nil]
  constructor
  · rw [log, windows]
    exact h.windows
  · exact h.numbered.congr windows last
  · rw [sent, posted]
    exact h.posted
  · rw [log, sent]
    exact h.posted_added

lemma WindowsKept.step (h : WindowsKept done s) (step : Step s e s₁) :
    WindowsKept (done ++ [e]) s₁ := by
  cases step with
  | processAdded pid exitCode obedience => exact h.congr rfl rfl rfl rfl rfl
  | openDenied pid =>
    unfold denyOpen
    rw [modifyProcess_eq]
    exact h.congr rfl rfl rfl rfl rfl
  | processExited pid =>
    unfold exitProcess
    rw [modifyProcess_eq]
    exact h.congr rfl rfl rfl rfl rfl
  | opened pid => exact h.congr rfl rfl rfl rfl rfl
  | closed isOpen => exact h.congr rfl rfl rfl rfl rfl
  | @answered request reply notOpened notPosted notClosed =>
    refine h.congr rfl ?_ rfl rfl rfl
    unfold Entry.posted?
    split <;> simp_all
  | windowAdded pid thread windowClass title =>
    have log : windowsAdded (done ++ [_]) = windowsAdded done ++ [_] := windowsAdded_concat done
      (.windowAdded ⟨⟨s.lastWindow + 1⟩, pid, thread, windowClass, title⟩)
    have sent : posts (done ++ [_]) = posts done ++ [] := posts_concat done
      (.windowAdded ⟨⟨s.lastWindow + 1⟩, pid, thread, windowClass, title⟩)
    rw [List.append_nil] at sent
    constructor
    · rw [log, ← h.windows]
      rfl
    · exact h.numbered.addWindow pid thread windowClass title
    · rw [sent]
      exact h.posted
    · rw [log, sent]
      intro post mem
      obtain ⟨w, added, id⟩ := h.posted_added post mem
      exact ⟨w, List.mem_append_left _ added, id⟩
  | @posted w here message =>
    have log : windowsAdded (done ++ [_]) = windowsAdded done ++ [] := windowsAdded_concat done
      (.called ⟨.postQuit w.id message, .posted (.ok ())⟩)
    have sent : posts (done ++ [_]) = posts done ++ [(w.id, message)] := posts_concat done
      (.called ⟨.postQuit w.id message, .posted (.ok ())⟩)
    rw [List.append_nil] at log
    have noted : Numbered { s with posted := s.posted.push (w.id, message) } :=
      h.numbered.congr rfl rfl
    constructor
    · rw [log, modifyProcess_eq]
      exact h.windows
    · exact noted.modifyProcess w.pid obey
    · rw [sent, modifyProcess_eq, ← h.posted]
      exact History.toList_push _ _
    · rw [log, sent]
      intro post mem
      obtain old | new := List.mem_append.1 mem
      · exact h.posted_added post old
      · rw [List.mem_singleton.1 new]
        exact ⟨w, h.windows ▸ here, rfl⟩

/-- What changes a process without its exit code leaves all exit codes alone, so that `CodesKept`
survives an exit. -/
lemma exitCode_modifyProcess (s : Simulated) (pid q : ProcessId)
    {f : SimulatedProcess → SimulatedProcess} (hf : ∀ p, (f p).exitCode = p.exitCode) :
    ((s.modifyProcess pid f).processes[q]?).map (·.exitCode) =
      (s.processes[q]?).map (·.exitCode) := by
  rw [getElem?_modifyProcess]
  by_cases hq : q = pid
  · rw [if_pos hq, Option.map_map]
    exact congrArg (Option.map · _) (funext hf)
  · rw [if_neg hq]

lemma CodesKept.congr (h : CodesKept done s) (adds : ∀ pid, e.exitCode? pid = none)
    (codes : ∀ pid : ProcessId, (s₁.processes[pid]?).map (·.exitCode) =
      (s.processes[pid]?).map (·.exitCode)) : CodesKept (done ++ [e]) s₁ := by
  intro pid
  rw [exitCodeOf_concat, adds, Option.none_or, codes]
  exact h pid

lemma CodesKept.step (h : CodesKept done s) (step : Step s e s₁) :
    CodesKept (done ++ [e]) s₁ := by
  cases step with
  | processAdded pid exitCode obedience =>
    intro q
    have set : (s.addProcess pid exitCode obedience).processes[q]? =
        if q = pid then some { exitCode, obedience } else s.processes[q]? :=
      getElem?_setProcess s pid q _
    rw [exitCodeOf_concat, set, Entry.exitCode?]
    by_cases hq : q = pid
    · rw [if_pos hq, if_pos hq.symm]
      rfl
    · rw [if_neg hq, if_neg (Ne.symm hq), Option.none_or]
      exact h q
  | windowAdded pid thread windowClass title => exact h.congr (fun _ => rfl) fun _ => rfl
  | openDenied pid =>
    exact h.congr (fun _ => rfl) fun q => exitCode_modifyProcess s pid q fun _ => rfl
  | processExited pid =>
    exact h.congr (fun _ => rfl) fun q => exitCode_modifyProcess s pid q fun _ => rfl
  | opened pid => exact h.congr (fun _ => rfl) fun _ => rfl
  | @posted w here message =>
    refine h.congr (fun _ => rfl) fun q => exitCode_modifyProcess _ w.pid q fun p => ?_
    unfold obey
    split <;> rfl
  | closed isOpen => exact h.congr (fun _ => rfl) fun _ => rfl
  | answered notOpened notPosted notClosed => exact h.congr (fun _ => rfl) fun _ => rfl

end Steps

/-- The books are kept of everything: handles, windows and exit codes. -/
structure Books (done : List Entry) (s : Simulated) : Prop where
  handles : HandlesKept done s
  windows : WindowsKept done s
  codes : CodesKept done s

lemma Books.start : Books [] empty where
  handles := by
    constructor <;> simp [empty, handlesOpened, handlesClosed]
  windows := ⟨rfl, Reachable.empty.numbered, rfl, nofun⟩
  codes pid := by simp [empty, exitCodeOf]

lemma Books.step {done : List Entry} {s s₁ : Simulated} {e : Entry} (h : Books done s)
    (step : Step s e s₁) : Books (done ++ [e]) s₁ :=
  ⟨h.handles.step step, h.windows.step step, h.codes.step step⟩

/-- The books are kept along any operations: by induction on these, with `Books.step` for each. -/
lemma Books.each {done : List Entry} {s : Simulated} (h : Books done s) (ops : List Operation) :
    ∃ heard s₁, (Act.each (perform : Operation → Act κ Simulated Entry) ops).Answers s heard s₁ ∧
      Books (done ++ heard) s₁ := by
  induction ops generalizing done s with
  | nil =>
    refine ⟨[], s, Act.answers_pure _ _, ?_⟩
    rw [List.append_nil]
    exact h
  | cons op rest ih =>
    obtain ⟨e, s₁, answers, step⟩ := perform_step (κ := κ) s op
    obtain ⟨heard, s₂, later, books⟩ := ih (h.step step)
    refine ⟨e :: heard, s₂, Act.answers_each_cons_iff.2 ⟨e, heard, s₁, rfl, answers, later⟩, ?_⟩
    rw [List.append_assoc] at books
    exact books

/-! ## What can be seen -/

section Visible

variable {s : Simulated} {v : SimulatedWindow} {id : WindowId}

/-- The window is there, and its process is not known to have exited, so that a question can find
it. -/
def Visible (s : Simulated) (w : SimulatedWindow) : Prop :=
  w ∈ s.windows ∧ ∀ p, s.processes[w.pid]? = some p → p.exited = false

lemma mem_liveWindows_iff : v ∈ s.liveWindows ↔ Visible s v := by
  unfold liveWindows Visible isLive
  rw [List.mem_filter]
  cases s.processes[v.pid]? <;> simp

lemma liveWindow?_eq_some_iff (h : s.Numbered) :
    s.liveWindow? id = some v ↔ Visible s v ∧ v.id = id := by
  rw [← mem_liveWindows_iff]
  constructor
  · intro found
    rw [liveWindow?_eq] at found
    exact ⟨List.mem_of_find?_eq_some found, by simpa using List.find?_some found⟩
  · rintro ⟨live, rfl⟩
    exact h.liveWindow?_id live

lemma windowOwner_eq_ok_iff (h : s.Numbered) {thread : ThreadId} {pid : ProcessId} :
    s.windowOwner id = .ok (thread, pid) ↔
      ∃ w, Visible s w ∧ w.id = id ∧ w.thread = thread ∧ w.pid = pid := by
  unfold windowOwner
  constructor
  · intro owner
    cases found : s.liveWindow? id with
    | none =>
      rw [found] at owner
      cases owner
    | some w =>
      rw [found] at owner
      obtain ⟨visible, same⟩ := (liveWindow?_eq_some_iff h).1 found
      cases owner
      exact ⟨w, visible, same, rfl, rfl⟩
  · rintro ⟨w, visible, same, rfl, rfl⟩
    rw [(liveWindow?_eq_some_iff h).2 ⟨visible, same⟩]

lemma className_eq_some_iff (h : s.Numbered) {name : String} :
    s.className id = some name ↔ ∃ w, Visible s w ∧ w.id = id ∧ w.windowClass = name := by
  unfold className
  rw [Option.map_eq_some_iff]
  simp only [liveWindow?_eq_some_iff h, and_assoc]

lemma mem_threadWindows_iff {thread : ThreadId} :
    id ∈ s.threadWindows thread ↔ ∃ w, Visible s w ∧ w.id = id ∧ w.thread = thread := by
  rw [threadWindows_eq, List.mem_map]
  simp only [List.mem_filter, mem_liveWindows_iff, decide_eq_true_eq]
  constructor
  · rintro ⟨w, ⟨visible, listed⟩, same⟩
    exact ⟨w, visible, same, listed⟩
  · rintro ⟨w, visible, same, listed⟩
    exact ⟨w, ⟨visible, listed⟩, same⟩

lemma findWindow_eq_some {p : WindowPattern} (h : s.findWindow p = some id) :
    ∃ w, Visible s w ∧ w.id = id ∧ fits p w := by
  rw [findWindow_eq] at h
  obtain ⟨w, found, same⟩ := Option.map_eq_some_iff.1 h
  exact ⟨w, mem_liveWindows_iff.1 (List.mem_of_find?_eq_some found), same, List.find?_some found⟩

lemma findWindow_eq_none_iff {p : WindowPattern} :
    s.findWindow p = none ↔ ∀ w, Visible s w → ¬fits p w := by
  rw [findWindow_eq, Option.map_eq_none_iff, List.find?_eq_none]
  simp only [mem_liveWindows_iff]

end Visible

/-! ## What the desktop replies -/

section Replies

variable (κ) {s : Simulated}

/-- The desktop replies so to a call in the state `s`, whatever it does to the state. -/
def Replies (s : Simulated) (request : Request) (reply : Reply) : Prop :=
  ∃ s₁, ((desktop κ).ask request).Answers s ⟨request, reply⟩ s₁

variable {κ}

lemma replies_iff {s₁ : Simulated} {request : Request} {reply reply' : Reply}
    (h : ((desktop κ).ask request).Answers s ⟨request, reply⟩ s₁) :
    Replies κ s request reply' ↔ reply' = reply := by
  constructor
  · rintro ⟨_, replied⟩
    have same := replied.1.symm.trans h.1
    simp only [Outcome.returned.injEq, Exchange.mk.injEq, true_and] at same
    exact same
  · rintro rfl
    exact ⟨s₁, h⟩

lemma replies_closeProcess (handle : Handle) (reply : Reply) :
    Replies κ s (.closeProcess handle) reply ↔ reply =
      if handle.raw ∈ s.openHandles then .closed
      else .panicked "closed a process handle that was not open" := by
  by_cases isOpen : handle.raw ∈ s.openHandles
  · rw [if_pos isOpen]
    exact replies_iff (ask_closeProcess isOpen)
  · rw [if_neg isOpen]
    exact replies_iff (ask_closeProcess_panicked isOpen)

/-- A question is replied to with its answer and with no other, if the replies `f` keep different
answers apart. -/
lemma replies_question_iff {α : Type} {request : Request} {f : α → Reply}
    (inj : ∀ {a b}, f a = f b → a = b) {a b : α}
    (h : ((desktop κ).answer request).Answers s (f a) s) :
    Replies κ s request (f b) ↔ a = b := by
  rw [replies_iff (Desktop.ask_answers h)]
  exact ⟨fun same => (inj same).symm, fun same => same ▸ rfl⟩

lemma replies_findWindow (p : WindowPattern) (found : Option WindowId) :
    Replies κ s (.findWindow p) (.found found) ↔ s.findWindow p = found :=
  replies_question_iff Reply.found.inj ⟨rfl, rfl⟩

lemma replies_windowOwner (id : WindowId)
    (owner : Except PrimitiveError (ThreadId × ProcessId)) :
    Replies κ s (.windowOwner id) (.owner owner) ↔ s.windowOwner id = owner :=
  replies_question_iff Reply.owner.inj ⟨rfl, rfl⟩

lemma replies_threadWindows (thread : ThreadId) (ids : List WindowId) :
    Replies κ s (.threadWindows thread) (.windows ids) ↔ s.threadWindows thread = ids :=
  replies_question_iff Reply.windows.inj ⟨rfl, rfl⟩

lemma replies_className (id : WindowId) (name : Option String) :
    Replies κ s (.className id) (.windowClass name) ↔ s.className id = name :=
  replies_question_iff Reply.windowClass.inj ⟨rfl, rfl⟩

lemma replies_waitForExit (handle : Handle) (limit : Option Duration)
    (waited : Except PrimitiveError Waited) :
    Replies κ s (.waitForExit handle limit) (.waited waited) ↔ s.waitForExit handle = waited :=
  replies_question_iff Reply.waited.inj ⟨rfl, rfl⟩

lemma replies_exitCode (handle : Handle) (code : Except PrimitiveError (Option Int)) :
    Replies κ s (.exitCode handle) (.exitCode code) ↔ s.exitCode handle = code :=
  replies_question_iff Reply.exitCode.inj ⟨rfl, rfl⟩

variable (κ)

/-- What the books tell of the state, and of what the desktop replies in it, for each kind of reply.
-/
structure Told (done : List Entry) (s : Simulated) : Prop where
  opened : s.opened = (handlesOpened done).length
  closed : s.closed = (handlesClosed done).length
  balanced : s.opened = s.closed + s.openHandles.length
  /-- The open handles are those that were opened and not taken back, each of them once. -/
  open_iff : ∀ raw, raw ∈ s.openHandles ↔ raw ∈ handlesOpened done ∧ raw ∉ handlesClosed done
  open_nodup : s.openHandles.Nodup
  /-- Every handle has a new value, and every window a new number. -/
  handles_new : (handlesOpened done).Nodup
  windows_new : ((windowsAdded done).map (·.id)).Nodup
  /-- An open handle is taken back; with any other the desktop panics, and nothing is changed. -/
  closed_iff : ∀ handle, Replies κ s (.closeProcess handle) .closed ↔ handle.raw ∈ s.openHandles
  panicked_iff : ∀ handle m, Replies κ s (.closeProcess handle) (.panicked m) ↔
    handle.raw ∉ s.openHandles ∧ m = "closed a process handle that was not open"
  unchanged : ∀ handle, handle.raw ∉ s.openHandles →
    ((desktop κ).closeProcess handle s).world = s
  /-- Messages were posted to windows that were added. -/
  posted : s.posted.toList = posts done
  posted_added : ∀ post ∈ posts done, ∃ w ∈ windowsAdded done, w.id = post.1
  windows : s.windows = windowsAdded done
  /-- Windows of which anything is told are visible, and everything is told of those. -/
  found : ∀ p id, Replies κ s (.findWindow p) (.found (some id)) →
    ∃ w, Visible s w ∧ w.id = id ∧ fits p w
  not_found_iff : ∀ p, Replies κ s (.findWindow p) (.found none) ↔ ∀ w, Visible s w → ¬fits p w
  owner_iff : ∀ id thread pid, Replies κ s (.windowOwner id) (.owner (.ok (thread, pid))) ↔
    ∃ w, Visible s w ∧ w.id = id ∧ w.thread = thread ∧ w.pid = pid
  class_iff : ∀ id name, Replies κ s (.className id) (.windowClass (some name)) ↔
    ∃ w, Visible s w ∧ w.id = id ∧ w.windowClass = name
  listed_iff : ∀ thread id,
    (∃ ids, Replies κ s (.threadWindows thread) (.windows ids) ∧ id ∈ ids) ↔
      ∃ w, Visible s w ∧ w.id = id ∧ w.thread = thread
  /-- An open handle tells of an exit by a wait and by the exit code alike. -/
  exited_iff : ∀ handle limit, handle.raw ∈ s.openHandles →
    (Replies κ s (.waitForExit handle limit) (.waited (.ok .exited)) ↔
      ∃ code, Replies κ s (.exitCode handle) (.exitCode (.ok (some code))))
  exitCode_eq : ∀ handle code, Replies κ s (.exitCode handle) (.exitCode (.ok (some code))) →
    exitCodeOf done handle.pid = some code

variable {κ} {done : List Entry}

lemma waitForExit_eq_exited_iff {handle : Handle} (h : handle.raw ∈ s.openHandles) :
    s.waitForExit handle = .ok .exited ↔ ∃ code, s.exitCode handle = .ok (some code) := by
  unfold waitForExit exitCode
  rw [if_pos h, if_pos h]
  cases s.processes[handle.pid]? with
  | none => simp
  | some p => cases hp : p.exited <;> simp [hp, Option.filter]

lemma exitCode_eq_some {handle : Handle} {code : Int}
    (h : s.exitCode handle = .ok (some code)) :
    (s.processes[handle.pid]?).map (·.exitCode) = some code := by
  unfold exitCode at h
  split at h
  · obtain ⟨p, found, rfl⟩ := Option.map_eq_some_iff.1 (Except.ok.inj h)
    rw [(Option.filter_eq_some_iff.1 found).1]
    rfl
  · cases h

lemma Books.told (h : Books done s) : Told κ done s where
  opened := h.handles.opened
  closed := h.handles.closed
  balanced := h.handles.balanced
  open_iff := h.handles.open_iff
  open_nodup := h.handles.open_nodup
  handles_new := h.handles.nodup
  windows_new := h.windows.windows ▸ h.windows.numbered.nodup
  closed_iff handle := by
    rw [replies_closeProcess]
    split <;> simp_all
  panicked_iff handle m := by
    rw [replies_closeProcess]
    split <;> simp_all
  unchanged handle notOpen := by
    have ran := closeProcess_eq (κ := κ) handle s
    rw [if_neg notOpen] at ran
    exact congrArg Ran.world ran
  posted := h.windows.posted
  posted_added := h.windows.posted_added
  windows := h.windows.windows
  found p id replied := findWindow_eq_some ((replies_findWindow p _).1 replied)
  not_found_iff p := (replies_findWindow p none).trans findWindow_eq_none_iff
  owner_iff id thread pid :=
    (replies_windowOwner id _).trans (windowOwner_eq_ok_iff h.windows.numbered)
  class_iff id name := (replies_className id _).trans (className_eq_some_iff h.windows.numbered)
  listed_iff thread id := by
    simp only [replies_threadWindows, exists_eq_left']
    exact mem_threadWindows_iff
  exited_iff handle limit isOpen := by
    simp only [replies_waitForExit, replies_exitCode]
    exact waitForExit_eq_exited_iff isOpen
  exitCode_eq handle code replied := by
    rw [← h.codes handle.pid]
    exact exitCode_eq_some ((replies_exitCode handle _).1 replied)

/-- **The books of a simulated desktop.**  Whatever is done with an empty desktop, one operation
after the other, every operation comes to an end, and the books tell of the state and of what the
desktop replies in it.  Whatever is done further, messages are only added to those that were
posted. -/
theorem books_kept (ops more : List Operation) : ∃ done s heard s₁,
    (Act.each (perform : Operation → Act κ Simulated Entry) ops).Answers empty done s ∧
    (Act.each (perform : Operation → Act κ Simulated Entry) more).Answers s heard s₁ ∧
    Told κ done s ∧ Told κ (done ++ heard) s₁ ∧
    s₁.posted.toList = s.posted.toList ++ posts heard := by
  obtain ⟨done, s, answers, books⟩ := Books.start.each (κ := κ) ops
  obtain ⟨heard, s₁, further, books₁⟩ := books.each (κ := κ) more
  refine ⟨done, s, heard, s₁, answers, further, books.told, books₁.told, ?_⟩
  rw [books₁.windows.posted, books.windows.posted]
  exact List.filterMap_append

end Replies

end StartupBench.Simulated
