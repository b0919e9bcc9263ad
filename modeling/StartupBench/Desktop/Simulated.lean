import Std.Data.HashMap
import StartupBench.Desktop.Basic
import StartupBench.History

/-!
# A simulated desktop

Processes that own windows on numbered threads, all in memory.  A quit message makes the owner of
the window exit if it was added as a process that obeys.  Windows of an exited process are neither
found nor listed.  The desktop counts the handles it opened and those it took back.

Nothing happens by itself: a process that has not exited when it is waited for never will, so every
wait for it runs out of time at once.
-/

namespace StartupBench

/-- Whether a simulated process obeys a quit message. -/
inductive Obedience where
  | onQuit
  | never
  deriving DecidableEq, Repr

/-- A window of a simulated desktop. -/
structure SimulatedWindow where
  id : WindowId
  pid : ProcessId
  thread : ThreadId
  windowClass : String
  title : Option String
  deriving DecidableEq, Repr

/-- A process of a simulated desktop. -/
structure SimulatedProcess where
  exitCode : Int
  obedience : Obedience
  exited : Bool := false
  denyOpen : Bool := false
  deriving DecidableEq, Repr

/-- The state of a simulated desktop. -/
structure Simulated where
  windows : List SimulatedWindow := []
  processes : Std.HashMap ProcessId SimulatedProcess := {}
  lastWindow : Int := 0
  lastHandle : Int := 0
  openHandles : List Int := []
  opened : Nat := 0
  closed : Nat := 0
  posted : History (WindowId × QuitMessage) := {}

namespace Simulated

/-! ## Setting the scene -/

/-- No windows and no processes. -/
def empty : Simulated := {}

/-- Change one process. -/
def setProcess (s : Simulated) (pid : ProcessId) (p : SimulatedProcess) : Simulated :=
  { s with processes := s.processes.insert pid p }

/-- Add a process, or replace one of the same number. -/
def addProcess (s : Simulated) (pid : ProcessId) (exitCode : Int) (obedience : Obedience) :
    Simulated :=
  s.setProcess pid { exitCode, obedience }

/-- Change a process if it is there. -/
def modifyProcess (s : Simulated) (pid : ProcessId)
    (f : SimulatedProcess → SimulatedProcess) : Simulated :=
  match s.processes[pid]? with
  | some p => s.setProcess pid (f p)
  | none => s

/-- Add a window, of a process that need not be there. -/
def addWindow (s : Simulated) (pid : ProcessId) (thread : ThreadId) (windowClass : String)
    (title : Option String) : WindowId × Simulated :=
  let id : WindowId := ⟨s.lastWindow + 1⟩
  (id, { s with
    lastWindow := s.lastWindow + 1
    windows := s.windows ++ [{ id, pid, thread, windowClass, title }] })

/-- Refuse to open a process from now on. -/
def denyOpen (s : Simulated) (pid : ProcessId) : Simulated :=
  s.modifyProcess pid fun p => { p with denyOpen := true }

/-- Let a process exit by itself. -/
def exitProcess (s : Simulated) (pid : ProcessId) : Simulated :=
  s.modifyProcess pid fun p => { p with exited := true }

/-- Whether a process is there and has not exited. -/
def isRunning (s : Simulated) (pid : ProcessId) : Bool :=
  s.processes[pid]?.any fun p => !p.exited

/-! ## What can be seen -/

/-- Whether a window can be seen: its process has not exited, as far as is known. -/
def isLive (s : Simulated) (w : SimulatedWindow) : Bool :=
  s.processes[w.pid]?.all fun p => !p.exited

/-- The windows that can be seen, in the order in which they were added. -/
def liveWindows (s : Simulated) : List SimulatedWindow := s.windows.filter s.isLive

/-- Whether a window fits a pattern. -/
def fits (p : WindowPattern) (w : SimulatedWindow) : Bool :=
  w.windowClass == p.windowClass && p.title.all fun title => w.title == some title

/-- The live window of this number. -/
def liveWindow? (s : Simulated) (id : WindowId) : Option SimulatedWindow :=
  s.windows.find? fun w => w.id = id && s.isLive w

theorem liveWindow?_eq (s : Simulated) (id : WindowId) :
    s.liveWindow? id = s.liveWindows.find? fun w => w.id = id := by
  simp [liveWindow?, liveWindows, List.find?_filter, Bool.and_comm]

/-- The error for something that is not there. -/
def missing (operation : String) : PrimitiveError := ⟨operation, .other "no such object"⟩

/-! ## The primitives -/

/-- The first live window that fits. -/
def findWindow (s : Simulated) (p : WindowPattern) : Option WindowId :=
  (s.windows.find? fun w => fits p w && s.isLive w).map (·.id)

theorem findWindow_eq (s : Simulated) (p : WindowPattern) :
    s.findWindow p = (s.liveWindows.find? (fits p)).map (·.id) := by
  simp [findWindow, liveWindows, List.find?_filter, Bool.and_comm]

/-- The owner of a live window. -/
def windowOwner (s : Simulated) (id : WindowId) : Except PrimitiveError (ThreadId × ProcessId) :=
  match s.liveWindow? id with
  | some w => .ok (w.thread, w.pid)
  | none => .error (missing "GetWindowThreadProcessId")

/-- The live windows of a thread. -/
def threadWindows (s : Simulated) (thread : ThreadId) : List WindowId :=
  (s.windows.filter fun w => w.thread = thread && s.isLive w).map (·.id)

theorem threadWindows_eq (s : Simulated) (thread : ThreadId) :
    s.threadWindows thread = (s.liveWindows.filter fun w => w.thread = thread).map (·.id) := by
  simp [threadWindows, liveWindows, List.filter_filter]

/-- The class of a live window. -/
def className (s : Simulated) (id : WindowId) : Option String :=
  (s.liveWindow? id).map (·.windowClass)

/-- Open a process that is there and does not refuse. -/
def openProcess (s : Simulated) (pid : ProcessId) : Except PrimitiveError Handle × Simulated :=
  match s.processes[pid]? with
  | none => (.error (missing "OpenProcess"), s)
  | some p =>
    if p.denyOpen then (.error ⟨"OpenProcess", .other "access denied"⟩, s)
    else
      let raw := s.lastHandle + 1
      (.ok ⟨raw, pid⟩, { s with
        lastHandle := raw
        openHandles := raw :: s.openHandles
        opened := s.opened + 1 })

/-- Ask a window, live or not, to quit; its process exits if it obeys. -/
def postQuit (s : Simulated) (id : WindowId) (message : QuitMessage) :
    Except PrimitiveError Unit × Simulated :=
  match s.windows.find? fun w => w.id = id with
  | none => (.error (missing "PostMessage"), s)
  | some w =>
    let posted := { s with posted := s.posted.push (id, message) }
    (.ok (), posted.modifyProcess w.pid fun p =>
      if p.obedience = .onQuit then { p with exited := true } else p)

/-- Whether the process of an open handle has exited. -/
def waitForExit (s : Simulated) (h : Handle) : Except PrimitiveError Waited :=
  if h.raw ∈ s.openHandles then
    .ok (if s.processes[h.pid]?.any (·.exited) then .exited else .timedOut)
  else .error (missing "WaitForSingleObject")

/-- The exit code of the process of an open handle. -/
def exitCode (s : Simulated) (h : Handle) : Except PrimitiveError (Option Int) :=
  if h.raw ∈ s.openHandles then
    .ok ((s.processes[h.pid]?.filter (·.exited)).map (·.exitCode))
  else .error (missing "GetExitCodeProcess")

/-- Take a handle back. -/
def closeHandle (s : Simulated) (h : Handle) : Simulated :=
  { s with openHandles := s.openHandles.erase h.raw, closed := s.closed + 1 }

/-- Take a handle back; one that is not open is a mistake of the caller. -/
def closeProcess {κ : Type} (h : Handle) : Act κ Simulated Unit := do
  if h.raw ∈ (← Act.world).openHandles then Act.update fun s => s.closeHandle h
  else Act.panic "closed a process handle that was not open"

/-- The simulated desktop. -/
def desktop (κ : Type) : Desktop κ Simulated where
  findWindow p := Act.reading fun s => s.findWindow p
  windowOwner w := Try.step fun s => (s.windowOwner w, s)
  threadWindows t := Act.reading fun s => s.threadWindows t
  className w := Act.reading fun s => s.className w
  openProcess pid := Try.step fun s => s.openProcess pid
  postQuit w m := Try.step fun s => s.postQuit w m
  waitForExit h _ := Try.step fun s => (s.waitForExit h, s)
  exitCode h := Try.step fun s => (s.exitCode h, s)
  closeProcess := closeProcess

end Simulated

end StartupBench
