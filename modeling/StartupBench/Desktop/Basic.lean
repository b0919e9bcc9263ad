import StartupBench.Act
import StartupBench.Duration
import StartupBench.OsError

/-!
# A desktop and its applications

What the benchmark needs of a desktop: to find the window that identifies an application, to see
which windows belong to the same thread, to ask windows to quit, and to wait for a process.  The
primitives are fields of the record `Desktop`; they may keep state in the world, fail and panic.

The only resource is the `Handle` that `openProcess` answers with and `closeProcess` takes back.
-/

namespace StartupBench

/-! ## Identities -/

/-- A top-level window. -/
structure WindowId where
  number : Int
  deriving DecidableEq, Repr, Inhabited

/-- A thread. -/
structure ThreadId where
  number : UInt32
  deriving DecidableEq, Repr, Inhabited

/-- A process. -/
structure ProcessId where
  number : UInt32
  deriving DecidableEq, Hashable, Repr, Inhabited

namespace ProcessId

/-- The process number in decimal digits. -/
def text (pid : ProcessId) : String := toString pid.number.toNat

end ProcessId

/-- An open process. -/
structure Handle where
  raw : Int
  pid : ProcessId
  deriving DecidableEq, Repr, Inhabited

/-! ## Patterns -/

/-- What to look for: a window class and, if need be, a title. -/
structure WindowPattern where
  windowClass : String
  title : Option String := none
  deriving DecidableEq, Repr, Inhabited

/-- The pattern as it stands in messages. -/
def WindowPattern.text (p : WindowPattern) : String :=
  match p.title with
  | some title => "class " ++ p.windowClass ++ " titled \"" ++ title ++ "\""
  | none => "class " ++ p.windowClass

/-- Which window classes are accepted. -/
inductive ClassRule where
  | exactly (name : String)
  | startingWith (stem : String)
  deriving DecidableEq, Repr

/-- Whether the rule accepts a class. -/
def ClassRule.accepts : ClassRule → String → Bool
  | .exactly name, windowClass => windowClass == name
  | .startingWith stem, windowClass => stem.toList.isPrefixOf windowClass.toList

/-- How an application is asked to leave. -/
inductive QuitMessage where
  | endSession
  | appQuit
  deriving DecidableEq, Repr

/-- The name of the message. -/
def QuitMessage.name : QuitMessage → String
  | .endSession => "EndSession"
  | .appQuit => "AppQuit"

/-- How a wait for a process ended. -/
inductive Waited where
  | exited
  | timedOut
  deriving DecidableEq, Repr

/-! ## The primitives -/

/-- A desktop over a world `σ`. -/
structure Desktop (κ σ : Type) where
  /-- The first window that fits a pattern. -/
  findWindow : WindowPattern → Act κ σ (Option WindowId)
  /-- The thread and process that own a window. -/
  windowOwner : WindowId → Try κ σ PrimitiveError (ThreadId × ProcessId)
  /-- The top-level windows of a thread. -/
  threadWindows : ThreadId → Act κ σ (List WindowId)
  /-- The class of a window. -/
  className : WindowId → Act κ σ (Option String)
  /-- Open a process for waiting. -/
  openProcess : ProcessId → Try κ σ PrimitiveError Handle
  /-- Ask a window to quit, without waiting for the reaction. -/
  postQuit : WindowId → QuitMessage → Try κ σ PrimitiveError Unit
  /-- Wait until a process has exited; without a limit, for as long as it takes. -/
  waitForExit : Handle → Option Duration → Try κ σ PrimitiveError Waited
  /-- The exit code of a process that has exited, if it is known. -/
  exitCode : Handle → Try κ σ PrimitiveError (Option Int)
  /-- Give a handle back. -/
  closeProcess : Handle → Act κ σ Unit

/-- A desktop on a part of the world. -/
def Desktop.within {κ σ τ : Type} (get : τ → σ) (put : σ → τ → τ) (d : Desktop κ σ) :
    Desktop κ τ where
  findWindow p := (d.findWindow p).within get put
  windowOwner w := Try.within get put (d.windowOwner w)
  threadWindows t := (d.threadWindows t).within get put
  className w := (d.className w).within get put
  openProcess p := Try.within get put (d.openProcess p)
  postQuit w m := Try.within get put (d.postQuit w m)
  waitForExit h t := Try.within get put (d.waitForExit h t)
  exitCode h := Try.within get put (d.exitCode h)
  closeProcess h := (d.closeProcess h).within get put

end StartupBench
