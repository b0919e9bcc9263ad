import StartupBench.Desktop.Basic

/-!
# Asking an application to leave

The protocol has six steps: find the window that identifies the instance, list the windows of its
thread and keep those that the target accepts, open the process, ask each kept window to quit, wait
for the process, and read its exit code.  A window that cannot be asked does not stop the others.

The handle opened in the third step is given back on every way out (`QuitTarget.quit`).
-/

namespace StartupBench

/-- Which instance is to leave, and how it is asked. -/
structure QuitTarget where
  /-- The window that identifies the instance. -/
  instancePattern : WindowPattern
  /-- The windows of its thread that are asked. -/
  recipients : ClassRule
  message : QuitMessage
  deriving DecidableEq, Repr

/-- An instance that was found. -/
structure Located where
  instanceWindow : WindowId
  recipients : List WindowId
  owner : ProcessId
  deriving DecidableEq, Repr

/-- Why an application did not leave. -/
inductive QuitError where
  | targetNotFound (pattern : WindowPattern)
  | timeout (pid : ProcessId) (limit : Duration)
  | os (error : PrimitiveError)
  deriving DecidableEq, Repr

/-- The error in words. -/
def QuitError.message : QuitError → String
  | .targetNotFound pattern =>
    "no running instance found (looked for a window of " ++ pattern.text ++ ")"
  | .timeout pid limit => "process " ++ pid.text ++ " did not exit within " ++ limit.text
  | .os e => e.message

/-- A value that may be absent, as it stands in messages. -/
def optionText {α : Type} (text : α → String) : Option α → String
  | some a => "Some(" ++ text a ++ ")"
  | none => "None"

/-- The exit code of a process as it stands in messages. -/
def exitCodeText (code : Option Int) : String := optionText toString code

namespace QuitTarget

variable {κ σ : Type}

/-! ## Finding the instance -/

/-- The windows whose class the target accepts. -/
def accepted (d : Desktop κ σ) (rule : ClassRule) : List WindowId → Act κ σ (List WindowId)
  | [] => pure []
  | w :: ws => do
    let windowClass ← d.className w
    let rest ← accepted d rule ws
    pure (if windowClass.any rule.accepts then w :: rest else rest)

/-- Find the instance and the windows to ask.  Only windows of the instance's own thread count,
since other threads need not run the message loop. -/
def locate (d : Desktop κ σ) (t : QuitTarget) : Try κ σ QuitError Located := do
  match ← d.findWindow t.instancePattern with
  | none => Try.fail (.targetNotFound t.instancePattern)
  | some window =>
    let (thread, pid) ← Try.mapError QuitError.os (d.windowOwner window)
    let windows ← d.threadWindows thread
    let recipients ← accepted d t.recipients windows
    pure ⟨window, recipients, pid⟩

/-! ## Leaving -/

/-- Ask every window; one that cannot be asked is only noted. -/
def postAll (d : Desktop κ σ) (message : QuitMessage) : List WindowId → Act κ σ Unit
  | [] => pure ()
  | w :: ws => do
    if let .error e ← (d.postQuit w message).result then
      Act.log .debug .quit ("Posting " ++ message.name ++ " to window WindowId(" ++
        toString w.number ++ ") failed: " ++ e.message)
    postAll d message ws

/-- What is done while the process is open. -/
def whileOpen (d : Desktop κ σ) (t : QuitTarget) (limit : Option Duration) (found : Located)
    (handle : Handle) : Try κ σ QuitError (Option Int) := do
  postAll d t.message found.recipients
  Try.log .debug .quit ("Posted " ++ t.message.name ++ " to " ++
    toString found.recipients.length ++ " window(s) of pid " ++ found.owner.text)
  match ← Try.mapError QuitError.os (d.waitForExit handle limit) with
  | .timedOut => Try.fail (.timeout found.owner (limit.getD Duration.longest))
  | .exited =>
    let code ← Try.mapError QuitError.os (d.exitCode handle)
    Try.log .info .quit ("Process " ++ found.owner.text ++ " exited with status " ++
      exitCodeText code)
    pure code

/-- Ask the instance to leave and wait until it has, at most for `limit`.  Answers its exit code,
if that is known. -/
def quit (d : Desktop κ σ) (t : QuitTarget) (limit : Option Duration) :
    Try κ σ QuitError (Option Int) := do
  let found ← locate d t
  if found.recipients.isEmpty then
    Try.log .warn .quit ("Instance " ++ t.instancePattern.text ++ " (pid " ++ found.owner.text ++
      ") has no windows accepting " ++ t.message.name)
  let handle ← Try.mapError QuitError.os (d.openProcess found.owner)
  ExceptT.mk (Act.ensuring (whileOpen d t limit found handle).run (d.closeProcess handle))

end QuitTarget

end StartupBench
