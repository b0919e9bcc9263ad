import StartupBench.Desktop.Basic

/-!
# Watching and troubling a desktop

`Desktop.observed` notes every primitive that acts on a process before it runs, and
`Desktop.troubled` lets primitives fail as told.  Both work on any desktop over any world.
-/

namespace StartupBench

/-! ## Watching -/

/-- A primitive that acts on a process. -/
inductive DesktopCall where
  | openProcess (pid : ProcessId)
  | postQuit (window : WindowId) (message : QuitMessage)
  | waitForExit (pid : ProcessId) (timeout : Option Duration)
  | exitCode (pid : ProcessId)
  | closeProcess (pid : ProcessId)
  deriving DecidableEq, Repr

/-- A desktop that notes each call before it is made. -/
def Desktop.observed {κ σ : Type} (note : DesktopCall → Act κ σ Unit) (d : Desktop κ σ) :
    Desktop κ σ where
  findWindow := d.findWindow
  windowOwner := d.windowOwner
  threadWindows := d.threadWindows
  className := d.className
  openProcess pid := do
    note (.openProcess pid)
    d.openProcess pid
  postQuit w m := do
    note (.postQuit w m)
    d.postQuit w m
  waitForExit h t := do
    note (.waitForExit h.pid t)
    d.waitForExit h t
  exitCode h := do
    note (.exitCode h.pid)
    d.exitCode h
  closeProcess h := do
    note (.closeProcess h.pid)
    d.closeProcess h

/-! ## Troubling -/

/-- A primitive that can be made to fail. -/
inductive Primitive where
  | windowOwner
  | className
  | openProcess
  | postQuit
  | waitForExit
  | exitCode
  deriving DecidableEq, Repr

/-- A trouble of one primitive. -/
structure Trouble where
  primitive : Primitive
  /-- The error it fails with; none if it is to work again. -/
  error : Option PrimitiveError
  /-- The windows or processes it concerns; none for all. -/
  only : Option (List Int)
  /-- An exit code is not known instead of an error. -/
  unknown : Bool
  deriving DecidableEq, Repr

/-- The trouble that befalls a primitive on the window or process `id`: the latest one set for the
primitive decides. -/
def Trouble.find? (troubles : List Trouble) (primitive : Primitive) (id : Int) :
    Option Trouble :=
  match troubles.reverse.find? fun t => t.primitive = primitive with
  | none => none
  | some t => if t.only.all (·.contains id) then some t else none

/-- A desktop whose primitives fail as the world says. -/
def Desktop.troubled {κ σ : Type} (troubles : σ → List Trouble) (d : Desktop κ σ) :
    Desktop κ σ :=
  let guarded {α : Type} (p : Primitive) (id : Int) (x : Try κ σ PrimitiveError α) :
      Try κ σ PrimitiveError α := do
    let w ← Try.world
    match (Trouble.find? (troubles w) p id).bind (·.error) with
    | some e => Try.fail e
    | none => x
  { d with
    windowOwner := fun w => guarded .windowOwner w.number (d.windowOwner w)
    className := fun w => do
      match (Trouble.find? (troubles (← Act.world)) .className w.number).bind (·.error) with
      | some _ => pure none
      | none => d.className w
    openProcess := fun pid => guarded .openProcess pid.number.toNat (d.openProcess pid)
    postQuit := fun w m => guarded .postQuit w.number (d.postQuit w m)
    waitForExit := fun h t =>
      guarded .waitForExit h.pid.number.toNat (d.waitForExit h t)
    exitCode := fun h => do
      let w ← Try.world
      match Trouble.find? (troubles w) .exitCode h.pid.number.toNat with
      | some { unknown := true, .. } => pure none
      | some { error := some e, .. } => Try.fail e
      | _ => d.exitCode h }

end StartupBench
