import StartupBench.Proofs.Act.Tracked
import StartupBench.Quit

/-!
# Asking an application to leave on a richer world

`Desktop.Tracks` says of every primitive of a desktop that it tracks the same primitive of another
desktop, and `QuitTarget.quit_tracks` that asking an application to leave does so then.  The desktop
that keeps a record of its calls, `Desktop.recordedAs`, is one that tracks another.

The primitives are in three groups, since not all of them are called at all times:
`Desktop.TracksLooks` are those that only look at windows, `Desktop.TracksUses` those that use a
process by one handle, and opening and closing stand between them.  Where only a desktop is looked
at, or only one handle is used, the rest need not track anything.  `QuitTarget.whileOpen_tracks_of`
is weaker still: of the request to quit it asks only about the windows that were found, which is
what `Proofs.Desktop.Spared` needs for a process that is left alone.
-/

namespace StartupBench

variable {κ σ τ : Type}

/-- The primitives of `d'` that only look track those of `d`. -/
structure Desktop.TracksLooks (π : τ → σ) (S : τ → τ → Prop) (d' : Desktop κ τ)
    (d : Desktop κ σ) : Prop where
  findWindow : ∀ p, (d'.findWindow p).Tracks π S (d.findWindow p)
  windowOwner : ∀ w, Try.Tracks π S (d'.windowOwner w) (d.windowOwner w)
  threadWindows : ∀ t, (d'.threadWindows t).Tracks π S (d.threadWindows t)
  className : ∀ w, (d'.className w).Tracks π S (d.className w)

/-- The primitives of `d'` that use a process by this `handle` track those of `d`. -/
structure Desktop.TracksUses (π : τ → σ) (S : τ → τ → Prop) (d' : Desktop κ τ)
    (d : Desktop κ σ) (handle : Handle) : Prop where
  postQuit : ∀ w m, Try.Tracks π S (d'.postQuit w m) (d.postQuit w m)
  waitForExit : ∀ limit, Try.Tracks π S (d'.waitForExit handle limit) (d.waitForExit handle limit)
  exitCode : Try.Tracks π S (d'.exitCode handle) (d.exitCode handle)

/-- Every primitive of `d'` tracks the one of `d`, as `Act.Tracks` has it of an act. -/
structure Desktop.Tracks (π : τ → σ) (S : τ → τ → Prop) (d' : Desktop κ τ)
    (d : Desktop κ σ) : Prop where
  looks : d'.TracksLooks π S d
  openProcess : ∀ p, Try.Tracks π S (d'.openProcess p) (d.openProcess p)
  uses : ∀ handle, d'.TracksUses π S d handle
  closeProcess : ∀ handle, (d'.closeProcess handle).Tracks π S (d.closeProcess handle)

/-! ## Calls of a desktop -/

/-- A call of a primitive.  How it ended is kept where later calls depend on it: as the answer, if
there was one. -/
inductive Desktop.Call where
  | findWindow (pattern : WindowPattern) (answer : Option (Option WindowId))
  | windowOwner (window : WindowId)
  | threadWindows (thread : ThreadId)
  | className (window : WindowId)
  | openProcess (pid : ProcessId) (handle : Option Handle)
  | postQuit (window : WindowId) (message : QuitMessage)
  | waitForExit (handle : Handle) (limit : Option Duration)
  | exitCode (handle : Handle)
  | closeProcess (handle : Handle)
  deriving DecidableEq, Repr

/-- A desktop that keeps a record of every call, as an `event` of a kind. -/
def Desktop.recordedAs {ε : Type} (event : Desktop.Call → ε) (d : Desktop κ σ) :
    Desktop κ (Recorded ε σ) where
  findWindow p := (d.findWindow p).recorded fun out => event (.findWindow p out.answer?)
  windowOwner w := Try.recorded (fun _ => event (.windowOwner w)) (d.windowOwner w)
  threadWindows t := (d.threadWindows t).recorded fun _ => event (.threadWindows t)
  className w := (d.className w).recorded fun _ => event (.className w)
  openProcess p := Try.recorded (fun out => event (.openProcess p out.value?)) (d.openProcess p)
  postQuit w m := Try.recorded (fun _ => event (.postQuit w m)) (d.postQuit w m)
  waitForExit h t := Try.recorded (fun _ => event (.waitForExit h t)) (d.waitForExit h t)
  exitCode h := Try.recorded (fun _ => event (.exitCode h)) (d.exitCode h)
  closeProcess h := (d.closeProcess h).recorded fun _ => event (.closeProcess h)

section Records

variable {ε : Type} {C : ε → Prop} {event : Desktop.Call → ε} (d : Desktop κ σ)

lemma Desktop.recordedAs_tracksLooks (hw : ∀ p answer, C (event (.findWindow p answer)))
    (ho : ∀ w, C (event (.windowOwner w))) (ht : ∀ t, C (event (.threadWindows t)))
    (hc : ∀ w, C (event (.className w))) :
    (d.recordedAs event).TracksLooks Recorded.world (Recorded.Adds C) d where
  findWindow p := Act.recorded_tracks _ _ fun _ => hw p _
  windowOwner w := Try.recorded_tracks _ _ fun _ => ho w
  threadWindows t := Act.recorded_tracks _ _ fun _ => ht t
  className w := Act.recorded_tracks _ _ fun _ => hc w

lemma Desktop.recordedAs_tracksUses (handle : Handle) (hp : ∀ w m, C (event (.postQuit w m)))
    (hw : ∀ limit, C (event (.waitForExit handle limit))) (hc : C (event (.exitCode handle))) :
    (d.recordedAs event).TracksUses Recorded.world (Recorded.Adds C) d handle where
  postQuit w m := Try.recorded_tracks _ _ fun _ => hp w m
  waitForExit limit := Try.recorded_tracks _ _ fun _ => hw limit
  exitCode := Try.recorded_tracks _ _ fun _ => hc

/-- Whatever is recorded, the recorded desktop does what the desktop does, and only adds to the
record. -/
lemma Desktop.recordedAs_tracks (h : ∀ call, C (event call)) :
    (d.recordedAs event).Tracks Recorded.world (Recorded.Adds C) d where
  looks := d.recordedAs_tracksLooks (fun _ _ => h _) (fun _ => h _) (fun _ => h _) fun _ => h _
  openProcess p := Try.recorded_tracks (fun out => event (.openProcess p out.value?)) _ fun _ => h _
  uses handle := d.recordedAs_tracksUses handle (fun _ _ => h _) (fun _ => h _) (h _)
  closeProcess _ := Act.recorded_tracks _ _ fun _ => h _

end Records

/-! ## The walk -/

namespace QuitTarget

variable {π : τ → σ} {S : τ → τ → Prop} [IsPreorder τ S] {d' : Desktop κ τ} {d : Desktop κ σ}

lemma accepted_tracks (h : d'.TracksLooks π S d) (rule : ClassRule) (windows : List WindowId) :
    (accepted d' rule windows).Tracks π S (accepted d rule windows) := by
  induction windows with
  | nil => exact Act.Tracks.pure []
  | cons w rest ih =>
    unfold accepted
    refine (h.className w).bind fun windowClass => ?_
    exact ih.bind fun rest => Act.Tracks.pure _

lemma locate_tracks (h : d'.TracksLooks π S d) (t : QuitTarget) :
    Try.Tracks π S (locate d' t) (locate d t) := by
  unfold locate
  refine Try.Tracks.bind (Try.Tracks.lift (h.findWindow _)) fun found => ?_
  cases found with
  | none => exact Try.Tracks.fail _
  | some window =>
    refine (Try.Tracks.mapError (h.windowOwner window)).bind fun owner => ?_
    refine (Try.Tracks.lift (h.threadWindows _)).bind fun windows => ?_
    refine (Try.Tracks.lift (accepted_tracks h t.recipients windows)).bind fun recipients => ?_
    exact Try.Tracks.pure _

lemma postAll_tracks {message : QuitMessage} {windows : List WindowId}
    (h : ∀ w ∈ windows, Try.Tracks π S (d'.postQuit w message) (d.postQuit w message)) :
    (postAll d' message windows).Tracks π S (postAll d message windows) := by
  induction windows with
  | nil => exact Act.Tracks.pure ()
  | cons w rest ih =>
    obtain ⟨hw, hrest⟩ := List.forall_mem_cons.1 h
    unfold postAll
    refine Act.Tracks.bind hw.result fun out => ?_
    cases out with
    | ok _ => exact ih hrest
    | error e => exact (Act.Tracks.log _ _ _ _).bind fun _ => ih hrest

/-- Only the windows that were found are asked to quit, and so nothing need be known of the request
to others. -/
lemma whileOpen_tracks_of {handle : Handle} (t : QuitTarget) (limit : Option Duration)
    (found : Located)
    (hp : ∀ w ∈ found.recipients,
      Try.Tracks π S (d'.postQuit w t.message) (d.postQuit w t.message))
    (hw : Try.Tracks π S (d'.waitForExit handle limit) (d.waitForExit handle limit))
    (hc : Try.Tracks π S (d'.exitCode handle) (d.exitCode handle)) :
    Try.Tracks π S (whileOpen d' t limit found handle) (whileOpen d t limit found handle) := by
  unfold whileOpen
  refine Try.Tracks.bind (Try.Tracks.lift (postAll_tracks hp)) fun _ => ?_
  refine (Try.Tracks.log _ _ _ _).bind fun _ => ?_
  refine (Try.Tracks.mapError hw).bind fun waited => ?_
  cases waited with
  | timedOut => exact Try.Tracks.fail _
  | exited =>
    refine (Try.Tracks.mapError hc).bind fun code => ?_
    exact (Try.Tracks.log _ _ _ _).bind fun _ => Try.Tracks.pure _

lemma whileOpen_tracks {handle : Handle} (h : d'.TracksUses π S d handle) (t : QuitTarget)
    (limit : Option Duration) (found : Located) :
    Try.Tracks π S (whileOpen d' t limit found handle) (whileOpen d t limit found handle) :=
  whileOpen_tracks_of t limit found (fun w _ => h.postQuit w _) (h.waitForExit limit) h.exitCode

lemma quit_tracks (h : d'.Tracks π S d) (t : QuitTarget) (limit : Option Duration) :
    Try.Tracks π S (quit d' t limit) (quit d t limit) := by
  unfold quit
  refine (locate_tracks h.looks t).bind fun found => ?_
  have opened : Try.Tracks π S
      (do
        let handle ← Try.mapError QuitError.os (d'.openProcess found.owner)
        ExceptT.mk (Act.ensuring (whileOpen d' t limit found handle).run
          (d'.closeProcess handle)))
      (do
        let handle ← Try.mapError QuitError.os (d.openProcess found.owner)
        ExceptT.mk (Act.ensuring (whileOpen d t limit found handle).run
          (d.closeProcess handle))) := by
    refine (Try.Tracks.mapError (h.openProcess _)).bind fun handle => ?_
    exact (whileOpen_tracks (h.uses handle) t limit found).ensuring (h.closeProcess handle)
  exact Try.Tracks.ite ((Try.Tracks.log _ _ _ _).bind fun _ => opened) opened

end QuitTarget

end StartupBench
