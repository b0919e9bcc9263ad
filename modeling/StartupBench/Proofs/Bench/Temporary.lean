import StartupBench.Proofs.Bench.Profile

/-!
# The temporary directory

Setting up makes one temporary directory as its last step, and tearing down gives it up as its last
step: it is removed, or kept if that was asked for.  In between no directory is made or removed, and
every trace is started in this one.  So the moments of a run fall into three parts: those before the
directory is made (`Bench.Early`), those of its stay (`Bench.Stay`), and the end of the tear-down
(`Bench.Leaving`).

What becomes of the directory on the disk is said by any `present` that tells which directories are
there, as long as nobody else removes them (`Bench.Houses`).  It is a parameter of the statements
and not of the run: the chronicle is split once, and what `present` says of its worlds follows for
every one of them (`Bench.Spares`).

## The invariant

The state notes the directory that was made.  Until then the run is `Bench.Unhoused`, and from then
on `Bench.Housed`: the chronicle splits at the moment at which the directory was made, and all that
happened since belongs to its stay.  A tear-down begins in either of the two (`Bench.Leavable`) and
ends with the directory `Bench.Vacated`.  Every step but the preparation of an iteration is a frame
for this (`Bench.Unmoved`), by what the parts of the benchmark may do (`Bench.Keeps`).  A run whose
process is aborted may leave the directory behind (`Bench.Forsaken`), but it makes no second one.
-/

namespace StartupBench.Bench

variable {κ σ : Type}

/-! ## What happens before and during the stay -/

/-- Where `present` tells which directories are there: a directory that was made is there, one that
was removed is not, and whoever has nothing to do with directories removes none. -/
structure Houses (b : Bench κ σ) (d : Drive κ σ) (present : Path → σ → Prop) : Prop where
  made : ∀ stem path w, ((b.files.makeTemporary stem).run w).outcome = .returned (.ok path) →
    present path ((b.files.makeTemporary stem).run w).world
  removed : ∀ path w, ((b.files.removeDirectory path).run w).outcome = .returned (.ok ()) →
    ¬present path ((b.files.removeDirectory path).run w).world
  call : ∀ a : Ask, a.part ≠ .directories → ∀ path,
    (b.call a).Respects fun w w₁ => present path w → present path w₁
  interrupted : ∀ path, d.interrupted.Respects fun w w₁ => present path w → present path w₁
  sleep : ∀ time path, (d.sleep time).Respects fun w w₁ => present path w → present path w₁

/-- A directory that is there stays there, for every `present` that `Houses` the benchmark's
directories. -/
def Spares (b : Bench κ σ) (d : Drive κ σ) (path : Path) (w w₁ : σ) : Prop :=
  ∀ present, b.Houses d present → present path w → present path w₁

instance (b : Bench κ σ) (d : Drive κ σ) (path : Path) : IsPreorder σ (b.Spares d path) where
  refl _ _ _ := id
  trans _ _ _ h h₁ present hp there := h₁ present hp (h present hp there)

/-- No directory is made, no trace is started, and no iteration is prepared. -/
def Early : Happening κ → Prop
  | .asked (.makeTemporary _) out => out.value? = none
  | .asked (.startTrace _) _ => False
  | .ended ⟨.prepare _, _⟩ => False
  | _ => True

/-- No directory is made or removed, and a trace is started in `path` at most. -/
def Resident (path : Path) : Happening κ → Prop
  | .asked (.makeTemporary _) _ => False
  | .asked (.removeDirectory _) _ => False
  | .asked (.startTrace directory) _ => directory = path
  | _ => True

/-- The stay of the directory: it was made, then nothing was made or removed, and it was there all
the time. -/
structure Stay (b : Bench κ σ) (d : Drive κ σ) (path : Path) (before : List (Moment κ σ))
    (made : Moment κ σ) (during : List (Moment κ σ)) : Prop where
  early : ∀ m ∈ before, Early m.happening
  making : made.happening = .asked (.makeTemporary "launchbench-") (.returned (.ok path))
  resident : ∀ m ∈ during, Resident path m.happening
  present : ∀ present, b.Houses d present → ∀ m ∈ made :: during, present path m.after

/-- How the directory is left: it is kept if that was asked for, and is still there, or it is to be
removed, and is gone if that succeeds. -/
inductive Leaving (b : Bench κ σ) (d : Drive κ σ) (path : Path) : List (Moment κ σ) → σ → Prop
  | kept {last : σ} (keep : b.settings.keepTemporary = true)
      (there : ∀ present, b.Houses d present → present path last) : Leaving b d path [] last
  | removed {last : σ} {answer : Except IoError Unit} (remove : b.settings.keepTemporary = false)
      (gone : answer = .ok () → ∀ present, b.Houses d present → ¬present path last) :
      Leaving b d path [⟨.asked (.removeDirectory path) (.returned answer), last⟩] last

/-- What may happen after the stay: the directory is removed, and tearing down ends. -/
def Parting (path : Path) : Happening κ → Prop
  | .asked (.removeDirectory p) _ => p = path
  | .ended call => call.step = .tearDown
  | _ => False

/-! ## What holds of the directory -/

/-- There has been no directory so far: none is noted, and all that happened is `Early`. -/
def Unhoused (w : World (Chronicled κ σ)) : Prop :=
  w.state.temporary = none ∧ ∀ m ∈ w.outside.calls, Early m.happening

/-- There is a directory, it is noted in the state, and the moments since it was made are its
`Stay`. -/
def Housed (b : Bench κ σ) (d : Drive κ σ) (w : World (Chronicled κ σ)) : Prop :=
  ∃ path before made during, w.state.temporary = some path ∧
    w.outside.calls = before ++ made :: during ∧ b.Stay d path before made during ∧
    ∀ present, b.Houses d present → present path w.outside.world

/-- There is no directory yet (`Unhoused`), or there is one (`Housed`). -/
def Leavable (b : Bench κ σ) (d : Drive κ σ) (w : World (Chronicled κ σ)) : Prop :=
  Unhoused w ∨ b.Housed d w

/-- What is so wherever a run is left without coming back: there was no directory, or after its stay
all that happened is `Parting`. -/
def Deserted (b : Bench κ σ) (d : Drive κ σ) (w : World (Chronicled κ σ)) : Prop :=
  (∀ m ∈ w.outside.calls, Early m.happening) ∨ ∃ path before made during rest,
    w.outside.calls = before ++ made :: during ++ rest ∧
      b.Stay d path before made during ∧ ∀ m ∈ rest, Parting path m.happening

/-- A step before there is a directory, in which all that happens is `Early`. -/
abbrev Preliminary : World (Chronicled κ σ) → World (Chronicled κ σ) → Prop :=
  Frame State.temporary (Since Early (Same fun _ => ()))

/-- A step during the stay of the directory, in which all that happens is `Resident` and the
directory is spared. -/
abbrev Unmoved (b : Bench κ σ) (d : Drive κ σ) (path : Path) :
    World (Chronicled κ σ) → World (Chronicled κ σ) → Prop :=
  Frame State.temporary (Since (Resident path) (b.Spares d path))

section Frames

variable {b : Bench κ σ} {d : Drive κ σ} {w w₁ : World (Chronicled κ σ)}

lemma Unhoused.frame (h : Unhoused w) (hw : Preliminary w w₁) : Unhoused w₁ := by
  obtain ⟨hstate, -, more, hcalls, hmore⟩ := hw
  refine ⟨hstate.trans h.1, fun m hm => ?_⟩
  rw [hcalls] at hm
  obtain hold | hnew := List.mem_append.1 hm
  · exact h.2 m hold
  · exact (hmore m hnew).1

/-- More happens during the stay, all of it `Resident`. -/
lemma Stay.append {path : Path} {before during more : List (Moment κ σ)} {made : Moment κ σ}
    (h : b.Stay d path before made during)
    (hmore : ∀ m ∈ more, Resident path m.happening ∧
      ∀ present, b.Houses d present → present path m.after) :
    b.Stay d path before made (during ++ more) where
  early := h.early
  making := h.making
  resident m hm := (List.mem_append.1 hm).elim (h.resident m) fun hm => (hmore m hm).1
  present present hp m hm := by
    rw [← List.cons_append] at hm
    exact (List.mem_append.1 hm).elim (h.present present hp m) fun hm => (hmore m hm).2 present hp

/-- The path that is noted is kept by a step that is `Unmoved`, and the run is `Housed` as before.
-/
lemma Housed.frame (h : b.Housed d w)
    (hw : ∀ path, w.state.temporary = some path → b.Unmoved d path w w₁) : b.Housed d w₁ := by
  obtain ⟨path, before, made, during, hpath, hcalls, hstay, hthere⟩ := h
  obtain ⟨hstate, hspares, more, hmore, hresident⟩ := hw path hpath
  refine ⟨path, before, made, during ++ more, hstate.trans hpath, ?_, ?_, ?_⟩
  · rw [hmore, hcalls, List.append_assoc, List.cons_append]
  · exact hstay.append fun m hm => ⟨(hresident m hm).1, fun present hp =>
      (hresident m hm).2 present hp (hthere present hp)⟩
  · exact fun present hp => hspares present hp (hthere present hp)

end Frames

section Deserted

variable {b : Bench κ σ} {d : Drive κ σ} {w : World (Chronicled κ σ)}

lemma Leavable.deserted (h : b.Leavable d w) : b.Deserted d w := by
  obtain hnone | ⟨path, before, made, during, -, hcalls, hstay, -⟩ := h
  · exact .inl hnone.2
  · refine .inr ⟨path, before, made, during, [], ?_, hstay, fun _ hm => absurd hm List.not_mem_nil⟩
    rw [hcalls, List.append_nil]

/-- The end of the tear-down is `Parting`. -/
lemma Deserted.ended (h : b.Deserted d w) (e : Subject.Ending) :
    b.Deserted d (happens (.ended ⟨.tearDown, e⟩) w) := by
  obtain hnone | ⟨path, before, made, during, rest, hcalls, hstay, hrest⟩ := h
  · refine .inl fun m hm => (List.mem_append.1 hm).elim (hnone m) fun hm => ?_
    rw [List.mem_singleton.1 hm]
    trivial
  · refine .inr ⟨path, before, made, during, rest ++ [⟨.ended ⟨.tearDown, e⟩, w.outside.world⟩],
      ?_, hstay, fun m hm => (List.mem_append.1 hm).elim (hrest m) fun hm => ?_⟩
    · rw [← List.append_assoc, ← hcalls]
      rfl
    · rw [List.mem_singleton.1 hm]
      rfl

end Deserted

/-! ## Calls that have nothing to do with directories -/

section Pieces

variable (b : Bench κ σ) (d : Drive κ σ) {w : World (Chronicled κ σ)}

/-! ## Setting up -/

/-- The moment at which a directory is made, with the stem that `Bench.makeTemporary` asks for. -/
def making (path : Path) (s : σ) : Moment κ σ :=
  ⟨.asked (.makeTemporary "launchbench-") (.returned (.ok path)), s⟩

/-- A step of an iteration that has nothing to do with directories (`Unmoved`) leaves the run
`Housed`. -/
lemma Housed.step {b : Bench κ σ} {d : Drive κ σ} {α : Type}
    {x : Try κ (World (Chronicled κ σ)) RunError α} (h : b.Housed d w)
    (hx : ∀ path, w.state.temporary = some path → Try.Respects (b.Unmoved d path) x) :
    Try.Yields x w (fun _ => b.Housed d) (fun _ => b.Housed d) (fun _ => b.Housed d)
      fun _ => b.Housed d := by
  obtain ⟨path, before, made, during, hpath, hcalls, hstay, hthere⟩ := h
  refine (hx path hpath).keeps fun w₁ hw => ?_
  refine Housed.frame ⟨path, before, made, during, hpath, hcalls, hstay, hthere⟩ fun p hp => ?_
  cases hpath.symm.trans hp
  exact hw

/-- What a tear-down does before it leaves the directory keeps it where it is, or makes none
(`Leavable`). -/
lemma Leavable.step {b : Bench κ σ} {d : Drive κ σ} {α : Type}
    {x : Act κ (World (Chronicled κ σ)) α} (h : b.Leavable d w) (early : x.Respects Preliminary)
    (resident : ∀ path, x.Respects (b.Unmoved d path)) :
    x.Yields w (fun _ => b.Leavable d) (fun _ => b.Leavable d) fun _ => b.Leavable d := by
  obtain hnone | hhoused := h
  · exact early.keeps fun _ hw => .inl (hnone.frame hw)
  · exact Act.Respects.keeps (S := fun w w₁ => ∀ path, b.Unmoved d path w w₁)
      (fun w path => resident path w) fun _ hw => .inr (hhoused.frame fun path _ => hw path)

end Pieces

/-! ## The run -/

section Run

variable (b : Bench κ σ) (d : Drive κ σ) {w : World (Chronicled κ σ)}

/-- What happens at the end of a step is no concern of the directory, and the run is `Housed` as
before. -/
lemma Housed.happens {b : Bench κ σ} {d : Drive κ σ} (h : b.Housed d w) {e : Happening κ}
    (he : ∀ path, Resident path e) : b.Housed d (happens e w) :=
  h.frame fun path _ => happens_frame (he path) w

lemma Unhoused.happens (h : Unhoused w) {e : Happening κ} (he : Early e) :
    Unhoused (happens e w) := h.frame (happens_frame he w)

/-- A question that has nothing to do with directories, such as an interrupt check, leaves the run
`Housed`. -/
lemma Housed.question {b : Bench κ σ} {d : Drive κ σ} {α : Type}
    {x : Act κ (World (Chronicled κ σ)) α} (h : b.Housed d w)
    (hx : ∀ path, x.Respects (b.Unmoved d path)) :
    x.Yields w (fun _ => b.Housed d) (fun _ => b.Housed d) fun _ => b.Housed d :=
  Act.Respects.keeps (S := fun w w₁ => ∀ path, b.Unmoved d path w w₁) (fun w path => hx path w)
    fun _ hw => h.frame fun path _ => hw path

end Run

end StartupBench.Bench
