import StartupBench.Proofs.Bench.Watched

/-!
# The chronicle of a benchmark

A chronicle keeps every call of a collaborator with what it was asked and how it ended, every end of
a step of the run, and the beginning of the tear-down; and with each of these the world as it was
right after it (`Bench.Moment`).  What holds at every moment of a run is what holds of all worlds in
its chronicle (`Bench.chronicle`).  It is kept by a `Watch`, `Watch.chronicling`, which notes the
most that a watch can.

## Stretches

`Bench.Since C S` says of a stretch of a run that all that happens in it satisfies `C` and that the
worlds in it stand in `S` to the world before it.  `Bench.Keeps` collects what is needed for the
steps of a run to be such stretches: it is the `Watch.Keeps` of this watch, which has one lemma for
each step, and `Bench.Keeps.of_asked` gives it from what the calls of the benchmark do to the world.
Unlike a record of events, a stretch speaks of the worlds between its calls: this is what a
statement about every moment of a run rests on, such as the one that a launched application is alone
(`Bench.launched_exited`) or that a directory is there (`Bench.temporary_of_life`).
-/

namespace StartupBench

namespace Bench

variable {κ σ α ε : Type}

/-! ## Moments -/

/-- What happens in a run of a benchmark: calls of collaborators, the beginning of the tear-down,
and the ends of steps. -/
inductive Happening (κ : Type) where
  | asked (a : Ask) (out : Outcome κ a.Answer)
  | begunTearDown
  | ended (call : Subject.Call)

/-- Something that happened, and the world right after it. -/
structure Moment (κ σ : Type) where
  happening : Happening κ
  after : σ

/-- The call of a collaborator, if what happened is one. -/
def Happening.ask? : Happening κ → Option Ask
  | .asked a _ => some a
  | _ => none

/-- The calls of collaborators among the moments, in order, without what they were answered. -/
def asksIn (moments : List (Moment κ σ)) : List Ask := moments.filterMap fun m => m.happening.ask?

/-- A world and the moments that led to it, in order (`Recorded`). -/
abbrev Chronicled (κ σ : Type) : Type := Recorded (Moment κ σ) σ

/-- Something happens: a `Moment` with the present world is added. -/
def Chronicled.add (h : Happening κ) (w : Chronicled κ σ) : Chronicled κ σ :=
  { w with calls := w.calls ++ [⟨h, w.world⟩] }

/-- Between `w` and `w₁` only that happens which is in `C`, and all worlds since `w` stand in `S` to
the world of `w`. -/
def Since (C : Happening κ → Prop) (S : σ → σ → Prop) (w w₁ : Chronicled κ σ) : Prop :=
  S w.world w₁.world ∧
    ∃ l, w₁.calls = w.calls ++ l ∧ ∀ m ∈ l, C m.happening ∧ S w.world m.after

section Since

variable {C : Happening κ → Prop} {S : σ → σ → Prop} [IsPreorder σ S]

instance : IsPreorder (Chronicled κ σ) (Since C S) where
  refl w := ⟨Std.Refl.refl _, [], by simp⟩
  trans w w₁ w₂ := by
    rintro ⟨hS, l, hl, hm⟩ ⟨hS₁, l₁, hl₁, hm₁⟩
    refine ⟨IsTrans.trans _ _ _ hS hS₁, l ++ l₁, by rw [hl₁, hl, List.append_assoc], ?_⟩
    intro m hmem
    obtain hmem | hmem := List.mem_append.1 hmem
    · exact hm m hmem
    · exact ⟨(hm₁ m hmem).1, IsTrans.trans _ _ _ hS (hm₁ m hmem).2⟩

omit [IsPreorder σ S] in
/-- What happens is forgotten, and how the worlds stand to each other is kept: a `Since` with a
weaker `C`. -/
lemma Since.weaken {w w₁ : Chronicled κ σ} (h : Since C S w w₁) :
    Since (fun _ => True) S w w₁ :=
  ⟨h.1, h.2.imp fun _ hl => ⟨hl.1, fun m hm => ⟨trivial, (hl.2 m hm).2⟩⟩⟩

omit [IsPreorder σ S] in
lemma since_snoc {h : Happening κ} (hC : C h) {w : Chronicled κ σ} {s : σ} (hS : S w.world s) :
    Since C S w ⟨w.calls ++ [⟨h, s⟩], s⟩ := by
  refine ⟨hS, [⟨h, s⟩], rfl, fun m hm => ?_⟩
  rw [List.mem_singleton.1 hm]
  exact ⟨hC, hS⟩

lemma since_add {h : Happening κ} (hC : C h) (w : Chronicled κ σ) : Since C S w (w.add h) :=
  since_snoc hC (Std.Refl.refl w.world)

end Since

end Bench

namespace Act

variable {κ σ α : Type}

/-- A computation whose end is a moment of the chronicle (`Act.noted`), with the world that it
leaves. -/
def chronicled (happening : Outcome κ α → Bench.Happening κ) (x : Act κ σ α) :
    Act κ (Bench.Chronicled κ σ) α :=
  x.unrecorded.noted fun out w => w.add (happening out)

@[simp] lemma yields_chronicled {happening : Outcome κ α → Bench.Happening κ} {x : Act κ σ α}
    {w : Bench.Chronicled κ σ} {R : α → Bench.Chronicled κ σ → Prop}
    {P : String → Bench.Chronicled κ σ → Prop} {H : Stop κ → Bench.Chronicled κ σ → Prop} :
    (chronicled happening x).Yields w R P H ↔
      x.Yields w.world
        (fun a s => R a ⟨w.calls ++ [⟨happening (.returned a), s⟩], s⟩)
        (fun m s => P m ⟨w.calls ++ [⟨happening (.panicked m), s⟩], s⟩)
        (fun k s => H k ⟨w.calls ++ [⟨happening (.stopped k), s⟩], s⟩) := by
  rw [chronicled, yields_noted, yields_unrecorded]
  rfl

lemma chronicled_tracks {happening : Outcome κ α → Bench.Happening κ} {x : Act κ σ α}
    {C : Bench.Happening κ → Prop} {S : σ → σ → Prop} [IsPreorder σ S]
    (hC : ∀ out, C (happening out)) (hx : x.Respects S) :
    (x.chronicled happening).Tracks Recorded.world (Bench.Since C S) x := by
  exact ⟨fun w => rfl, fun w => Bench.since_snoc (hC _) (hx w.world)⟩

end Act

namespace Try

variable {κ σ ε α : Type}

/-- A computation whose end is a moment of the chronicle, for one that may fail. -/
def chronicled (happening : Outcome κ (Except ε α) → Bench.Happening κ) (x : Try κ σ ε α) :
    Try κ (Bench.Chronicled κ σ) ε α :=
  ExceptT.mk (x.run.chronicled happening)

@[simp] lemma yields_chronicled {happening : Outcome κ (Except ε α) → Bench.Happening κ}
    {x : Try κ σ ε α} {w : Bench.Chronicled κ σ} {R : α → Bench.Chronicled κ σ → Prop}
    {E : ε → Bench.Chronicled κ σ → Prop} {P : String → Bench.Chronicled κ σ → Prop}
    {H : Stop κ → Bench.Chronicled κ σ → Prop} :
    Try.Yields (Try.chronicled happening x) w R E P H ↔
      Try.Yields x w.world
        (fun a s => R a ⟨w.calls ++ [⟨happening (.returned (.ok a)), s⟩], s⟩)
        (fun e s => E e ⟨w.calls ++ [⟨happening (.returned (.error e)), s⟩], s⟩)
        (fun m s => P m ⟨w.calls ++ [⟨happening (.panicked m), s⟩], s⟩)
        (fun k s => H k ⟨w.calls ++ [⟨happening (.stopped k), s⟩], s⟩) := by
  rw [Try.chronicled, yields_mk, Act.yields_chronicled, yields_run]

end Try

namespace Bench

variable {κ σ α : Type}

/-! ## The benchmark with a chronicle -/

/-- The call of a benchmark, as a moment of the chronicle: `Happening.asked` with how it ended. -/
def ask (b : Bench κ σ) (a : Ask) : Act κ (Chronicled κ σ) a.Answer :=
  (b.call a).chronicled (.asked a)

/-- A call is the only thing that happens in it, so that it is a stretch (`Since`) if its end is in
`C` and its world in `S`. -/
lemma ask_respects (b : Bench κ σ) (a : Ask) {C : Happening κ → Prop} {S : σ → σ → Prop}
    [IsPreorder σ S] (hC : ∀ out, C (.asked a out)) (hS : (b.call a).Respects S) :
    (b.ask a).Respects (Since C S) := (Act.chronicled_tracks hC hS).respects

end Bench

/-- The watch that keeps a moment of each call, of each end of a step and of the beginning of the
tear-down. -/
def Watch.chronicling : Watch κ σ (Bench.Moment κ σ) where
  ask _ a x := x.chronicled (.asked a)
  ended call s := ⟨.ended call, s⟩
  begun := some fun s => ⟨.begunTearDown, s⟩

namespace Bench

/-- The benchmark with a chronicle of the calls of its collaborators; each of them is an `ask`. -/
abbrev chronicled (b : Bench κ σ) : Bench κ (Chronicled κ σ) := b.watched .chronicling none

section Walk

variable {b : Bench κ σ} {K : Part → Prop} {C : Happening κ → Prop} {S : σ → σ → Prop}
  [IsPreorder σ S]

/-- The chronicle changes nothing (`Bench.Tracks`), and what the parts in `K` do is the only thing
that happens when only they are asked. -/
lemma chronicled_tracks (hC : ∀ a out, K a.part → C (.asked a out))
    (hS : ∀ a, K a.part → (b.call a).Respects S) :
    b.chronicled.Tracks Recorded.world (Since C S) K b :=
  watched_tracks fun a ha => Act.chronicled_tracks (fun out => hC a out ha) (hS a ha)

end Walk

/-! ## The run with a chronicle -/

/-- Something happens in the world around the state (`Chronicled.add`). -/
def happens (h : Happening κ) (w : World (Chronicled κ σ)) : World (Chronicled κ σ) :=
  { w with outside := w.outside.add h }

/-- The same run as `Bench.driven` with a chronicle.  The tear-down is noted at its beginning as
well. -/
abbrev chronicledRunner (b : Bench κ σ) (d : Drive κ σ) : Runner κ (World (Chronicled κ σ)) :=
  b.watchedRunner .chronicling d

section Runner

variable (b : Bench κ σ) (d : Drive κ σ)

lemma chronicledRunner_setUp : (b.chronicledRunner d).subject.setUp =
    Try.noted (fun out => happens (.ended ⟨.setUp, .ofTry out⟩)) b.chronicled.setUp := rfl

lemma chronicledRunner_launch : (b.chronicledRunner d).subject.launch =
    Try.noted (fun out => happens (.ended ⟨.launch, .ofTry out⟩)) b.chronicled.launch := rfl

lemma chronicledRunner_shutDown : (b.chronicledRunner d).subject.shutDown =
    Try.noted (fun out => happens (.ended ⟨.shutDown, .ofTry out⟩)) b.chronicled.shutDown := rfl

lemma chronicledRunner_tearDown : (b.chronicledRunner d).subject.tearDown =
    Act.noted (fun out => happens (.ended ⟨.tearDown, .ofAct out⟩))
      (Act.update (happens .begunTearDown) >>= fun _ => b.chronicled.tearDown) := rfl

end Runner

/-- The moments in the life of a run of the benchmark, in order, with those of letting go of it. -/
def chronicle (b : Bench κ σ) (d : Drive κ σ) (progress : Option Progress) (w : σ) :
    List (Moment κ σ) :=
  b.notes .chronicling d progress w

/-- The parts in `K` and the user do nothing but what is in `C`, and the worlds they lead to stand
in `S` to the worlds before. -/
abbrev Keeps (b : Bench κ σ) (d : Drive κ σ) (K : Part → Prop) (C : Happening κ → Prop)
    (S : σ → σ → Prop) : Prop :=
  Watch.chronicling.Keeps b d K (fun call => C (.ended call)) (C .begunTearDown) (Since C S)

section Marks

variable {γ : Type} {f : State → γ} {C : Happening κ → Prop} {S : σ → σ → Prop} [IsPreorder σ S]

lemma happens_frame {h : Happening κ} (hC : C h) (w : World (Chronicled κ σ)) :
    Frame f (Since C S) w (happens h w) := ⟨rfl, since_add hC w.outside⟩

lemma Keeps.of_asked {b : Bench κ σ} {d : Drive κ σ} {K : Part → Prop}
    (asked : ∀ a out, K a.part → C (.asked a out))
    (call : ∀ a, K a.part → (b.call a).Respects S)
    (interrupted : K .waiting → d.interrupted.Respects S)
    (sleep : K .waiting → ∀ time, (d.sleep time).Respects S) : b.Keeps d K C S where
  call _ a ha := Act.chronicled_tracks (fun out => asked a out ha) (call a ha)
  interrupted hw := Act.chronicled_tracks (fun out => asked .interrupted out hw) (interrupted hw)
  sleep hw time := Act.chronicled_tracks (fun out => asked (.sleep time) out hw) (sleep hw time)
  ended _ hC w := since_add hC w
  begun hC _ hnote w := Option.some.inj hnote ▸ since_add hC w

/-- The chronicle changes nothing: each moment is added beside what the call does. -/
lemma chronicling_faithful (b : Bench κ σ) (d : Drive κ σ) : Watch.chronicling.Faithful b d :=
  .of_over (fun _ _ _ => rfl) (fun _ => rfl) fun _ _ => rfl

end Marks

end Bench

end StartupBench
