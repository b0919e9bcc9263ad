import StartupBench.RunError
import StartupBench.Decimal.Layout

/-!
# Recorded results

Samples are recorded under a key of two names, the graph and the trace.  A `Ledger` keeps one
series for each key, in the order of the keys.  The first sample of a series fixes its units; later
ones have to name the same units or none.
-/

namespace StartupBench

/-- The name under which a sample is recorded. -/
structure ResultKey where
  graph : String
  trace : String
  deriving DecidableEq, Repr

namespace ResultKey

/-- Keys are ordered by graph and then by trace, character by character. -/
def before (a b : ResultKey) : Bool :=
  decide (a.graph < b.graph) || (a.graph == b.graph && decide (a.trace < b.trace))

end ResultKey

/-- The samples recorded under one key. -/
structure Series where
  units : String
  samples : List Float

/-- All series, sorted by their keys. -/
structure Ledger where
  entries : List (ResultKey × Series) := []

namespace Ledger

/-- No series. -/
def empty : Ledger := {}

/-- The series recorded under a key. -/
def get? (l : Ledger) (key : ResultKey) : Option Series :=
  (l.entries.find? fun e => e.1 = key).map (·.2)

/-- How many series there are. -/
def size (l : Ledger) : Nat := l.entries.length

/-- Whether there are none. -/
def isEmpty (l : Ledger) : Bool := l.entries.isEmpty

/-- Put a series under a key, at its place in the order. -/
def put (key : ResultKey) (series : Series) :
    List (ResultKey × Series) → List (ResultKey × Series)
  | [] => [(key, series)]
  | e :: rest =>
    if e.1 = key then (key, series) :: rest
    else if key.before e.1 then (key, series) :: e :: rest
    else e :: put key series rest

/-- Whether units named for a sample go against those of its series. -/
def conflicts (series : Series) (units : String) : Bool :=
  !units.isEmpty && series.units != units

/-- What recording a sample comes to: the ledger with it, or the conflict. -/
def record (l : Ledger) (key : ResultKey) (sample : Float) (units : String) :
    Except RunError Ledger :=
  let series := (l.get? key).getD ⟨units, []⟩
  if conflicts series units then
    .error (.unitsConflict key.graph key.trace series.units units)
  else
    .ok ⟨put key { series with samples := series.samples ++ [sample] } l.entries⟩

/-- The event that announces a sample. -/
def announcement (key : ResultKey) (sample : Float) (units : String) : Log.Event :=
  { level := .info
    component := .results
    message := "Adding result " ++ key.graph ++ ", " ++ key.trace ++ ", " ++
      Decimal.plain sample ++ ", " ++ units }

/-- The series under a key.  If there is none yet, one is made with these units and no samples. -/
def enter (key : ResultKey) (units : String) (l : Ledger) : Series × Ledger :=
  match l.get? key with
  | some series => (series, l)
  | none => (⟨units, []⟩, ⟨put key ⟨units, []⟩ l.entries⟩)

/-- Record a sample in the ledger that is the world.  The series is there before its units are
compared with those of the sample. -/
def add {κ : Type} (key : ResultKey) (sample : Float) (units : String) :
    Try κ Ledger RunError Unit := do
  Try.lift (Act.notify (.event (announcement key sample units)))
  let series ← Try.lift (Act.step (enter key units))
  if conflicts series units then
    Try.fail (.unitsConflict key.graph key.trace series.units units)
  else
    Try.update fun l => ⟨put key { series with samples := series.samples ++ [sample] } l.entries⟩

theorem put_put (key : ResultKey) (series series' : Series)
    (entries : List (ResultKey × Series)) :
    put key series' (put key series entries) = put key series' entries := by
  induction entries with
  | nil => simp [put]
  | cons e rest ih =>
    by_cases same : e.1 = key
    · simp [put, same]
    · by_cases first : key.before e.1
      · simp [put, same, first]
      · simp [put, same, first, ih]

theorem add_run_entered {κ : Type} (key : ResultKey) (sample : Float) (units : String)
    (l : Ledger) :
    (add key sample units : Try κ Ledger RunError Unit).run l =
      let series := (enter key units l).1
      let entered := (enter key units l).2
      if conflicts series units then
        ⟨.returned (.error (.unitsConflict key.graph key.trace series.units units)), entered,
          [.event (announcement key sample units)]⟩
      else
        ⟨.returned (.ok ()),
          ⟨put key { series with samples := series.samples ++ [sample] } entered.entries⟩,
          [.event (announcement key sample units)]⟩ := by
  unfold add Try.lift
  rw [ExceptT.run_bind_lift, ExceptT.run_bind_lift, Act.bind_run]
  dsimp only [Act.notify]
  rw [Act.bind_run]
  dsimp only [Act.step]
  split <;> rfl

/-- A series that is made for a sample has its units, so that a sample is never refused with a
series of its own left behind. -/
theorem add_run {κ : Type} (key : ResultKey) (sample : Float) (units : String) (l : Ledger) :
    (add key sample units : Try κ Ledger RunError Unit).run l =
      match l.record key sample units with
      | .ok l' => ⟨.returned (.ok ()), l', [.event (announcement key sample units)]⟩
      | .error e => ⟨.returned (.error e), l, [.event (announcement key sample units)]⟩ := by
  have alike : conflicts ⟨units, []⟩ units = false := by simp [conflicts]
  rw [add_run_entered]
  unfold enter record
  cases l.get? key with
  | some series =>
    dsimp only [Option.getD]
    split <;> rfl
  | none =>
    dsimp only [Option.getD]
    rw [alike, if_neg Bool.false_ne_true, if_neg Bool.false_ne_true, put_put]

/-! ## Result lines -/

/-- The line of one series. -/
def resultLine (key : ResultKey) (series : Series) : String :=
  "RESULT " ++ key.graph ++ ": " ++ key.trace ++ "= [" ++
    String.intercalate ", " (series.samples.map Decimal.plain) ++ "] " ++ series.units

/-- The lines of all series, in the order of the keys. -/
def resultLines (l : Ledger) : List String :=
  l.entries.map fun e => resultLine e.1 e.2

end Ledger

end StartupBench
