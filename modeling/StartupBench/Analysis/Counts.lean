import StartupBench.Json.Reader

/-!
# Event counts of a trace

What an analyzer counts in one trace, read from its output, and the metrics made of it.  The output
is a JSON record with the fields `hard_faults`, `soft_faults` and, if it likes, `process_launches`,
or a list of the same values in this order.  Other fields are skipped.
-/

namespace StartupBench

/-- A measured value. -/
structure Metric where
  name : String
  value : Float
  /-- The units; none for a plain count. -/
  units : String

/-- What was counted for the benchmarked executable. -/
structure EventCounts where
  /-- Page faults that needed the disk. -/
  hardFaults : Nat
  /-- Page faults served from memory. -/
  softFaults : Nat
  /-- When each process was launched, in seconds. -/
  processLaunches : List Float

namespace EventCounts

/-- The metrics of a trace.  The renderer is the second process; without one there is no time to
its launch. -/
def metrics (c : EventCounts) : List Metric :=
  let faults : List Metric :=
    [⟨"HardPageFaults", Binary64.nearest false c.hardFaults 1, ""⟩,
      ⟨"SoftPageFaults", Binary64.nearest false c.softFaults 1, ""⟩]
  match c.processLaunches with
  | browser :: renderer :: _ => faults ++ [⟨"RendererLaunchTime", renderer - browser, "s"⟩]
  | _ => faults

/-- The counts as they stand in the log. -/
def text (c : EventCounts) : String :=
  "EventCounts \x7b hard_faults: " ++ toString c.hardFaults ++
    ", soft_faults: " ++ toString c.softFaults ++
    ", process_launches: [" ++
      String.intercalate ", " (c.processLaunches.map Decimal.detailed) ++ "] \x7d"

/-! ## Reading -/

open Json Json.Reader

/-- What the document is. -/
def expected : String := "struct EventCounts"

/-- What the document is as a list. -/
def expectedList : String := "struct EventCounts with 3 elements"

/-- A count, which fits 64 bits. -/
def readCount (bytes : List UInt8) : Except Fault (Taken Nat) := do
  let bytes ← nextValue bytes
  if startsNumber bytes then
    let (n, rest) ← number bytes
    match n with
    | .unsigned value => .ok (value, rest)
    | .negative value => faultAt (.wrongValue value "u64") rest
    | .double value => faultAt (.wrongType (.number value) "u64") rest
  else wrongType "u64" bytes

/-- A time in seconds. -/
def readTime (bytes : List UInt8) : Except Fault (Taken Float) := do
  let bytes ← nextValue bytes
  if startsNumber bytes then
    let (n, rest) ← number bytes
    .ok (n.toFloat, rest)
  else wrongType "f64" bytes

/-- A list of times. -/
def readTimes (bytes : List UInt8) : Except Fault (Taken (List Float)) := do
  let bytes ← nextValue bytes
  if startsWith '[' bytes then items readTime bytes.length true (bytes.drop 1)
  else wrongType "a sequence" bytes

/-- The fields read so far. -/
structure Fields where
  hardFaults : Option Nat := none
  softFaults : Option Nat := none
  processLaunches : Option (List Float) := none

/-- A fault of the record as a whole, of whose end `rest` is left. -/
def recordFault {α : Type} (cause : Cause) (rest : List UInt8) : Except Fault α :=
  match endRecord rest with
  | .ok ((), after) => faultAt cause after
  | .error _ => faultAt cause (skipSpace rest)

/-- A field whose value is read by `value`; it must not have been `seen` before. -/
def readField {α : Type} (name : String) (seen : Option α)
    (value : List UInt8 → Except Fault (Taken α))
    (rest : List UInt8) : Except Fault (Taken α) := do
  if seen.isSome then recordFault (.duplicateField name) rest
  else
    let ((), rest) ← colon rest
    value rest

/-- The members of the record and its end; at most `fuel` of them. -/
def readMembers : (fuel : Nat) → (first : Bool) → Fields → List UInt8 →
    Except Fault (Taken EventCounts)
  | 0, _, _, rest => faultAt .endInRecord rest
  | fuel + 1, first, f, bytes => do
    let (more, rest) ← nextMember first bytes
    if more then
      let (key, rest) ← Reader.text (rest.drop 1)
      if key = "hard_faults" then
        let (n, rest) ← readField key f.hardFaults readCount rest
        readMembers fuel false { f with hardFaults := some n } rest
      else if key = "soft_faults" then
        let (n, rest) ← readField key f.softFaults readCount rest
        readMembers fuel false { f with softFaults := some n } rest
      else if key = "process_launches" then
        let (ts, rest) ← readField key f.processLaunches readTimes rest
        readMembers fuel false { f with processLaunches := some ts } rest
      else
        let ((), rest) ← colon rest
        let ((), rest) ← skip rest
        readMembers fuel false f rest
    else
      match f.hardFaults, f.softFaults with
      | none, _ => recordFault (.missingField "hard_faults") rest
      | some _, none => recordFault (.missingField "soft_faults") rest
      | some hard, some soft => do
        let ((), rest) ← endRecord rest
        .ok (⟨hard, soft, f.processLaunches.getD []⟩, rest)

/-- A fault of the list as a whole, of whose end `rest` is left. -/
def tooShort {α : Type} (length : Nat) (rest : List UInt8) : Except Fault α :=
  match endList rest with
  | .ok ((), after) => faultAt (.wrongLength length expectedList) after
  | .error _ => faultAt (.wrongLength length expectedList) rest

/-- The items of the list and its end. -/
def readItems (bytes : List UInt8) : Except Fault (Taken EventCounts) := do
  let (more, rest) ← nextItem true bytes
  if more then
    let (hard, rest) ← readCount rest
    let (more, rest) ← nextItem false rest
    if more then
      let (soft, rest) ← readCount rest
      let (more, rest) ← nextItem false rest
      let (launches, rest) ← if more then readTimes rest else .ok ([], rest)
      let ((), rest) ← endList rest
      .ok (⟨hard, soft, launches⟩, rest)
    else tooShort 1 rest
  else tooShort 0 rest

/-- Reads the output of an analyzer. -/
def read (document : List UInt8) : Except Fault EventCounts := do
  let bytes ← nextValue document
  let (counts, rest) ← (
    if startsWith '[' bytes then readItems (bytes.drop 1)
    else if startsWith '\x7b' bytes then readMembers bytes.length true {} (bytes.drop 1)
    else wrongType expected bytes)
  endDocument rest
  .ok counts

end EventCounts

end StartupBench
