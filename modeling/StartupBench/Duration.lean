import StartupBench.Decimal.Layout

/-!
# Lengths of time

A duration is a number of whole seconds below `2 ^ 64` and a number of nanoseconds below one
second.  Reading seconds from a double rounds to the nearest nanosecond on the exact value, a half
to the even neighbour.
-/

namespace StartupBench

/-- A length of time. -/
structure Duration where
  seconds : Nat
  nanos : Nat
  deriving DecidableEq, Repr, Inhabited

namespace Duration

/-- Nanoseconds in a second. -/
def perSecond : Nat := 1000000000

/-- No time at all. -/
def zero : Duration := ⟨0, 0⟩

/-- So many seconds and so many nanoseconds, of which whole seconds are carried over. -/
def ofParts (seconds nanos : Nat) : Duration := ⟨seconds + nanos / perSecond, nanos % perSecond⟩

/-- Whole seconds. -/
def ofSeconds (n : Nat) : Duration := ⟨n, 0⟩

/-- The longest duration there is. -/
def longest : Duration := ⟨Nat.pow 2 64 - 1, perSecond - 1⟩

/-- The duration in nanoseconds. -/
def toNanos (d : Duration) : Nat := d.seconds * perSecond + d.nanos

/-- So many nanoseconds. -/
def ofNanos (n : Nat) : Duration := ⟨n / perSecond, n % perSecond⟩

instance : LE Duration := ⟨fun a b => a.toNanos ≤ b.toNanos⟩

instance (a b : Duration) : Decidable (a ≤ b) :=
  inferInstanceAs (Decidable (a.toNanos ≤ b.toNanos))

/-! ## Text -/

/-- A whole number with the digits of `rest / 10 ^ places` after it, zeros at the end dropped. -/
def withPlaces (whole rest places : Nat) : String :=
  let digits := Decimal.digitsOf rest
  let padded := List.replicate (places - digits.length) 0 ++ digits
  let kept := Decimal.stripZeros padded
  toString whole ++ if kept.isEmpty then "" else "." ++ Decimal.digitText kept

/-- The duration in the largest of the units s, ms, µs and ns in which it is at least one. -/
def text (d : Duration) : String :=
  if 0 < d.seconds then withPlaces d.seconds d.nanos 9 ++ "s"
  else if 1000000 ≤ d.nanos then withPlaces (d.nanos / 1000000) (d.nanos % 1000000) 6 ++ "ms"
  else if 1000 ≤ d.nanos then withPlaces (d.nanos / 1000) (d.nanos % 1000) 3 ++ "µs"
  else toString d.nanos ++ "ns"

/-! ## From a number of seconds -/

/-- Why a number of seconds is no duration. -/
inductive ReadError where
  | negative
  | tooBigOrNaN
  deriving DecidableEq, Repr

/-- The error in words. -/
def ReadError.message : ReadError → String
  | .negative => "cannot convert float seconds to Duration: value is negative"
  | .tooBigOrNaN => "cannot convert float seconds to Duration: value is either too big or NaN"

/-- The duration of so many seconds. -/
def ofFloat (x : Float) : Except ReadError Duration :=
  match Binary64.ofFloat x with
  | .nan => .error .tooBigOrNaN
  | .infinite negative => .error (if negative then .negative else .tooBigOrNaN)
  | .finite negative m q =>
    if m = 0 then .ok zero
    else if negative then .error .negative
    else
      let (num, den) := Binary64.ratio m q
      if Nat.pow 2 64 ≤ num / den then .error .tooBigOrNaN
      else
        let d := ofNanos (Binary64.divHalfEven (num * perSecond) den)
        if Nat.pow 2 64 ≤ d.seconds then .error .tooBigOrNaN else .ok d

end Duration

end StartupBench
