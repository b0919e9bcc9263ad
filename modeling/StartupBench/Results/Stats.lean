/-!
# Statistics of samples

Mean, standard deviation and extremes.  Sums run from the first sample to the last and start at
negative zero, the one number that leaves every summand as it is.  The standard deviation divides
by one less than the number of samples.  The extremes leave out samples that are no numbers.
-/

namespace StartupBench

/-- The statistics of a series. -/
structure Stats where
  count : Nat
  mean : Float
  stdDev : Float
  min : Float
  max : Float

namespace Stats

/-- Infinity. -/
def infinity : Float := 1.0 / 0.0

/-- The sum, from left to right. -/
def sum (samples : List Float) : Float := samples.foldl (· + ·) (-0.0)

/-- The lesser of two, where `x` is left out if it is no number. -/
def lesser (best x : Float) : Float := if x < best then x else best

/-- The greater of two, where `x` is left out if it is no number. -/
def greater (best x : Float) : Float := if best < x then x else best

/-- The statistics of samples; all zero if there are none. -/
def ofSamples (samples : List Float) : Stats :=
  if samples.isEmpty then ⟨0, 0, 0, 0, 0⟩
  else
    let n := Float.ofNat samples.length
    let mean := sum samples / n
    let squares := samples.map fun s => (s - mean) * (s - mean)
    { count := samples.length
      mean
      stdDev := if 1 < samples.length then (sum squares / (n - 1.0)).sqrt else 0.0
      min := samples.foldl lesser infinity
      max := samples.foldl greater (-infinity) }

end Stats

end StartupBench
