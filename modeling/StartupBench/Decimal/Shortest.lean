import StartupBench.Decimal.Binary64

/-!
# The shortest decimal that reads back

Every positive double is the nearest one to a whole interval of reals.  `Decimal.shortest` gives a
decimal of that interval with the fewest digits and, among those, the nearest to the double.  For
each number of digits from one upward it tries the double's two neighbours on the grid of decimals
with that many digits; seventeen digits always suffice.

What happens when both neighbours are equally near is a matter of the format (`Tie`).
-/

namespace StartupBench

/-- A positive decimal `0.d₁d₂…dₙ · 10 ^ point`, its digits from the most significant one. -/
structure Decimal where
  digits : List Nat
  point : Int
  deriving DecidableEq, Repr

namespace Decimal

/-- Which of two equally near neighbours is taken. -/
inductive Tie where
  | up
  | even
  deriving DecidableEq, Repr

/-! ## Digits of a natural number -/

/-- Digits of `n` from the least significant one, none for zero. -/
def digitsRev (n : Nat) : List Nat :=
  if n = 0 then [] else n % 10 :: digitsRev (n / 10)
termination_by n

/-- Digits of `n` from the most significant one, none for zero. -/
def digitsOf (n : Nat) : List Nat := (digitsRev n).reverse

/-- How many digits `n` has; zero has none. -/
def digitCount (n : Nat) : Nat := (digitsRev n).length

/-- The number with these digits. -/
def ofDigits (digits : List Nat) : Nat := digits.foldl (fun n d => 10 * n + d) 0

/-! ## The grid -/

/-- The position of the point of `num / den`, for which
`10 ^ (point - 1) ≤ num / den < 10 ^ point`. -/
def pointOf (num den : Nat) : Int :=
  if den ≤ num then digitCount (num / den)
  else 1 - (digitCount ((den - 1) / num) : Int)

/-- The quotient `num / den` in units of `10 ^ e`. -/
def inUnits (num den : Nat) (e : Int) : Nat × Nat :=
  if e < 0 then (num * Nat.pow 10 e.natAbs, den) else (num, den * Nat.pow 10 e.natAbs)

/-- The interval of reals that round to one double, as `low / den` to `high / den`. -/
structure Interval where
  low : Nat
  high : Nat
  den : Nat
  /-- Whether the two ends belong to it. -/
  closed : Bool

/-- Whether `k · 10 ^ e` lies in the interval. -/
def Interval.holds (i : Interval) (k : Nat) (e : Int) : Bool :=
  let (n, d) := if e < 0 then (k, Nat.pow 10 e.natAbs) else (k * Nat.pow 10 e.natAbs, 1)
  let left := i.low * d
  let mid := n * i.den
  let right := i.high * d
  if i.closed then left ≤ mid && mid ≤ right else left < mid && mid < right

/-- The grid point in units of `10 ^ e` that stands for `num / den`, if one of its two neighbours
lies in the interval. -/
def neighbour? (tie : Tie) (i : Interval) (num den : Nat) (e : Int) : Option Nat :=
  let (n, d) := inUnits num den e
  let below := n / d
  let rest := n % d
  match i.holds below e, i.holds (below + 1) e with
  | false, false => none
  | true, false => some below
  | false, true => some (below + 1)
  | true, true =>
    if 2 * rest < d then some below
    else if d < 2 * rest then some (below + 1)
    else match tie with
      | .up => some (below + 1)
      | .even => some (below + below % 2)

/-- Searches the grids with `count`, `count + 1`, … digits, `fuel` of them. -/
def search (tie : Tie) (i : Interval) (num den : Nat) (point : Int) : Nat → Nat → Nat × Int
  | _, 0 => (0, 0)
  | count, fuel + 1 =>
    let e := point - (count : Int)
    match neighbour? tie i num den e with
    | some k => (k, e)
    | none => search tie i num den point (count + 1) fuel

/-- Drops the zeros at the end of a list of digits. -/
def stripZeros (digits : List Nat) : List Nat :=
  (digits.reverse.dropWhile (· == 0)).reverse

/-- The interval of the double `m · 2 ^ q`.  The gap below is half as wide as the one above when
`m` is the least mantissa of its exponent. -/
def intervalOf (m : Nat) (q : Int) : Interval :=
  let (num, den) := Binary64.ratio 1 (q - 2)
  let below := if m = Nat.pow 2 52 then 1 else 2
  ⟨(4 * m - below) * num, (4 * m + 2) * num, den, m % 2 == 0⟩

/-- The shortest decimal that reads back as `m · 2 ^ q`, for positive `m`. -/
def shortest (tie : Tie) (m : Nat) (q : Int) : Decimal :=
  let (num, den) := Binary64.ratio m q
  let (k, e) := search tie (intervalOf m q) num den (pointOf num den) 1 17
  let digits := digitsOf k
  ⟨stripZeros digits, digits.length + e⟩

end Decimal

end StartupBench
