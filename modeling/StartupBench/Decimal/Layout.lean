import StartupBench.Decimal.Shortest

/-!
# Numbers as text

Three ways to write a double with its shortest digits, and one with a fixed number of places:

* `Decimal.plain`: never an exponent, no point in a whole number;
* `Decimal.data`: the form of the JSON report, with an exponent far from one;
* `Decimal.detailed`: the form inside logged values, with at least one place;
* `Decimal.fixed`: so many places, rounded on the exact value, a half to the even neighbour.
-/

namespace StartupBench.Decimal

/-- A digit as a character. -/
def digitChar (d : Nat) : Char := Char.ofNat ('0'.toNat + d)

/-- Digits as text. -/
def digitText (digits : List Nat) : String := String.ofList (digits.map digitChar)

/-- So many zeros. -/
def zeros (n : Nat) : String := String.ofList (List.replicate n '0')

/-- The text in front of a number. -/
def signText (negative : Bool) : String := if negative then "-" else ""

/-! ## Positional and scientific notation -/

/-- Positional notation; `whole` is what follows a number without places. -/
def positional (d : Decimal) (whole : String) : String :=
  let n := d.digits.length
  if d.point ≤ 0 then "0." ++ zeros d.point.natAbs ++ digitText d.digits
  else if (n : Int) ≤ d.point then digitText d.digits ++ zeros (d.point.toNat - n) ++ whole
  else
    digitText (d.digits.take d.point.toNat) ++ "." ++ digitText (d.digits.drop d.point.toNat)

/-- Scientific notation; `plus` stands before an exponent that is not negative. -/
def scientific (d : Decimal) (plus : String) : String :=
  let e := d.point - 1
  let exponent := if e < 0 then "e-" ++ toString e.natAbs else "e" ++ plus ++ toString e.natAbs
  match d.digits with
  | [] => "0" ++ exponent
  | [x] => digitText [x] ++ exponent
  | x :: rest => digitText [x] ++ "." ++ digitText rest ++ exponent

/-! ## The three styles -/

/-- How a style writes a finite number that is not zero, and zero itself. -/
structure Style where
  tie : Tie
  /-- Positional notation is used for decimals whose point is above this … -/
  above : Option Int
  /-- … and at most this. -/
  upTo : Option Int
  /-- What follows a whole number in positional notation. -/
  whole : String
  /-- The sign of an exponent that is not negative. -/
  plus : String

/-- Writes a finite number. -/
def Style.finite (s : Style) (negative : Bool) (m : Nat) (q : Int) : String :=
  if m = 0 then signText negative ++ "0" ++ s.whole
  else
    let d := shortest s.tie m q
    let low := match s.above with
      | some p => decide (p < d.point)
      | none => true
    let high := match s.upTo with
      | some p => decide (d.point ≤ p)
      | none => true
    signText negative ++ if low && high then d.positional s.whole else d.scientific s.plus

/-- Writes any double. -/
def Style.text (s : Style) (x : Float) : String :=
  match Binary64.ofFloat x with
  | .nan => "NaN"
  | .infinite negative => signText negative ++ "inf"
  | .finite negative m q => s.finite negative m q

/-- Result lines and messages never use an exponent, and a whole number has no point. -/
def plainStyle : Style := ⟨.up, none, none, "", ""⟩

/-- The JSON report has at least one place, and an exponent below `1e-5` and from `1e16` on. -/
def dataStyle : Style := ⟨.even, some (-5), some 16, ".0", "+"⟩

/-- Logged values have at least one place, and an exponent below `1e-4` and from `1e16` on. -/
def detailedStyle : Style := ⟨.up, some (-4), some 16, ".0", ""⟩

/-- A double as it stands in result lines and messages. -/
def plain (x : Float) : String := plainStyle.text x

/-- A finite double as it stands in JSON. -/
def data (x : Float) : String := dataStyle.text x

/-- A double as it stands inside a logged value. -/
def detailed (x : Float) : String := detailedStyle.text x

/-! ## Fixed places -/

/-- A finite number with `places` places, rounded on the exact value. -/
def fixedFinite (places : Nat) (negative : Bool) (m : Nat) (q : Int) : String :=
  let (num, den) := Binary64.ratio m q
  let n := Binary64.divHalfEven (num * Nat.pow 10 places) den
  let text := toString n
  let padded := zeros (places + 1 - text.length) ++ text
  let whole := padded.length - places
  signText negative ++ String.ofList (padded.toList.take whole) ++
    if places = 0 then "" else "." ++ String.ofList (padded.toList.drop whole)

/-- A double with `places` places. -/
def fixed (places : Nat) (x : Float) : String :=
  match Binary64.ofFloat x with
  | .nan => "NaN"
  | .infinite negative => signText negative ++ "inf"
  | .finite negative m q => fixedFinite places negative m q

end StartupBench.Decimal
