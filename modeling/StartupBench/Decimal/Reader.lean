import StartupBench.Decimal.Shortest

/-!
# Reading a number

A number is an optional sign followed by `inf`, `infinity` or `nan` in any case, or by digits with
an optional point and an optional exponent.  At least one digit stands beside the point, and the
whole text has to be used.  The value is the double nearest to the decimal written.
-/

namespace StartupBench.Decimal

/-- The value of an ASCII digit. -/
def digitValue? (c : Char) : Option Nat :=
  if '0' ≤ c ∧ c ≤ '9' then some (c.toNat - '0'.toNat) else none

/-- The digits at the front of a text and the rest. -/
def takeDigits : List Char → List Nat × List Char
  | [] => ([], [])
  | c :: rest =>
    match digitValue? c with
    | some d =>
      let (ds, after) := takeDigits rest
      (d :: ds, after)
    | none => ([], c :: rest)

/-- The sign at the front of a text and the rest. -/
def takeSign : List Char → Bool × List Char
  | '-' :: rest => (true, rest)
  | '+' :: rest => (false, rest)
  | rest => (false, rest)

/-- An ASCII letter in lower case. -/
def lowerAscii (c : Char) : Char :=
  if 'A' ≤ c ∧ c ≤ 'Z' then Char.ofNat (c.toNat + 32) else c

/-- An exponent that fills the rest of the text; none written means zero. -/
def exponent? : List Char → Option Int
  | [] => some 0
  | e :: rest =>
    if lowerAscii e = 'e' then
      let (negative, rest) := takeSign rest
      match takeDigits rest with
      | ([], _) => none
      | (_, _ :: _) => none
      | (digits, []) =>
        let n : Int := ofDigits digits
        some (if negative then -n else n)
    else none

/-- The double nearest to `± digits · 10 ^ e`.  Far outside the range of doubles the answer is
known without computing the power. -/
def toDouble (negative : Bool) (digits : List Nat) (e : Int) : Float :=
  let n := ofDigits digits
  if n = 0 then Binary64.nearest negative 0 1
  else
    let size := (digitCount n : Int) + e
    if size > 310 then Binary64.infinity negative
    else if size < -330 then Binary64.nearest negative 0 1
    else if e < 0 then Binary64.nearest negative n (Nat.pow 10 e.natAbs)
    else Binary64.nearest negative (n * Nat.pow 10 e.natAbs) 1

/-- Reads the digits of a number. -/
def readDigits? (negative : Bool) (text : List Char) : Option Float :=
  let (whole, rest) := takeDigits text
  let (places, rest) :=
    match rest with
    | '.' :: after => takeDigits after
    | _ => ([], rest)
  if whole.isEmpty && places.isEmpty then none
  else
    (exponent? rest).map fun e =>
      toDouble negative (whole ++ places) (e - (places.length : Int))

/-- Reads a number. -/
def read? (text : String) : Option Float :=
  let (negative, rest) := takeSign text.toList
  let word := String.ofList (rest.map lowerAscii)
  if word = "inf" ∨ word = "infinity" then some (Binary64.infinity negative)
  else if word = "nan" then some (Float.ofBits 0x7ff8000000000000)
  else readDigits? negative rest

end StartupBench.Decimal
