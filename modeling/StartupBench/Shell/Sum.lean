import StartupBench.Shell.Word

/-!
# Sums of a shell script

Whole numbers of 64 bits, variables, and the signs between them.  An assignment inside a sum is
remembered; a variable that was not assigned there has the value that the script gave it.
-/

namespace StartupBench.Shell

namespace Sum

/-- A token of a sum. -/
inductive Token where
  | number (n : Int)
  | name (text : String)
  | sign (text : String)
  deriving DecidableEq, Repr

/-- The signs, the longest first. -/
def signs : List String :=
  ["<<=", ">>=", "<<", ">>", "<=", ">=", "==", "!=", "&&", "||", "+=", "-=", "*=", "/=", "%=",
   "&=", "|=", "^=", "+", "-", "*", "/", "%", "<", ">", "=", "!", "~", "&", "^", "|", "?", ":",
   "(", ")"]

/-- The value of a digit; sixteen for anything else. -/
def digit (c : Char) : Nat :=
  if c.isDigit then c.toNat - '0'.toNat
  else if 'a' ≤ c && c ≤ 'f' then c.toNat - 'a'.toNat + 10
  else if 'A' ≤ c && c ≤ 'F' then c.toNat - 'A'.toNat + 10
  else 16

/-- The number that the digits at the front write, at most the greatest of 64 bits, and the rest. -/
def takeDigits (base : Nat) (text : List Char) : Int × List Char :=
  let (digits, rest) := text.span fun c => digit c < base
  (min (digits.foldl (fun n c => n * base + digit c) 0) (Nat.pow 2 63 - 1), rest)

/-- The number at the front of a text, and the rest: behind a zero to the base of eight, behind a
zero and an x to the base of sixteen. -/
def takeNumber (text : List Char) : Int × List Char :=
  match text with
  | '0' :: x :: c :: rest =>
    if (x = 'x' || x = 'X') && digit c < 16 then takeDigits 16 (c :: rest) else takeDigits 8 text
  | '0' :: _ => takeDigits 8 text
  | _ => takeDigits 10 text

/-- The number that a text writes. -/
def number? (text : List Char) : Option Int :=
  if text.isEmpty then none
  else match takeNumber text with
    | (n, []) => some n
    | _ => none

/-- The number that the value of a variable writes; an empty one is zero. -/
def value? (text : String) : Option Int :=
  let text := text.toList.dropWhile fun c => c = ' ' || c = '\t' || c = '\n'
  let text := (text.reverse.dropWhile fun c => c = ' ' || c = '\t' || c = '\n').reverse
  match text with
  | [] => some 0
  | '-' :: rest => (number? rest).map (- ·)
  | '+' :: rest => number? rest
  | _ => number? text

/-- The tokens of a sum.  A character without a meaning is a sign that fits nowhere. -/
def tokens : (fuel : Nat) → List Char → List Token
  | 0, _ => []
  | _, [] => []
  | fuel + 1, c :: rest =>
    if c = ' ' || c = '\t' || c = '\n' then tokens fuel rest
    else if c.isDigit then
      let (n, rest) := takeNumber (c :: rest)
      .number n :: tokens fuel rest
    else if beginsName c then
      let (name, rest) := (c :: rest).span continuesName
      .name (String.ofList name) :: tokens fuel rest
    else
      match signs.find? fun sign => sign.toList.isPrefixOf (c :: rest) with
      | some sign => .sign sign :: tokens fuel ((c :: rest).drop sign.length)
      | none => .sign (String.singleton c) :: tokens fuel rest

/-- A number in 64 bits. -/
def wrap (n : Int) : Int := (Int64.ofInt n).toInt

/-- How strongly a sign binds. -/
def strength? (sign : String) : Option Nat :=
  match sign with
  | "*" | "/" | "%" => some 10
  | "+" | "-" => some 9
  | "<<" | ">>" => some 8
  | "<" | "<=" | ">" | ">=" => some 7
  | "==" | "!=" => some 6
  | "&" => some 5
  | "^" => some 4
  | "|" => some 3
  | "&&" => some 2
  | "||" => some 1
  | _ => none

/-- Why a sum has no value. -/
inductive Problem where
  /-- The value of a variable is no number. -/
  | noNumber (value : String)
  | mistake (text : String)
  deriving DecidableEq, Repr

/-- The message about a sum without a value. -/
def Problem.message (expression : String) : Problem → String
  | .noNumber value => "Illegal number: " ++ value
  | .mistake text => "arithmetic expression: " ++ text ++ ": \"" ++ expression ++ "\""

/-- What a sign makes of two numbers. -/
def combine (sign : String) (a b : Int) : Except Problem Int :=
  let truth (p : Bool) : Except Problem Int := .ok (if p then 1 else 0)
  let bits (f : UInt64 → UInt64 → UInt64) : Except Problem Int :=
    .ok ((f (Int64.ofInt a).toUInt64 (Int64.ofInt b).toUInt64).toInt64.toInt)
  match sign with
  | "*" => .ok (wrap (a * b))
  | "/" => if b = 0 then .error (.mistake "division by zero") else .ok (wrap (a.tdiv b))
  | "%" => if b = 0 then .error (.mistake "division by zero") else .ok (wrap (a.tmod b))
  | "+" => .ok (wrap (a + b))
  | "-" => .ok (wrap (a - b))
  | "<<" => bits fun x y => x <<< y
  | ">>" => .ok ((Int64.ofInt a >>> Int64.ofInt b).toInt)
  | "<" => truth (a < b)
  | "<=" => truth (a ≤ b)
  | ">" => truth (a > b)
  | ">=" => truth (a ≥ b)
  | "==" => truth (a = b)
  | "!=" => truth (a ≠ b)
  | "&" => bits fun x y => x &&& y
  | "^" => bits fun x y => x ^^^ y
  | "|" => bits fun x y => x ||| y
  | "&&" => truth (a ≠ 0 && b ≠ 0)
  | _ => truth (a ≠ 0 || b ≠ 0)

/-- The value of a sum, the tokens behind it and the variables that it assigns. -/
abbrev Result := Except Problem (Int × List Token × List (String × Int))

/-- The value of a variable, which has some text outside of the sum. -/
def lookup (outside : String → String) (inside : List (String × Int)) (name : String) :
    Except Problem Int :=
  match inside.lookup name with
  | some n => .ok n
  | none =>
    match value? (outside name) with
    | some n => .ok n
    | none => .error (.noNumber (outside name))

mutual

/-- The value of a sum of signs that bind at least so strongly. -/
def value (outside : String → String) :
    (fuel : Nat) → (least : Nat) → List Token → List (String × Int) → Result
  | 0, _, _, _ => .error (.mistake "expecting primary")
  | fuel + 1, least, ts, inside => do
    let (a, ts, inside) ← primary outside fuel ts inside
    further outside fuel least a ts inside

/-- The value of a sum of which the first part is known. -/
def further (outside : String → String) :
    (fuel : Nat) → (least : Nat) → Int → List Token → List (String × Int) → Result
  | 0, _, _, _, _ => .error (.mistake "expecting primary")
  | fuel + 1, least, a, ts, inside => do
    match ts with
    | .sign "?" :: rest =>
      if least ≠ 0 then pure (a, ts, inside)
      else
        let (b, rest, inside) ← value outside fuel 0 rest inside
        match rest with
        | .sign ":" :: rest =>
          let (c, rest, inside) ← value outside fuel 0 rest inside
          pure (if a ≠ 0 then b else c, rest, inside)
        | _ => .error (.mistake "expecting ':'")
    | .sign sign :: rest =>
      match strength? sign with
      | some strength =>
        if strength < least then pure (a, ts, inside)
        else
          let (b, rest, inside) ← value outside fuel (strength + 1) rest inside
          further outside fuel least (← combine sign a b) rest inside
      | none => pure (a, ts, inside)
    | _ => pure (a, ts, inside)

/-- The value of what stands between signs. -/
def primary (outside : String → String) :
    (fuel : Nat) → List Token → List (String × Int) → Result
  | 0, _, _ => .error (.mistake "expecting primary")
  | fuel + 1, ts, inside => do
    match ts with
    | .number n :: rest => pure (n, rest, inside)
    | .name x :: .sign "=" :: rest =>
      let (n, rest, inside) ← value outside fuel 0 rest inside
      pure (n, rest, (x, n) :: inside)
    | .name x :: .sign sign :: rest =>
      let assigning := sign.endsWith "=" && (strength? (sign.dropEnd 1).toString).isSome &&
        (strength? sign).isNone
      if assigning then
        let (n, rest, inside) ← value outside fuel 0 rest inside
        let n ← combine (sign.dropEnd 1).toString (← lookup outside inside x) n
        pure (n, rest, (x, n) :: inside)
      else pure (← lookup outside inside x, .sign sign :: rest, inside)
    | .name x :: rest => pure (← lookup outside inside x, rest, inside)
    | .sign "(" :: rest =>
      let (n, rest, inside) ← value outside fuel 0 rest inside
      match rest with
      | .sign ")" :: rest => pure (n, rest, inside)
      | _ => .error (.mistake "expecting ')'")
    | .sign "-" :: rest =>
      let (n, rest, inside) ← primary outside fuel rest inside
      pure (wrap (-n), rest, inside)
    | .sign "+" :: rest => primary outside fuel rest inside
    | .sign "!" :: rest =>
      let (n, rest, inside) ← primary outside fuel rest inside
      pure (if n = 0 then 1 else 0, rest, inside)
    | .sign "~" :: rest =>
      let (n, rest, inside) ← primary outside fuel rest inside
      pure (-n - 1, rest, inside)
    | _ => .error (.mistake "expecting primary")

end

/-- The value of a whole sum and the variables that it assigns, the last one first. -/
def evaluate (outside : String → String) (text : String) :
    Except Problem (Int × List (String × Int)) := do
  let ts := tokens (text.length + 1) text.toList
  let (n, rest, inside) ← value outside (4 * ts.length + 4) 0 ts []
  if rest.isEmpty then pure (n, inside) else .error (.mistake "expecting EOF")

end Sum

end StartupBench.Shell
