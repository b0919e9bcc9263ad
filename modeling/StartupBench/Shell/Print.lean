import StartupBench.Shell.Session

/-!
# Printing in a shell script

What follows a backslash in a text to be printed, and formats whose places are filled with
arguments.
-/

namespace StartupBench.Shell

namespace Format

/-- The byte of a character of one byte. -/
def byteOf (c : Char) : UInt8 := c.toNat.toUInt8

/-- Whether a byte is a digit to the base of eight. -/
def isOctal (b : UInt8) : Bool := 0x30 ≤ b && b ≤ 0x37

/-- The number that at most so many digits to the base of eight write, and the rest. -/
def takeOctal : (most : Nat) → (value : Nat) → List UInt8 → Nat × List UInt8
  | most + 1, value, b :: rest =>
    if isOctal b then takeOctal most (value * 8 + (b - 0x30).toNat) rest else (value, b :: rest)
  | _, value, rest => (value, rest)

/-- What a letter stands for behind a backslash. -/
def letter? (b : UInt8) : Option UInt8 :=
  [('a', 0x07), ('b', 0x08), ('f', 0x0C), ('n', 0x0A), ('r', 0x0D), ('t', 0x09), ('v', 0x0B),
   ('\\', 0x5C)].lookup (Char.ofNat b.toNat)

/-- A text with what follows its backslashes replaced, and whether it says that nothing more is to
be printed.  `zero` says whether a zero stands in front of the digits of a byte. -/
def unescape (zero : Bool) : (fuel : Nat) → List UInt8 → List UInt8 × Bool
  | 0, _ => ([], false)
  | _, [] => ([], false)
  | fuel + 1, 0x5C :: b :: rest =>
    if b == byteOf 'c' && zero then ([], true)
    else if isOctal b then
      let digits := if zero && b == 0x30 then rest else b :: rest
      let (value, rest) := takeOctal 3 0 digits
      let (text, stopped) := unescape zero fuel rest
      (value.toUInt8 :: text, stopped)
    else
      let (text, stopped) := unescape zero fuel rest
      match letter? b with
      | some c => (c :: text, stopped)
      | none => (0x5C :: b :: text, stopped)
  | fuel + 1, b :: rest =>
    let (text, stopped) := unescape zero fuel rest
    (b :: text, stopped)

/-- A place in a format. -/
structure Place where
  left : Bool := false
  zeros : Bool := false
  plus : Bool := false
  blank : Bool := false
  width : Nat := 0
  precision : Option Nat := none
  kind : Char

/-- The number that digits write, and the rest. -/
def takeNumber (bytes : List UInt8) : Nat × List UInt8 :=
  let (digits, rest) := bytes.span fun b => 0x30 ≤ b && b ≤ 0x39
  (digits.foldl (fun n b => n * 10 + (b - 0x30).toNat) 0, rest)

/-- Reads a place behind its percent sign. -/
def readPlace? (bytes : List UInt8) : Option (Place × List UInt8) :=
  let isFlag (b : UInt8) : Bool := "-+ 0#".toList.contains (Char.ofNat b.toNat)
  let (flags, rest) := bytes.span isFlag
  let (width, rest) := takeNumber rest
  let (precision, rest) := match rest with
    | 0x2E :: rest =>
      let (n, rest) := takeNumber rest
      (some n, rest)
    | _ => (none, rest)
  match rest with
  | kind :: rest =>
    let has (flag : UInt8) : Bool := flags.contains flag
    some (⟨has 0x2D, has 0x30, has 0x2B, has 0x20, width, precision, Char.ofNat kind.toNat⟩, rest)
  | [] => none

/-- A text in the width of a place. -/
def pad (p : Place) (text : List UInt8) : List UInt8 :=
  let blanks := List.replicate (p.width - text.length) (0x20 : UInt8)
  if p.left then text ++ blanks else blanks ++ text

/-- A number as a place shows it. -/
def showNumber (p : Place) (n : Int) : List UInt8 :=
  let size := n.natAbs
  let digits := match p.kind with
    | 'x' => String.ofList (Nat.toDigits 16 size)
    | 'X' => (String.ofList (Nat.toDigits 16 size)).toUpper
    | 'o' => String.ofList (Nat.toDigits 8 size)
    | _ => toString size
  let sign := if n < 0 then "-" else if p.plus then "+" else if p.blank then " " else ""
  let zeros (count : Nat) : String := String.ofList (List.replicate count '0')
  let digits := match p.precision with
    | some least => zeros (least - digits.length) ++ digits
    | none =>
      if p.zeros && !p.left then zeros (p.width - sign.length - digits.length) ++ digits
      else digits
  pad p (Utf8.encode (sign ++ digits))

/-- What fills a place, and whether that goes well and is the last that is printed. -/
def fill (p : Place) (argument : Option RawText) : Option (List UInt8 × Bool) × Option String :=
  let bytes := (argument.getD "").bytes
  let cut (text : List UInt8) : List UInt8 :=
    match p.precision with
    | some most => text.take most
    | none => text
  match p.kind with
  | 's' => (some (pad p (cut bytes), false), none)
  | 'b' =>
    let (text, stopped) := unescape true (bytes.length + 1) bytes
    (some (pad p (cut text), stopped), none)
  | 'c' => (some (pad p (bytes.take 1), false), none)
  | 'd' | 'i' | 'u' | 'x' | 'X' | 'o' =>
    let text := (argument.getD "0").display
    match text.toInt? with
    | some n => (some (showNumber p n, false), none)
    | none =>
      let (digits, _) := takeNumber bytes
      (some (showNumber p digits, false),
        some (text ++ if text.toList.head?.any Char.isDigit then ": not completely converted"
          else ": expected numeric value"))
  | _ => (none, none)

/-- What printing a format makes. -/
structure Printed where
  text : List UInt8 := []
  left : List RawText
  problems : List String := []
  /-- Whether the format itself is wrong. -/
  broken : Bool := false
  /-- Whether nothing more is to be printed. -/
  stopped : Bool := false

/-- A format with its places filled from arguments. -/
def once : (fuel : Nat) → List UInt8 → Printed → Printed
  | 0, _, p => p
  | _, [], p => p
  | fuel + 1, 0x25 :: 0x25 :: rest, p => once fuel rest { p with text := p.text ++ [0x25] }
  | fuel + 1, 0x25 :: rest, p =>
    match readPlace? rest with
    | none => { p with problems := p.problems ++ ["missing format character"], broken := true }
    | some (place, rest) =>
      match fill place p.left.head? with
      | (none, _) =>
        { p with
          problems := p.problems ++ ["%" ++ String.singleton place.kind ++ ": invalid directive"]
          broken := true }
      | (some (text, stopped), problem) =>
        let p := { p with
          text := p.text ++ text, left := p.left.tail
          problems := p.problems ++ problem.toList, stopped }
        if stopped then p else once fuel rest p
  | fuel + 1, b :: rest, p => once fuel rest { p with text := p.text ++ [b] }

/-- A format that is used until no arguments are left. -/
def all (format : List UInt8) : (fuel : Nat) → Printed → Printed
  | 0, p => p
  | fuel + 1, p =>
    let next := once (format.length + 1) format p
    let done := next.stopped || next.broken || next.left.isEmpty
    if done || next.left.length = p.left.length then next else all format fuel next

end Format

/-- Print something for a command of the shell. -/
def printFrom (name : String) (bytes : List UInt8) : Run Nat := do
  if bytes.isEmpty then pure 0
  else if ← print 1 bytes then pure 0
  else
    complain (name ++ ": " ++ name ++ ": I/O error")
    pure 1

/-- Print words. -/
def echo (words : List RawText) : Run Nat := do
  let (bare, words) := match words with
    | w :: rest => if w = "-n" then (true, rest) else (false, words)
    | [] => (false, [])
  let bytes := ((words.map (·.bytes)).intersperse [0x20]).flatten
  let (text, stopped) := Format.unescape true (bytes.length + 1) bytes
  printFrom "echo" (text ++ if bare || stopped then [] else [0x0A])

/-- Print a format. -/
def printFormat (words : List RawText) : Run Nat := do
  let words := match words with
    | w :: rest => if w = "--" then rest else words
    | [] => []
  match words with
  | [] =>
    complain "printf: usage: printf format [arg ...]"
    pure 2
  | format :: arguments =>
    let (pattern, _) := Format.unescape false (format.bytes.length + 1) format.bytes
    let p := Format.all pattern (arguments.length + 1) { left := arguments }
    let printed ← printFrom "printf" p.text
    for problem in p.problems do
      complain ("printf: " ++ problem)
    pure (if p.broken then 2 else if p.problems.isEmpty then printed else 1)

end StartupBench.Shell
