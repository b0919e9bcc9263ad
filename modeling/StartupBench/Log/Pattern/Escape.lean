import StartupBench.Log.Pattern.Mode

/-!
# What a backslash writes

Behind a backslash a sign of the pattern stands for itself, a letter for a character that cannot be
seen, for a set of characters, or for a place in the text, and digits for the character of that
number.  There are no tables of characters to look anything up in: a set of characters, or the edge
of a word, is known of bytes only, and a general category never.
-/

namespace StartupBench.Log.Pattern

/-- What a backslash writes. -/
inductive Escape where
  | literal (c : Char)
  /-- One of several characters. -/
  | several
  /-- A place between characters. -/
  | place
  deriving DecidableEq, Repr

/-- The worth of a hexadecimal digit. -/
def hexDigit? (c : Char) : Option Nat :=
  if '0' ≤ c && c ≤ '9' then some (c.toNat - '0'.toNat)
  else if 'a' ≤ c && c ≤ 'f' then some (c.toNat - 'a'.toNat + 10)
  else if 'A' ≤ c && c ≤ 'F' then some (c.toNat - 'A'.toNat + 10)
  else none

/-- The number that so many hexadecimal digits write behind those of `seen`, and the rest. -/
def hexNumber? (m : Mode) : (count : Nat) → (seen : Nat) → List Char → Option (Nat × List Char)
  | 0, seen, rest => some (seen, rest)
  | count + 1, seen, rest =>
    match m.skip rest with
    | c :: rest => (hexDigit? c).bind fun d => hexNumber? m count (seen * 16 + d) rest
    | [] => none

/-- The character with a number of so many hexadecimal digits, and the rest. -/
def hexLiteral? (m : Mode) (count : Nat) (rest : List Char) : Option (Escape × List Char) :=
  (hexNumber? m count 0 rest).bind fun (n, rest) =>
    if n.isValidChar then some (.literal (Char.ofNat n), rest) else none

namespace Escape

/-- The character that a letter stands for. -/
def unseen? : Char → Option Char
  | 'a' => some '\x07'
  | 'f' => some '\x0C'
  | 't' => some '\t'
  | 'n' => some '\n'
  | 'r' => some '\r'
  | 'v' => some '\x0B'
  | _ => none

/-- Reads what stands behind a backslash. -/
def read? (m : Mode) : List Char → Option (Escape × List Char)
  | [] => none
  | 'x' :: rest =>
    (hexLiteral? m 2 rest).filter fun (e, _) =>
      m.unicode || match e with
        | literal c => c.toNat < 0x80
        | _ => true
  | 'u' :: rest => hexLiteral? m 4 rest
  | 'U' :: rest => hexLiteral? m 8 rest
  | c :: rest =>
    match unseen? c with
    | some unseen => some (literal unseen, rest)
    | none =>
      if c = 'A' || c = 'z' then some (place, rest)
      else if c = 'b' || c = 'B' || c = '<' || c = '>' then
        if m.unicode then none else some (place, rest)
      else if c = 'd' || c = 's' || c = 'w' then
        if m.unicode then none else some (several, rest)
      else if c.toNat < 0x80 && !c.isAlphanum then some (literal c, rest)
      else none

end Escape

end StartupBench.Log.Pattern
