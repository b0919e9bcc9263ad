import StartupBench.Text.Blank

/-!
# How a pattern is read, and how deep it goes

Switches in a pattern change how what follows them is read.  Three of them bear on what can be
read: whether letters stand for both of their cases, whether characters or bytes are compared, and
whether blanks are only there for the eye.

Patterns may be put into each other only so far, and the depth is counted in full: a row of things
that stand side by side is a step deeper than the things in it, unless there is only one.
-/

namespace StartupBench.Log.Pattern

/-- What switches change about the reading of a pattern. -/
structure Mode where
  /-- Whether a letter stands for both of its cases. -/
  ignoreCase : Bool := false
  /-- Whether characters are compared, and not bytes. -/
  unicode : Bool := true
  /-- Whether blanks and remarks stand for nothing. -/
  spaced : Bool := false
  deriving DecidableEq, Repr

/-- The rest behind blanks and remarks, which go from a hash to the end of the line. -/
def afterSpace : (inRemark : Bool) → List Char → List Char
  | _, [] => []
  | true, c :: rest => afterSpace (c != '\n') rest
  | false, c :: rest =>
    if c = '#' then afterSpace true rest
    else if Text.isBlank c then afterSpace false rest
    else c :: rest

namespace Mode

/-- The rest behind what stands for nothing. -/
def skip (m : Mode) (rest : List Char) : List Char :=
  if m.spaced then afterSpace false rest else rest

/-- The character ahead, as far as it can be told without reading on: blanks are passed over, but
of a remark only the hash. -/
def ahead? (m : Mode) (rest : List Char) : Option Char :=
  if m.spaced then
    match rest.dropWhile Text.isBlank with
    | '#' :: remark => (remark.dropWhile Text.isBlank).head?.or rest.head?
    | other => other.head?.or rest.head?
  else rest.head?

/-- Whether a character can stand for itself.  The cases of letters are known of bytes only. -/
def allows (m : Mode) : Bool := !(m.unicode && m.ignoreCase)

/-- Whether a character can stand for itself in a class: a class of bytes has those of ASCII. -/
def allowsInClass (m : Mode) (c : Char) : Bool :=
  if m.unicode then !m.ignoreCase else c.toNat < 0x80

/-- Turns a switch on or off.  Some only change what fits. -/
def switch? (m : Mode) (on : Bool) : Char → Option Mode
  | 'i' => some { m with ignoreCase := on }
  | 'u' => some { m with unicode := on }
  | 'x' => some { m with spaced := on }
  | 'm' | 's' | 'U' | 'R' => some m
  | _ => none

end Mode

/-! ## Depth -/

/-- How deep patterns may be put into each other. -/
def deepest : Nat := 250

/-- Things side by side. -/
structure Tally where
  count : Nat := 0
  /-- How deep the deepest of them goes. -/
  inside : Nat := 0
  deriving DecidableEq, Repr

namespace Tally

/-- One more thing, of some depth. -/
def add (t : Tally) (depth : Nat) : Tally := ⟨t.count + 1, max t.inside depth⟩

/-- The depth of all of them.  One alone is no row. -/
def depth (t : Tally) : Nat := if t.count ≤ 1 then t.inside else t.inside + 1

end Tally

end StartupBench.Log.Pattern
