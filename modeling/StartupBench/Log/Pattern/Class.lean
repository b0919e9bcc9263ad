import StartupBench.Log.Pattern.Escape

/-!
# Classes of a pattern

A class is written in brackets: characters, ranges of them, named sets, and classes in it, side by
side, and between such rows the signs for what is in both, in the first only, or in one only.  It
is read from front to back with the classes around it on a stack.
-/

namespace StartupBench.Log.Pattern

/-- A class that is still open. -/
structure Bracket where
  /-- Whether only dashes have been read: these stand for themselves, and so does a closing bracket
  if there is none. -/
  atFront : Bool := true
  /-- The depth of what stands in front of the last sign between rows. -/
  left : Option Nat := none
  /-- What stands side by side behind it. -/
  row : Tally := {}
  deriving DecidableEq, Repr

namespace Bracket

/-- One more thing in the row. -/
def add (b : Bracket) (depth : Nat) : Bracket := { b with atFront := false, row := b.row.add depth }

/-- A dash at the front. -/
def addDash (b : Bracket) : Bracket := { b with row := b.row.add 0 }

/-- The depth of what has been read. -/
def depth (b : Bracket) : Nat :=
  match b.left with
  | none => b.row.depth
  | some left => max left b.row.depth + 1

/-- A sign between rows: what has been read stands in front of it. -/
def split (b : Bracket) : Bracket := { atFront := false, left := some b.depth }

/-- The class behind an opening bracket.  Characters that are not in a class of bytes may be no
text, so such a class has to say what is in it. -/
def opening? (m : Mode) (rest : List Char) : Option (Bracket × List Char) :=
  match m.skip rest with
  | '^' :: rest => if m.unicode then some ({}, rest) else none
  | rest => some ({}, rest)

end Bracket

/-! ## Things in a class -/

/-- The names of sets. -/
def setNames : List String :=
  ["alnum", "alpha", "ascii", "blank", "cntrl", "digit", "graph", "lower", "print", "punct",
   "space", "upper", "word", "xdigit"]

/-- The rest behind a named set, and whether the set is of what is not in it; none if what stands
behind an opening bracket names no set. -/
def namedSet? : List Char → Option (Bool × List Char)
  | ':' :: rest =>
    let (negated, rest) := match rest with
      | '^' :: rest => (true, rest)
      | rest => (false, rest)
    match rest.span (· != ':') with
    | (name, ':' :: ']' :: rest) =>
      if setNames.contains (String.ofList name) then some (negated, rest) else none
    | _ => none
  | _ => none

/-- One character, or what a backslash writes. -/
def classItem? (m : Mode) : List Char → Option (Escape × List Char)
  | [] => none
  | '\\' :: rest => Escape.read? m rest
  | c :: rest => some (.literal c, rest)

/-- Whether something can stand in a class alone. -/
def Escape.standsInClass (m : Mode) : Escape → Bool
  | literal c => m.allowsInClass c
  | several => true
  | place => false

/-- Whether there can be a range from one thing to another. -/
def Escape.spans (m : Mode) : Escape → Escape → Bool
  | literal first, literal last =>
    first ≤ last && m.allowsInClass first && m.allowsInClass last
  | _, _ => false

/-- The rest behind one thing or a range.  A dash with a closing bracket or another dash ahead
makes no range. -/
def afterItem? (m : Mode) (rest : List Char) : Option (List Char) :=
  (classItem? m rest).bind fun (first, rest) =>
    let alone := if first.standsInClass m then some (m.skip rest) else none
    match m.skip rest with
    | '-' :: rest =>
      if m.ahead? rest = some ']' || m.ahead? rest = some '-' then alone
      else (classItem? m (m.skip rest)).bind fun (last, rest) =>
        if first.spans m last then some rest else none
    | _ => alone

/-! ## The class -/

/-- Whether a character begins a sign between rows, of two of it. -/
def splits (c : Char) : Bool := c = '&' || c = '-' || c = '~'

/-- The depth of a class and the rest behind it, read from inside the innermost class that is
open. -/
def readItems? (m : Mode) :
    (fuel : Nat) → (outer : List Bracket) → (inner : Bracket) → List Char →
      Option (Nat × List Char)
  | 0, _, _, _ => none
  | fuel + 1, outer, inner, rest =>
    match m.skip rest with
    | [] => none
    | c :: rest =>
      if c = '-' && inner.atFront then
        if m.allowsInClass c then readItems? m fuel outer inner.addDash rest else none
      else if c = ']' && inner.atFront && inner.row.count = 0 then
        if m.allowsInClass c then readItems? m fuel outer (inner.add 0) rest else none
      else if c = ']' then
        match outer with
        | [] => some (inner.depth + 1, rest)
        | next :: outer => readItems? m fuel outer (next.add (inner.depth + 1)) rest
      else if c = '[' then
        match namedSet? rest with
        | some (negated, rest) =>
          if (if m.unicode then m.ignoreCase else negated) then none
          else readItems? m fuel outer (inner.add 0) rest
        | none => (Bracket.opening? m rest).bind fun (b, rest) =>
          readItems? m fuel (inner :: outer) b rest
      else if splits c && rest.head? = some c then
        readItems? m fuel outer inner.split (rest.drop 1)
      else (afterItem? m (c :: rest)).bind (readItems? m fuel outer (inner.add 0))

/-- The depth of a class and the rest behind it, read from behind its opening bracket. -/
def readClass? (m : Mode) (rest : List Char) : Option (Nat × List Char) :=
  (Bracket.opening? m rest).bind fun (b, behind) => readItems? m (rest.length + 1) [] b behind

end StartupBench.Log.Pattern
