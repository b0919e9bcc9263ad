import StartupBench.Decimal.Reader
import StartupBench.Log.Pattern.Class
import StartupBench.Log.Pattern.Group

/-!
# Patterns for the values of fields

A directive of the log filter may ask for a field with a value that fits a pattern: alternatives
between bars, groups in parentheses, classes in brackets, and signs of repetition behind what they
repeat.  No event is ever compared with a value, for only spans of the log are; but a directive
whose pattern cannot be read makes the whole filter unreadable, so `Pattern.isReadable` says which
can be read.  Nothing of a pattern is kept but how deep it goes.
-/

namespace StartupBench.Log.Pattern

/-! ## Rows and groups -/

/-- Things one behind the other. -/
structure Row where
  /-- All but the last, if that can be repeated. -/
  before : Tally := {}
  /-- The depth of the last, if that can be repeated. -/
  last : Option Nat := none
  deriving DecidableEq, Repr

namespace Row

/-- All that stands in the row. -/
def all (r : Row) : Tally :=
  match r.last with
  | none => r.before
  | some depth => r.before.add depth

/-- One more thing that can be repeated. -/
def push (r : Row) (depth : Nat) : Row := ⟨r.all, some depth⟩

/-- Switches at the end of the row.  They cannot be repeated. -/
def pushSwitches (r : Row) : Row := ⟨r.all.add 0, none⟩

/-- The last thing repeated. -/
def repeated? (r : Row) : Option Row := r.last.map fun depth => ⟨r.before, some (depth + 1)⟩

end Row

/-- A group that is still open, or the pattern itself. -/
structure Group where
  /-- How it is read from here on. -/
  mode : Mode := {}
  /-- The rows in front of bars. -/
  rows : Tally := {}
  /-- The row behind the last bar. -/
  row : Row := {}
  deriving DecidableEq, Repr

namespace Group

/-- One more thing in the row. -/
def push (g : Group) (depth : Nat) : Group := { g with row := g.row.push depth }

/-- A bar. -/
def bar (g : Group) : Group := { g with rows := g.rows.add g.row.all.depth, row := {} }

/-- The depth of what stands in the group. -/
def depth (g : Group) : Nat := (g.rows.add g.row.all.depth).depth

end Group

/-- A pattern of which the front has been read. -/
structure Reading where
  inner : Group := {}
  /-- The groups around the innermost one, from inside. -/
  outer : List Group := []
  /-- The names of groups. -/
  names : List (List Char) := []
  deriving DecidableEq, Repr

namespace Reading

/-- One more thing that can be repeated. -/
def push (p : Reading) (depth : Nat) : Reading := { p with inner := p.inner.push depth }

/-- What an opening parenthesis begins; none for a name that another group has. -/
def begin? (p : Reading) : Head → Option Reading
  | .switch m =>
    some { p with inner := { p.inner with mode := m, row := p.inner.row.pushSwitches } }
  | .group m name =>
    if name.any p.names.contains then none
    else some ⟨{ mode := m }, p.inner :: p.outer, name.toList ++ p.names⟩

/-- The end of the innermost group; none if there is none. -/
def close? (p : Reading) : Option Reading :=
  match p.outer with
  | [] => none
  | next :: outer => some { p with inner := next.push (p.inner.depth + 1), outer }

/-- The depth of the whole; none if a group is still open. -/
def depth? (p : Reading) : Option Nat := if p.outer.isEmpty then some p.inner.depth else none

/-! ## Reading -/

/-- The rest behind a sign of repetition: a question mark right behind it asks for few. -/
def afterLazy : List Char → List Char
  | '?' :: rest => rest
  | rest => rest

/-- One character, or what it begins, and the rest behind that. -/
def step? (p : Reading) (c : Char) (rest : List Char) : Option (Reading × List Char) :=
  let m := p.inner.mode
  match c with
  | '(' => (Head.read? m rest).bind fun (head, rest) => (p.begin? head).map (·, rest)
  | ')' => p.close?.map (·, rest)
  | '|' => some ({ p with inner := p.inner.bar }, rest)
  | '[' => (readClass? m rest).map fun (depth, rest) => (p.push depth, rest)
  | '*' | '+' | '?' =>
    p.inner.row.repeated?.map fun row =>
      ({ p with inner := { p.inner with row } }, afterLazy rest)
  | '\x7b' => none
  | '\\' =>
    (Escape.read? m rest).bind fun
      | (.literal _, rest) => if m.allows then some (p.push 0, rest) else none
      | (_, rest) => some (p.push 0, rest)
  | '.' => if m.unicode then some (p.push 0, rest) else none
  | '^' | '$' => some (p.push 0, rest)
  | _ => if m.allows then some (p.push 0, rest) else none

/-- The depth of a pattern, of which a front has been read. -/
def depthWith? : (fuel : Nat) → Reading → List Char → Option Nat
  | 0, _, _ => none
  | fuel + 1, p, rest =>
    match p.inner.mode.skip rest with
    | [] => p.depth?
    | c :: rest => (p.step? c rest).bind fun (p, rest) => depthWith? fuel p rest

end Reading

/-- The depth of a pattern; none if it cannot be read. -/
def depth? (pattern : List Char) : Option Nat :=
  Reading.depthWith? (pattern.length + 1) {} pattern

/-- Whether a value can be read: as a number or as a pattern that is not too deep. -/
def isReadable (value : String) : Bool :=
  (Decimal.read? value).isSome || (depth? value.toList).any (· ≤ deepest)

end StartupBench.Log.Pattern
