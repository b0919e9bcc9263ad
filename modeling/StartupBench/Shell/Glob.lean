import StartupBench.Files

/-!
# Patterns of a shell script

A star stands for any text, a question mark for one byte and brackets for one of the bytes between
them, unless they are quoted.  Patterns choose branches, cut values and name files.
-/

namespace StartupBench.Shell

/-- A byte of a text, and whether it stood between quotes. -/
abbrev Cell := UInt8 × Bool

namespace Glob

/-- A text without any meaning as a pattern. -/
def literal (bytes : List UInt8) (quoted : Bool) : List Cell := bytes.map fun b => (b, quoted)

/-- The text of cells. -/
def textOf (cells : List Cell) : RawText := ⟨cells.map (·.1)⟩

/-- Whether a cell is a sign with a meaning. -/
def isSign (sign : Char) (c : Cell) : Bool := c.1 == sign.toNat.toUInt8 && !c.2

/-- Whether a text has signs with a meaning. -/
def isPattern (cells : List Cell) : Bool :=
  cells.any fun c => isSign '*' c || isSign '?' c || isSign '[' c

/-- Whether a byte is one of those between brackets. -/
def among (b : UInt8) : List Cell → Bool
  | (low, _) :: (0x2D, false) :: (high, _) :: rest =>
    (low ≤ b && b ≤ high) || among b rest
  | (c, _) :: rest => c == b || among b rest
  | [] => false

/-- The cells between brackets and those behind them.  A bracket in front of the others stands for
itself. -/
def bracket? (cells : List Cell) : Option (Bool × List Cell × List Cell) :=
  let (outside, cells) := match cells with
    | c :: rest => if isSign '!' c || isSign '^' c then (true, rest) else (false, c :: rest)
    | [] => (false, [])
  let (front, cells) := match cells with
    | c :: rest => if isSign ']' c then ([c], rest) else ([], c :: rest)
    | [] => ([], [])
  match cells.span fun c => !isSign ']' c with
  | (inside, _ :: rest) => some (outside, front ++ inside, rest)
  | (_, []) => none

/-- Whether a pattern fits a text. -/
def fits : (fuel : Nat) → List Cell → List UInt8 → Bool
  | 0, _, _ => false
  | _, [], bytes => bytes.isEmpty
  | fuel + 1, p :: pattern, bytes =>
    if isSign '*' p then
      fits fuel pattern bytes || match bytes with
        | _ :: rest => fits fuel (p :: pattern) rest
        | [] => false
    else
      match bytes with
      | [] => false
      | b :: rest =>
        if isSign '?' p then fits fuel pattern rest
        else
          match if isSign '[' p then bracket? pattern else none with
          | some (outside, inside, pattern) =>
            among b inside != outside && fits fuel pattern rest
          | none => p.1 == b && fits fuel pattern rest

/-- Whether a pattern fits the whole of a text. -/
def matchesAll (pattern : List Cell) (bytes : List UInt8) : Bool :=
  fits (pattern.length + bytes.length + 1) pattern bytes

/-- A text without the shortest, or longest, front that a pattern fits. -/
def dropFront (longest : Bool) (pattern : List Cell) (bytes : List UInt8) : List UInt8 :=
  let sizes := List.range (bytes.length + 1)
  let sizes := if longest then sizes.reverse else sizes
  match sizes.find? fun n => matchesAll pattern (bytes.take n) with
  | some n => bytes.drop n
  | none => bytes

/-- A text without the shortest, or longest, back that a pattern fits. -/
def dropBack (longest : Bool) (pattern : List Cell) (bytes : List UInt8) : List UInt8 :=
  let sizes := List.range (bytes.length + 1)
  let sizes := if longest then sizes else sizes.reverse
  match sizes.find? fun n => matchesAll pattern (bytes.drop n) with
  | some n => bytes.take n
  | none => bytes

/-! ## Names of files -/

/-- The parts of a pattern between slashes. -/
def parts : List Cell → List (List Cell)
  | [] => [[]]
  | c :: rest =>
    if c.1 == Path.slash then [] :: parts rest
    else
      match parts rest with
      | [] => [[c]]
      | part :: more => (c :: part) :: more

/-- Whether a name does not stand behind another in the order of bytes. -/
def inOrder : FileName → FileName → Bool
  | [], _ => true
  | _ :: _, [] => false
  | a :: as, b :: bs => decide (a < b) || (a == b && inOrder as bs)

/-- The names in a directory that a part of a pattern fits.  Hidden ones have to be asked for. -/
def namesFor (files : Files) (directory : List UInt8) (part : List Cell) : List FileName :=
  let path : Path := ⟨⟨if directory.isEmpty then [Path.dot] else directory⟩⟩
  let names : List FileName := match files.list path with
    | .ok entries => entries.map (·.1)
    | .error _ => []
  let hidden (name : FileName) : Bool := name.head? == some Path.dot
  let asked := part.head?.any fun c => c.1 == Path.dot
  let fitting := names.filter fun name => matchesAll part name && (asked || !hidden name)
  fitting.mergeSort inOrder

/-- The paths that a pattern fits, from its parts. -/
def pathsFrom (files : Files) (directory : List UInt8) : List (List Cell) → List (List UInt8)
  | [] => [directory]
  | part :: rest =>
    let names := if isPattern part then namesFor files directory part else [part.map (·.1)]
    names.flatMap fun name =>
      let path := directory ++ name
      pathsFrom files (if rest.isEmpty then path else path ++ [Path.slash]) rest

/-- The paths that a pattern fits; the pattern itself if there are none. -/
def paths (files : Files) (pattern : List Cell) : List RawText :=
  if !isPattern pattern then [textOf pattern]
  else
    let found := (pathsFrom files [] (parts pattern)).filter fun path =>
      (files.find ⟨⟨path⟩⟩).toOption.isSome
    if found.isEmpty then [textOf pattern] else found.map fun path => ⟨path⟩

end Glob

end StartupBench.Shell
