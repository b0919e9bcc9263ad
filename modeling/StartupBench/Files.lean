import StartupBench.Files.Tree
import StartupBench.OsError

/-!
# Files and paths

Files and directories below a root, seen from a working directory.  A path is looked up one part at
a time: every part but the last has to be a directory, a single dot leads nowhere and two dots lead
to the parent.  A slash at the end asks for a directory.  Neither a part nor a whole path may be too
long.
-/

namespace StartupBench

/-- A tree of files, seen from a working directory. -/
structure Files where
  root : FileTree := .emptyDirectory
  cwd : Location := []

/-! ## Paths as they are looked up -/

namespace Path

/-- What a path ends in. -/
inductive Ending where
  /-- No part at all: the root. -/
  | root
  | dot
  | parent
  /-- A name, with or without a slash behind it. -/
  | name (name : FileName) (slash : Bool)
  deriving DecidableEq, Repr

/-- The name of a directory in itself. -/
def dotName : FileName := [dot]

/-- The name of the parent of a directory. -/
def parentName : FileName := [dot, dot]

/-- The parts of a path that are not empty. -/
def steps (p : Path) : List FileName := (splitSlash p.bytes).filter fun part => !part.isEmpty

/-- Whether a slash stands at the end. -/
def endsInSlash (p : Path) : Bool := p.bytes.getLast? == some slash

/-- The parts of a path before its ending. -/
def lead (p : Path) : List FileName := p.steps.dropLast

/-- The text of a path up to the end of its `n`-th part. -/
def firstBytes : (n : Nat) → List UInt8 → List UInt8
  | 0, _ => []
  | n + 1, bytes =>
    let (slashes, rest) := bytes.span (· == slash)
    let (part, rest) := rest.span (· != slash)
    slashes ++ part ++ firstBytes n rest

/-- The path that ends with the `n`-th part. -/
def firstParts (p : Path) (n : Nat) : Path := ⟨⟨firstBytes n p.bytes⟩⟩

/-- The ending of a path. -/
def ending (p : Path) : Ending :=
  match p.steps.getLast? with
  | none => .root
  | some name =>
    if name = dotName then .dot
    else if name = parentName then .parent
    else .name name p.endsInSlash

/-- The longest name of a file. -/
def longestName : Nat := 255

/-- The longest path. -/
def longest : Nat := 4095

/-- Refuse a path that the system does not take. -/
def checked (p : Path) : Except IoError Unit :=
  if p.bytes.contains 0 then .error (.other "file name contained an unexpected NUL byte")
  else if p.bytes.isEmpty then .error (.os .noEntry)
  else if longest < p.bytes.length then .error (.os .nameTooLong)
  else .ok ()

end Path

/-! ## Looking up -/

/-- Go on to a part of the directory at a place. -/
def Place.enter (p : Place) (part : FileName) : Except Errno Place :=
  match p.here with
  | .file .. => .error .notADirectory
  | .directory _ =>
    if part = Path.dotName then .ok p
    else if part = Path.parentName then .ok p.parent
    else if Path.longestName < part.length then .error .nameTooLong
    else
      match p.here.child? part with
      | some t => .ok ⟨t, (part, p.here) :: p.above⟩
      | none => .error .noEntry

/-- Follow parts from a place. -/
def Place.follow (p : Place) (parts : List FileName) : Except Errno Place :=
  parts.foldlM Place.enter p

namespace Files

/-- The place from which a path starts. -/
def start (f : Files) (p : Path) : Except Errno Place :=
  if p.isAbsolute then .ok ⟨f.root, []⟩ else Place.follow ⟨f.root, []⟩ f.cwd

/-- An error of the system. -/
def failing {α : Type} : Except Errno α → Except IoError α
  | .ok a => .ok a
  | .error e => .error (.os e)

/-- The place of a path. -/
def find (f : Files) (p : Path) : Except IoError Place := do
  p.checked
  let place ← failing (f.start p)
  let parts := if p.endsInSlash then p.steps ++ [Path.dotName] else p.steps
  failing (place.follow parts)

/-- The directory of what a path names, and the ending of the path. -/
def findLead (f : Files) (p : Path) : Except IoError (Place × Path.Ending) := do
  p.checked
  let place ← failing (f.start p)
  let place ← failing (place.follow p.lead)
  if place.here.isDirectory then .ok (place, p.ending) else .error (.os .notADirectory)

/-- Whether a directory stands at a path. -/
def isDirectory (f : Files) (p : Path) : Bool :=
  match f.find p with
  | .ok place => place.here.isDirectory
  | .error _ => false

/-- Whether a file stands at a path. -/
def isFile (f : Files) (p : Path) : Bool :=
  match f.find p with
  | .ok place => !place.here.isDirectory
  | .error _ => false

/-- The content of a file. -/
def content? (f : Files) (p : Path) : Option (List UInt8) :=
  match f.find p with
  | .ok ⟨.file content _, _⟩ => some content
  | _ => none

/-- The entries of a directory, in the order in which they were made. -/
def list (f : Files) (p : Path) : Except IoError (List (FileName × FileTree)) := do
  match (← f.find p).here with
  | .directory es => .ok es
  | .file .. => .error (.os .notADirectory)

/-- The names in a directory in their order, with a slash after those of directories. -/
def names (f : Files) (p : Path) : Option (List String) :=
  match f.list p with
  | .error _ => none
  | .ok entries =>
    let shown := entries.map fun e => Utf8.lossy e.1 ++ (if e.2.isDirectory then "/" else "")
    some (shown.mergeSort fun a b => !decide (b < a))

/-! ## Changing the tree -/

/-- Put a tree at a location. -/
def putAt (f : Files) (at_ : Location) (t : FileTree) : Files := { f with root := f.root.put at_ t }

/-- Take away a location and everything below it. -/
def removeAt (f : Files) (at_ : Location) : Files := { f with root := f.root.erase at_ }

/-- Take away everything below a directory. -/
def emptyAt (f : Files) (at_ : Location) : Files :=
  match f.root.get? at_ with
  | some (.directory _) => f.putAt at_ .emptyDirectory
  | _ => f

/-- Write a file, made if need be.  A slash at the end of the path is never that of a file. -/
def write (f : Files) (p : Path) (content : List UInt8) : Except IoError Files := do
  let (place, ending) ← f.findLead p
  match ending with
  | .name name false =>
    match place.enter name with
    | .ok ⟨.directory _, _⟩ => .error (.os .isADirectory)
    | .ok target@⟨.file _ executable, _⟩ => .ok (f.putAt target.location (.file content executable))
    | .error .noEntry => .ok (f.putAt (place.location ++ [name]) (.file content false))
    | .error e => .error (.os e)
  | _ => .error (.os .isADirectory)

/-- Write a file if that is possible. -/
def writeIfPossible (f : Files) (p : Path) (content : List UInt8) : Files :=
  match f.write p content with
  | .ok after => after
  | .error _ => f

/-- Make a directory where nothing stands. -/
def makeDirectory (f : Files) (p : Path) : Except IoError Files := do
  let (place, ending) ← f.findLead p
  match ending with
  | .name name _ =>
    match place.enter name with
    | .ok _ => .error (.os .exists)
    | .error .noEntry => .ok (f.putAt (place.location ++ [name]) .emptyDirectory)
    | .error e => .error (.os e)
  | _ => .error (.os .exists)

/-- Go on from a location to a part, which is made a directory if nothing stands there.  `last`
says whether it is the last part. -/
def enterOrMake (f : Files) (at_ : Location) (part : FileName) (last : Bool) :
    Except Errno (Files × Location) :=
  if part = Path.dotName then .ok (f, at_)
  else if part = Path.parentName then .ok (f, at_.dropLast)
  else if Path.longestName < part.length then .error .nameTooLong
  else
    let next := at_ ++ [part]
    match f.root.get? next with
    | some (.directory _) => .ok (f, next)
    | some (.file ..) => .error (if last then .exists else .notADirectory)
    | none => .ok (f.putAt next .emptyDirectory, next)

/-- Make the directories of parts from a location on.  Answers also why that ended early, and how
many parts were left then. -/
def makeDirectoriesFrom (f : Files) (at_ : Location) : List FileName → Files × Option (Errno × Nat)
  | [] => (f, none)
  | part :: rest =>
    match f.enterOrMake at_ part rest.isEmpty with
    | .ok (f, at_) => makeDirectoriesFrom f at_ rest
    | .error e => (f, some (e, rest.length + 1))

/-- The location from which a path starts. -/
def startAt (f : Files) (p : Path) : Location := if p.isAbsolute then [] else f.cwd

/-- Make a directory and those that lead to it, as far as that is possible. -/
def makeDirectories (f : Files) (p : Path) : Files :=
  match p.checked with
  | .ok () => (f.makeDirectoriesFrom (f.startAt p) p.steps).1
  | .error _ => f

/-- Make a directory and those that lead to it, going into each before the next is made, so that
the path may have any length.  Answers also what could not be made, and why. -/
def makeDirectoriesAlong (f : Files) (p : Path) : Files × Option (Path × Errno) :=
  if p.bytes.isEmpty then (f, some (p, .noEntry))
  else
    let (f, trouble) := f.makeDirectoriesFrom (f.startAt p) p.steps
    (f, trouble.map fun (e, left) =>
      (if left = 1 then p else p.firstParts (p.steps.length + 1 - left), e))

/-- Put a file at a path with the directories that lead to it, as far as that is possible. -/
def place (f : Files) (p : Path) (content : List UInt8) (executable : Bool) : Files :=
  match p.checked with
  | .error _ => f
  | .ok () =>
    let f := (f.makeDirectoriesFrom (f.startAt p) p.lead).1
    match f.findLead p with
    | .ok (place, .name name false) =>
      if name.length ≤ Path.longestName then
        f.putAt (place.location ++ [name]) (.file content executable)
      else f
    | _ => f

/-- Remove one file. -/
def removeFile (f : Files) (p : Path) : Except IoError Files := do
  let place ← f.find p
  match place.here with
  | .file .. => .ok (f.removeAt place.location)
  | .directory _ => .error (.os .isADirectory)

/-- Remove a directory and everything in it.  Its entries go first, so that a directory that its
path does not name is emptied and stays. -/
def removeDirectory (f : Files) (p : Path) : Except IoError Unit × Files :=
  match f.find p with
  | .error e => (.error e, f)
  | .ok place =>
    if !place.here.isDirectory then (.error (.os .notADirectory), f)
    else
      match p.ending with
      | .name .. => (.ok (), f.removeAt place.location)
      | .dot => (.error (.os .invalid), f.emptyAt place.location)
      | .root => (.error (.os .busy), f.emptyAt place.location)
      | .parent =>
        let emptied := f.emptyAt place.location
        match emptied.find p with
        | .ok _ => (.error (.os .notEmpty), emptied)
        | .error _ => (.ok (), emptied)

end Files

end StartupBench
