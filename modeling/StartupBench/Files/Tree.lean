/-!
# Trees of files

A tree is a file or a directory of named trees.  A location is the list of names that leads from the
top of a tree to a part of it.  Looking at a location and changing what stands there take as many
steps as the location has names.
-/

namespace StartupBench

/-- The name of a file in its directory. -/
abbrev FileName := List UInt8

/-- The names that lead from the top of a tree to a part of it. -/
abbrev Location := List FileName

/-- A file or a directory. -/
inductive FileTree where
  | file (content : List UInt8) (executable : Bool)
  /-- The entries stand in the order in which they were made. -/
  | directory (entries : List (FileName × FileTree))

namespace FileTree

/-- A directory without entries. -/
def emptyDirectory : FileTree := .directory []

/-- Whether the tree is a directory. -/
def isDirectory : FileTree → Bool
  | .directory _ => true
  | .file .. => false

/-- The entries of a directory; a file has none. -/
def entries : FileTree → List (FileName × FileTree)
  | .directory es => es
  | .file .. => []

/-- The entry of a name. -/
def child? (t : FileTree) (name : FileName) : Option FileTree :=
  (t.entries.find? fun e => e.1 = name).map (·.2)

/-- What stands at a location. -/
def get? : FileTree → Location → Option FileTree
  | t, [] => some t
  | t, name :: rest => (t.child? name).bind fun child => child.get? rest

/-- A list of entries with the entry of a name changed. -/
def putEntry (name : FileName) (t : FileTree) :
    List (FileName × FileTree) → List (FileName × FileTree)
  | [] => [(name, t)]
  | e :: rest => if e.1 = name then (name, t) :: rest else e :: putEntry name t rest

/-- Put a tree at a location in place of what stood there.  Nothing changes if no directory leads
to the location. -/
def put : FileTree → Location → (new : FileTree) → FileTree
  | _, [], new => new
  | .file content executable, _ :: _, _ => .file content executable
  | .directory es, name :: rest, new =>
    match (FileTree.directory es).child? name, rest with
    | some child, _ => .directory (putEntry name (child.put rest new) es)
    | none, [] => .directory (es ++ [(name, new)])
    | none, _ :: _ => .directory es

/-- Take away what stands at a location below the top. -/
def erase : FileTree → Location → FileTree
  | t, [] => t
  | .file content executable, _ :: _ => .file content executable
  | .directory es, [name] => .directory (es.filter fun e => e.1 ≠ name)
  | .directory es, name :: next :: rest =>
    match (FileTree.directory es).child? name with
    | some child => .directory (putEntry name (child.erase (next :: rest)) es)
    | none => .directory es

end FileTree

/-! ## Places in a tree -/

/-- A part of a tree with the directories above it, the nearest first, each with the name of the
entry that leads down. -/
structure Place where
  here : FileTree
  above : List (FileName × FileTree) := []

namespace Place

/-- The location of the place. -/
def location (p : Place) : Location := (p.above.map (·.1)).reverse

/-- The place above; that of the top is the top. -/
def parent (p : Place) : Place :=
  match p.above with
  | [] => p
  | (_, t) :: rest => ⟨t, rest⟩

end Place

end StartupBench
