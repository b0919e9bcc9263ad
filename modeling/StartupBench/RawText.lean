import StartupBench.Text.Utf8

/-!
# Text of the operating system

Paths, arguments and environment values are byte strings.  `RawText` is such a string and `Path`
one that names a file.  A path is absolute when it begins with a slash; empty parts and parts that
are a single dot do not matter.
-/

namespace StartupBench

/-! ## Byte strings -/

/-- Text as the operating system passes it. -/
structure RawText where
  bytes : List UInt8
  deriving DecidableEq, Repr, Inhabited

namespace RawText

/-- The bytes of a text. -/
def ofString (text : String) : RawText := ⟨Utf8.encode text⟩

instance : Coe String RawText := ⟨ofString⟩

/-- The text, if it is well formed. -/
def toString? (t : RawText) : Option String := Utf8.strict? t.bytes

/-- The text as it is shown, each ill-formed piece replaced by U+FFFD. -/
def display (t : RawText) : String := Utf8.lossy t.bytes

/-- Concatenation. -/
def append (s t : RawText) : RawText := ⟨s.bytes ++ t.bytes⟩

instance : Append RawText := ⟨append⟩

end RawText

/-! ## Paths -/

/-- The name of a file. -/
structure Path where
  raw : RawText
  deriving DecidableEq, Repr, Inhabited

namespace Path

/-- The byte that separates the parts of a path. -/
def slash : UInt8 := 0x2F

/-- The byte of a single dot. -/
def dot : UInt8 := 0x2E

instance : Coe String Path := ⟨fun text => ⟨RawText.ofString text⟩⟩

/-- The path as it is shown. -/
def display (p : Path) : String := p.raw.display

/-- The path as text, if it is well formed. -/
def toString? (p : Path) : Option String := p.raw.toString?

/-- The bytes of the path. -/
def bytes (p : Path) : List UInt8 := p.raw.bytes

/-- Whether the path begins at the root. -/
def isAbsolute (p : Path) : Bool := p.bytes.head? == some slash

/-- Splits bytes at every slash. -/
def splitSlash : List UInt8 → List (List UInt8)
  | [] => [[]]
  | b :: rest =>
    if b == slash then [] :: splitSlash rest
    else match splitSlash rest with
      | [] => [[b]]
      | part :: parts => (b :: part) :: parts

/-- The parts of the path that matter: those that are neither empty nor a single dot. -/
def parts (p : Path) : List (List UInt8) :=
  (splitSlash p.bytes).filter fun part => !part.isEmpty && part != [dot]

/-- The last part, unless there is none or it leads to the parent. -/
def fileName? (p : Path) : Option RawText :=
  match p.parts.getLast? with
  | none => none
  | some part => if part = [dot, dot] then none else some ⟨part⟩

/-- The last part as it is shown, or nothing. -/
def fileNameText (p : Path) : String := (p.fileName?.map RawText.display).getD ""

/-- The path of `q` seen from `p`. -/
def join (p q : Path) : Path :=
  if q.isAbsolute || p.bytes.isEmpty then q
  else if p.bytes.getLast? == some slash then ⟨p.raw ++ q.raw⟩
  else ⟨p.raw ++ ⟨[slash]⟩ ++ q.raw⟩

/-- The path seen from the root, for a program that works in `cwd`.  Only the text counts: parts
that lead to a parent are kept.  Two slashes at the front are kept, three are one. -/
def absolute (cwd p : Path) : Path :=
  let start : Path :=
    if p.isAbsolute then
      if p.bytes.take 2 == [slash, slash] && p.bytes[2]? != some slash then ⟨⟨[slash, slash]⟩⟩
      else ⟨⟨[slash]⟩⟩
    else cwd
  let whole := p.parts.foldl (fun q part => q.join ⟨⟨part⟩⟩) start
  if p.bytes.getLast? == some slash && whole.bytes.getLast? != some slash then
    ⟨whole.raw ++ ⟨[slash]⟩⟩
  else whole

end Path

end StartupBench
