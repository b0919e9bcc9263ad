/-!
# Bytes as text

The operating system hands over paths, arguments and the output of programs as bytes.  Usually
they are UTF-8.  `Utf8.decode` reads them one character at a time and leaves a gap for each longest
piece that begins a character and does not complete it; `Utf8.strict?` refuses gaps and
`Utf8.lossy` fills them with the replacement character.
-/

namespace StartupBench.Utf8

/-! ## One character -/

/-- Whether a byte continues a character. -/
def isTail (b : UInt8) : Bool := 0x80 ≤ b && b ≤ 0xBF

/-- What a first byte promises: how many bytes follow, and the bounds of the first of them. -/
structure Lead where
  following : Nat
  low : UInt8
  high : UInt8

/-- Reads a first byte; none if no character of more than one byte begins with it. -/
def lead? (b : UInt8) : Option Lead :=
  if 0xC2 ≤ b && b ≤ 0xDF then some ⟨1, 0x80, 0xBF⟩
  else if b == 0xE0 then some ⟨2, 0xA0, 0xBF⟩
  else if b == 0xED then some ⟨2, 0x80, 0x9F⟩
  else if 0xE1 ≤ b && b ≤ 0xEF then some ⟨2, 0x80, 0xBF⟩
  else if b == 0xF0 then some ⟨3, 0x90, 0xBF⟩
  else if 0xF1 ≤ b && b ≤ 0xF3 then some ⟨3, 0x80, 0xBF⟩
  else if b == 0xF4 then some ⟨3, 0x80, 0x8F⟩
  else none

/-- How many of the bytes after a first byte fit its promise. -/
def fitting (l : Lead) : List UInt8 → Nat
  | [] => 0
  | b :: rest =>
    if l.low ≤ b && b ≤ l.high then 1 + ((rest.take (l.following - 1)).takeWhile isTail).length
    else 0

/-- The character of a first byte with `following` bytes after it. -/
def assemble (first : UInt8) (following : List UInt8) : Char :=
  let bits := match following.length with
    | 0 => first.toNat
    | 1 => first.toNat % 32
    | 2 => first.toNat % 16
    | _ => first.toNat % 8
  Char.ofNat (following.foldl (fun n b => n * 64 + b.toNat % 64) bits)

/-! ## Whole texts -/

/-- The characters of a text, with `none` for each piece that is no character. -/
def decode : List UInt8 → List (Option Char)
  | [] => []
  | b :: rest =>
    if b < 0x80 then some (Char.ofNat b.toNat) :: decode rest
    else match lead? b with
      | none => none :: decode rest
      | some l =>
        let n := fitting l rest
        let c := if n = l.following then some (assemble b (rest.take n)) else none
        c :: decode (rest.drop n)
termination_by bytes => bytes.length
decreasing_by all_goals simp_wf; try omega

/-- The text, if every byte belongs to a character. -/
def strict? (bytes : List UInt8) : Option String :=
  ((decode bytes).mapM id).map String.ofList

/-- The text with U+FFFD for each piece that is no character. -/
def lossy (bytes : List UInt8) : String :=
  String.ofList ((decode bytes).map (·.getD '\ufffd'))

/-- The bytes of a text. -/
def encode (text : String) : List UInt8 := text.toUTF8.data.toList

end StartupBench.Utf8
