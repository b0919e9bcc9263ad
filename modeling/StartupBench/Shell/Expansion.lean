import StartupBench.Shell.Glob
import StartupBench.Shell.Session
import StartupBench.Shell.Sum

/-!
# The values of words

The pieces of a word are replaced by their values.  What does not stand between quotes is split into
fields and may name files.  `output` runs the script of a piece and answers what it prints.
-/

namespace StartupBench.Shell

/-- Fields that come of a word: those that are complete, and the one that is being made. -/
structure Fields where
  complete : List (List Cell) := []
  current : Option (List Cell) := none

namespace Fields

/-- Go on with the current field. -/
def add (f : Fields) (cells : List Cell) : Fields :=
  { f with current := some (f.current.getD [] ++ cells) }

/-- Complete the current field. -/
def close (f : Fields) : Fields :=
  match f.current with
  | some cells => ⟨f.complete ++ [cells], none⟩
  | none => f

/-- Whether a separator is a blank. -/
def isBlank (b : UInt8) : Bool := b == 0x20 || b == 0x09 || b == 0x0A

/-- Go on with a value that is split at separators.  Blanks in a row count as one; any other
separator ends a field, which may be empty. -/
def addSplit (separators : List UInt8) (f : Fields) : List UInt8 → Fields
  | [] => f
  | b :: rest =>
    if !separators.contains b then addSplit separators (f.add [(b, false)]) rest
    else if isBlank b then addSplit separators f.close rest
    else addSplit separators (f.add []).close rest

/-- Go on with several values, of which the first continues the current field. -/
def addEach (add : Fields → RawText → Fields) (f : Fields) : List RawText → Fields
  | [] => f
  | first :: rest => rest.foldl (fun f value => add f.close value) (add f first)

end Fields

/-- The values of all arguments as one text. -/
def joined (separator : List UInt8) (values : List RawText) : RawText :=
  ⟨((values.map (·.bytes)).intersperse separator).flatten⟩

/-- Put a value into fields. -/
def putValue (quoted : Bool) (f : Fields) (value : RawText) : Run Fields := do
  if quoted then pure (f.add (Glob.literal value.bytes true))
  else pure (f.addSplit (← get).separators value.bytes)

/-- Put the arguments into fields. -/
def putArguments (star quoted : Bool) (f : Fields) : Run Fields := do
  let s ← get
  if quoted && star then
    pure (f.add (Glob.literal (joined (s.separators.take 1) s.arguments).bytes true))
  else if quoted then
    pure (f.addEach (fun f v => f.add (Glob.literal v.bytes true)) s.arguments)
  else pure (f.addEach (fun f v => f.addSplit s.separators v.bytes) s.arguments)

/-- The value of a sum, whose assignments are kept. -/
def sumValue (text : String) : Run RawText := do
  let s ← get
  let outside (name : String) : String := ((s.value? name).map RawText.display).getD ""
  match Sum.evaluate outside text with
  | .error problem => fail (problem.message text)
  | .ok (n, assigned) =>
    for (name, value) in assigned.reverse do
      assign name (toString value : String)
    pure (toString n : String)

/-- A text without the line feeds at its end. -/
def withoutLineFeeds (bytes : List UInt8) : List UInt8 :=
  (bytes.reverse.dropWhile (· == 0x0A)).reverse

/-- The value of a parameter that has to be there in a careful session. -/
def needed (name : String) (value : Option RawText) : Run RawText := do
  match value with
  | some value => pure value
  | none =>
    if (← get).careful then fail (name ++ ": parameter not set")
    else pure ""

/-- The value of a parameter if it counts as there. -/
def there? (name : String) (ifEmpty : Bool) : Run (Option RawText) := do
  let s ← get
  let value := if name = "@" || name = "*" then
      if s.arguments.isEmpty then none else some (joined [0x20] s.arguments)
    else s.value? name
  pure (value.filter fun v => !ifEmpty || !v.bytes.isEmpty)

/-- Put pieces into fields.  `cut` says whether values are split where they do not stand between
quotes, and `inner` whether the pieces themselves are such a value. -/
def putPieces (output : String → Run (List UInt8)) (cut inner : Bool) :
    (fuel : Nat) → Word → Fields → Run Fields
  | 0, _, f => pure f
  | _, [], f => pure f
  | fuel + 1, piece :: rest, f => do
    let value (quoted : Bool) (v : RawText) : Run Fields :=
      if cut || quoted then putValue quoted f v
      else pure (f.add (Glob.literal v.bytes false))
    let whole (word : String) : Run (List Cell) := do
      let inner ← putPieces output false false fuel (Word.read false word) {}
      pure (inner.close.complete.flatten)
    let f ← match piece with
      | .text t quoted =>
        if inner && cut && !quoted then putValue false f t
        else pure (f.add (Glob.literal (Utf8.encode t) quoted))
      | .output script quoted => do
        let printed ← output script
        value quoted ⟨withoutLineFeeds printed⟩
      | .sum expression quoted => do
        let inner ← putPieces output false false fuel (Word.readAs .lines expression) {}
        value quoted (← sumValue (Glob.textOf inner.close.complete.flatten).display)
      | .parameter name change quoted => do
        match change with
        | .asIs =>
          if name = "@" || name = "*" then
            if cut then putArguments (name = "*") quoted f
            else value quoted (joined [0x20] (← get).arguments)
          else value quoted (← needed name ((← get).value? name))
        | .length =>
          let v ← needed name (← there? name false)
          value quoted (toString v.bytes.length : String)
        | .orElse ifEmpty word =>
          match ← there? name ifEmpty with
          | some v => value quoted v
          | none => putPieces output cut true fuel (Word.read quoted word) f
        | .ifThere ifEmpty word =>
          match ← there? name ifEmpty with
          | some _ => putPieces output cut true fuel (Word.read quoted word) f
          | none => pure f
        | .orAssign ifEmpty word =>
          match ← there? name ifEmpty with
          | some v => value quoted v
          | none =>
            let v := Glob.textOf (← whole word)
            assign name v
            value quoted v
        | .orEnd ifEmpty word =>
          match ← there? name ifEmpty with
          | some v => value quoted v
          | none =>
            let message := (Glob.textOf (← whole word)).display
            let usual := if ifEmpty then "parameter not set or null" else "parameter not set"
            fail (name ++ ": " ++ if message.isEmpty then usual else message)
        | .dropFront longest pattern =>
          let v ← needed name (← there? name false)
          value quoted ⟨Glob.dropFront longest (← whole pattern) v.bytes⟩
        | .dropBack longest pattern =>
          let v ← needed name (← there? name false)
          value quoted ⟨Glob.dropBack longest (← whole pattern) v.bytes⟩
        | .unknown => fail "Bad substitution"
    putPieces output cut inner fuel rest f

/-- How deep words may stand in words, together with the length of a word. -/
def depth (w : Word) : Nat := w.length + 64

/-- The fields that come of a word; those that are patterns name files. -/
def expand (output : String → Run (List UInt8)) (w : Word) : Run (List RawText) := do
  let f ← putPieces output true false (depth w) w {}
  let s ← get
  pure (f.close.complete.flatMap fun cells =>
    if s.literal then [Glob.textOf cells] else Glob.paths s.files cells)

/-- The fields that come of words. -/
def expandAll (output : String → Run (List UInt8)) : List Word → Run (List RawText)
  | [] => pure []
  | w :: rest => do
    let first ← expand output w
    let more ← expandAll output rest
    pure (first ++ more)

/-- The cells of a word that is not split. -/
def cells (output : String → Run (List UInt8)) (w : Word) : Run (List Cell) := do
  let f ← putPieces output false false (depth w) w {}
  pure f.close.complete.flatten

/-- The text of a word that is not split. -/
def text (output : String → Run (List UInt8)) (w : Word) : Run RawText := do
  pure (Glob.textOf (← cells output w))

end StartupBench.Shell
