import StartupBench.Log
import StartupBench.Log.Pattern
import StartupBench.Text.Alphanumeric
import StartupBench.Text.Blank

/-!
# Directives of the log filter

A directive is written as `target[span{field}]=level`, with everything but one part left out if
need be: it concerns the events of the components whose path begins with the target, inside spans
of that name, that have the field.  What has no level shows everything, and a word alone is a level
if there is one of that name, or else a target.

Blanks around a directive do not count in finding its parts, but the parts are then cut out of the
text with the blanks at the same distances from its front.
-/

namespace StartupBench.Log

/-! ## Thresholds -/

/-- What a directive lets through; none for nothing at all. -/
abbrev Threshold := Option Level

/-- The thresholds by their numbers. -/
def thresholds : List Threshold :=
  [none, some .error, some .warn, some .info, some .debug, some .trace]

/-- The names of the thresholds, in the same order. -/
def thresholdNames : List String := ["off", "error", "warn", "info", "debug", "trace"]

/-- The number that digits write; a plus in front is allowed. -/
def smallNumber? (text : String) : Option Nat :=
  let digits := match text.toList with
    | '+' :: rest => rest
    | cs => cs
  match Decimal.takeDigits digits with
  | (d :: ds, []) => some (Decimal.ofDigits (d :: ds))
  | _ => none

/-- Reads a threshold: a number or a name in any case. -/
def threshold? (text : String) : Option Threshold :=
  let lower := String.ofList (text.toList.map Decimal.lowerAscii)
  match (smallNumber? text).bind (thresholds[·]?) with
  | some t => some t
  | none => (thresholdNames.idxOf? lower).bind (thresholds[·]?)

/-! ## Directives -/

/-- A field that a directive asks for. -/
structure FieldRule where
  name : String
  /-- Whether it is to have a certain value. -/
  hasValue : Bool
  deriving DecidableEq, Repr

/-- A directive. -/
structure Directive where
  /-- How the path of a component has to begin. -/
  target : Option String := none
  /-- The span in which an event has to stand. -/
  span : Option String := none
  fields : List FieldRule := []
  threshold : Threshold := some .trace
  deriving DecidableEq, Repr

/-- Reads a field; none for a value that cannot be read. -/
def FieldRule.read? (text : String) : Option FieldRule :=
  match Text.splitOn '=' text with
  | name :: value :: _ => if Pattern.isReadable value then some ⟨name, true⟩ else none
  | _ => some ⟨text, false⟩

namespace Directive

/-- Whether the directive can concern events outside of spans. -/
def isPlain (d : Directive) : Bool := d.span.isNone && d.fields.all fun f => !f.hasValue

/-! ## Reading -/

/-- Where the reader stands.  `start` is the distance in bytes at which the part that is being read
begins. -/
inductive Place where
  | front
  /-- In a target or a level. -/
  | word (start : Nat)
  | span (start : Nat)
  | field (start : Nat)
  | behindFields
  | behindSpan
  | level (start : Nat)
  deriving DecidableEq, Repr

/-- Whether a directive may begin with a character. -/
def begins (c : Char) : Bool := c = '-' || c = ':' || c = '_' || Text.alphanumeric.has c

/-- The rest behind so many bytes, which have to be whole characters. -/
def dropBytes? : Nat → List Char → Option (List Char)
  | 0, cs => some cs
  | _ + 1, [] => none
  | n + 1, c :: cs => if c.utf8Size ≤ n + 1 then dropBytes? (n + 1 - c.utf8Size) cs else none

/-- So many bytes from the front, which have to be whole characters. -/
def takeBytes? : Nat → List Char → Option (List Char)
  | 0, _ => some []
  | _ + 1, [] => none
  | n + 1, c :: cs =>
    if c.utf8Size ≤ n + 1 then (takeBytes? (n + 1 - c.utf8Size) cs).map (c :: ·) else none

/-- The part of a text from one distance to another. -/
def part? (text : List Char) (start stop : Nat) : Option String :=
  ((dropBytes? start text).bind (takeBytes? (stop - start))).map String.ofList

/-- The part of a text from a distance to its end. -/
def rest? (text : List Char) (start : Nat) : Option String :=
  (dropBytes? start text).map String.ofList

/-- One character at a distance. -/
def step? (text : List Char) (distance : Nat) (c : Char) (place : Place) (d : Directive) :
    Option (Place × Directive) :=
  match place with
  | .front =>
    if c = '[' then some (.span (distance + 1), d)
    else if begins c then some (.word distance, d)
    else none
  | .word start =>
    if c = '=' then
      (part? text start distance).map fun target =>
        (.level (distance + 1), { d with target := some target })
    else if c = '[' then
      (part? text start distance).map fun target =>
        (.span (distance + 1), { d with target := some target })
    else some (place, d)
  | .span start =>
    if c = ']' then
      (part? text start distance).map fun span => (.behindSpan, { d with span := some span })
    else if c = '\x7b' then
      (part? text start distance).map fun span =>
        (.field (distance + 1), { d with span := if span.isEmpty then none else some span })
    else some (place, d)
  | .field start =>
    if c = '\x7d' then do
      let field ← part? text start distance
      if field.isEmpty then none
      else some (.behindFields, { d with fields := d.fields ++ [← FieldRule.read? field] })
    else some (place, d)
  | .behindFields => if c = ']' then some (.behindSpan, d) else none
  | .behindSpan => if c = '=' then some (.level (distance + 1), d) else none
  | .level _ => some (place, d)

/-- The end of a directive. -/
def finish? (text : List Char) (place : Place) (d : Directive) : Option Directive :=
  match place with
  | .word start =>
    (rest? text start).map fun word =>
      match threshold? word with
      | some t => { d with threshold := t, target := none }
      | none => { d with threshold := some .trace, target := some word }
  | .level start => do
    let level ← rest? text start
    if level.isEmpty then some d
    else (threshold? level).map fun t => { d with threshold := t }
  | .behindSpan => some d
  | _ => none

/-- Reads the characters of a directive from a distance on. -/
def walk? (text : List Char) : List Char → (distance : Nat) → Place → Directive → Option Directive
  | [], _, place, d => finish? text place d
  | c :: rest, distance, place, d => do
    let (place, d) ← step? text distance c place d
    walk? text rest (distance + c.utf8Size) place d

/-- Reads a directive. -/
def read? (text : String) : Option Directive :=
  walk? text.toList (Text.trim text).toList 0 .front {}

end Directive

end StartupBench.Log
