import StartupBench.Decimal.Layout

/-!
# JSON documents as text

A document is a tree.  It is written over several lines, indented by two blanks a level; an empty
list stays on one line.  A number that JSON cannot write is `null`.
-/

namespace StartupBench

/-- A JSON document that is to be written. -/
inductive Json where
  | text (value : String)
  | bool (value : Bool)
  | count (value : Nat)
  | number (value : Float)
  | list (items : List Json)
  | record (fields : List (String × Json))

namespace Json

/-! ## Text -/

/-- A digit of a number in hexadecimal. -/
def hexDigit (n : Nat) : Char := (Nat.toDigits 16 n).headD '0'

/-- A character inside a JSON text.  Only quotes, backslashes and controls are escaped. -/
def escapeChar (c : Char) : String :=
  match c with
  | '"' => "\\\""
  | '\\' => "\\\\"
  | '\x08' => "\\b"
  | '\x0c' => "\\f"
  | '\n' => "\\n"
  | '\r' => "\\r"
  | '\t' => "\\t"
  | c =>
    if c.toNat < 0x20 then
      "\\u00" ++ String.ofList [hexDigit (c.toNat / 16), hexDigit (c.toNat % 16)]
    else String.singleton c

/-- A JSON text. -/
def escape (value : String) : String :=
  "\"" ++ String.join (value.toList.map escapeChar) ++ "\""

/-- A JSON number, or `null`. -/
def numberText (x : Float) : String :=
  if x.isFinite then Decimal.data x else "null"

/-! ## Documents -/

/-- Indentation by so many levels. -/
def indent (depth : Nat) : String := String.ofList (List.replicate (2 * depth) ' ')

/-- Lines between an opening and a closing mark. -/
def enclose (opening closing : String) (depth : Nat) (lines : List String) : String :=
  if lines.isEmpty then opening ++ closing
  else
    opening ++ "\n" ++
      String.intercalate ",\n" (lines.map (indent (depth + 1) ++ ·)) ++
      "\n" ++ indent depth ++ closing

mutual

/-- A document at a depth. -/
def render (depth : Nat) : Json → String
  | .text value => escape value
  | .bool value => if value then "true" else "false"
  | .count value => toString value
  | .number value => numberText value
  | .list items => enclose "[" "]" depth (renderItems (depth + 1) items)
  | .record fields => enclose "\x7b" "\x7d" depth (renderFields (depth + 1) fields)

/-- The items of a list. -/
def renderItems (depth : Nat) : List Json → List String
  | [] => []
  | item :: rest => render depth item :: renderItems depth rest

/-- The fields of a record. -/
def renderFields (depth : Nat) : List (String × Json) → List String
  | [] => []
  | (name, value) :: rest =>
    (escape name ++ ": " ++ render depth value) :: renderFields depth rest

end

/-- The document as text. -/
def pretty (j : Json) : String := j.render 0

end Json

end StartupBench
