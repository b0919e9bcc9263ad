import StartupBench.Log.Pattern.Mode
import StartupBench.Text.Numeral

/-!
# Heads of groups

An opening parenthesis may be followed by a question mark, and then by a name for the group or by
switches.  Switches before a colon hold in the group, and switches before a closing parenthesis
hold from there to the end of the group around them, and are no group.
-/

namespace StartupBench.Log.Pattern

/-- What an opening parenthesis begins. -/
inductive Head where
  /-- A group that is read in a mode; no other group may have its name. -/
  | group (m : Mode) (name : Option (List Char))
  /-- Nothing more: the rest of the group around it is read in a mode. -/
  | switch (m : Mode)
  deriving DecidableEq, Repr

/-! ## Names -/

/-- Whether a name may begin with a character. -/
def beginsName (c : Char) : Bool := c = '_' || Text.isAlphabetic c

/-- Whether a name may go on with a character. -/
def continuesName (c : Char) : Bool :=
  c = '_' || c = '.' || c = '[' || c = ']' || Text.alphanumeric.has c

/-- A name up to its closing sign, and the rest. -/
def name? : List Char → Option (List Char × List Char)
  | [] => none
  | c :: rest =>
    if beginsName c then
      match rest.span continuesName with
      | (more, '>' :: rest) => some (c :: more, rest)
      | _ => none
    else none

/-! ## Switches -/

/-- The mode behind switches, the switches in reverse, and the rest with the sign that ends them.
Those behind a dash are turned off.  Nothing may stand there twice, and something behind a dash. -/
def switches? : Mode → (on : Bool) → (seen : List Char) → List Char →
    Option (Mode × List Char × List Char)
  | _, _, _, [] => none
  | m, on, seen, c :: rest =>
    if c = ':' || c = ')' then
      if seen.head? = some '-' then none else some (m, seen, c :: rest)
    else if seen.contains c then none
    else if c = '-' then switches? m false ('-' :: seen) rest
    else (m.switch? on c).bind fun m => switches? m on (c :: seen) rest

/-! ## Heads -/

namespace Head

/-- A group with a name, and the rest. -/
def named? (m : Mode) (rest : List Char) : Option (Head × List Char) :=
  (name? rest).map fun (name, rest) => (group m name, rest)

/-- What stands behind an opening parenthesis, and the rest. -/
def read? (m : Mode) (rest : List Char) : Option (Head × List Char) :=
  match m.skip rest with
  | '?' :: 'P' :: '<' :: rest => named? m rest
  | '?' :: '<' :: rest => named? m rest
  | '?' :: rest =>
    match switches? m true [] rest with
    | some (inside, _, ':' :: rest) => some (group inside none, rest)
    | some (behind, _ :: _, _ :: rest) => some (switch behind, rest)
    | _ => none
  | rest => some (group m none, rest)

end Head

end StartupBench.Log.Pattern
