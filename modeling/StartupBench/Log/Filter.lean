import StartupBench.Log.Directive

/-!
# Which log events are shown

A filter is a list of directives with commas between.  Of the directives that concern an event the
most specific decides: the one with the longest target, then the one that asks for more fields; of
two that ask for the same the later one.  A directive about spans or values never concerns an event,
for this program has no spans.
-/

namespace StartupBench.Log

namespace Directive

/-- Whether a directive concerns an event. -/
def concerns (d : Directive) (e : Event) : Bool :=
  (d.target.all fun target => target.toList.isPrefixOf e.component.path.toList) &&
    d.fields.all fun f => e.fieldNames.contains f.name

/-- How specific the target of a directive is. -/
def reach (d : Directive) : Nat :=
  match d.target with
  | none => 0
  | some target => target.utf8ByteSize + 1

/-- Whether the first list does not stand behind the second in the order of lists of names. -/
def inOrder : List String → List String → Bool
  | [], _ => true
  | _ :: _, [] => false
  | a :: as, b :: bs => decide (a < b) || (a == b && inOrder as bs)

/-- Whether `b` decides about an event that both concern, `b` being the later one. -/
def yieldsTo (a b : Directive) : Bool :=
  if a.reach ≠ b.reach then decide (a.reach < b.reach)
  else if a.fields.length ≠ b.fields.length then decide (a.fields.length < b.fields.length)
  else inOrder (a.fields.map (·.name)) (b.fields.map (·.name))

end Directive

/-- A filter: directives that can concern events, in the order in which they are written. -/
abbrev Filter := List Directive

namespace Filter

/-- A filter that shows a level and everything more severe. -/
def upTo (level : Level) : Filter := [{ threshold := some level }]

/-- Reads a filter.  One bad directive makes the whole filter bad; an empty filter shows nothing. -/
def read? (text : String) : Option Filter :=
  let pieces := (Text.splitOn ',' text).filter fun s => !s.isEmpty
  (pieces.mapM Directive.read?).map fun directives => directives.filter Directive.isPlain

/-- The directive that decides about an event. -/
def deciding (f : Filter) (e : Event) : Option Directive :=
  (f.filter fun d => d.concerns e).foldl
    (fun best d => match best with
      | some b => if b.yieldsTo d then some d else some b
      | none => some d) none

/-- Whether an event is shown. -/
def shows (f : Filter) (e : Event) : Bool :=
  ((f.deciding e).bind (·.threshold)).any fun level => decide (e.level.rank ≤ level.rank)

end Filter

end StartupBench.Log
