/-!
# What has happened

Things are noted one at a time and looked at rarely, so the latest stands first.
-/

namespace StartupBench

/-- What has happened. -/
structure History (α : Type) where
  latestFirst : List α := []
  deriving Repr

namespace History

variable {α : Type}

/-- Nothing. -/
def empty : History α := {}

/-- Note one more thing. -/
def push (h : History α) (a : α) : History α := ⟨a :: h.latestFirst⟩

/-- Everything, in the order in which it happened. -/
def toList (h : History α) : List α := h.latestFirst.reverse

/-- How much has happened. -/
def length (h : History α) : Nat := h.latestFirst.length

@[simp] theorem toList_empty : (empty : History α).toList = [] := rfl

@[simp] theorem toList_push (h : History α) (a : α) : (h.push a).toList = h.toList ++ [a] := by
  simp [toList, push]

@[simp] theorem length_push (h : History α) (a : α) : (h.push a).length = h.length + 1 := by
  simp [length, push]

end History

end StartupBench
