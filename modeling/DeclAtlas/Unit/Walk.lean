import DeclAtlas.Fault
import DeclAtlas.Step
import DeclAtlas.Unit.Basic

/-! The walk over a unit: pre-order over the children of a cursor, where each child visited
decides whether the walk goes on beside it, below it, or not at all. -/

namespace DeclAtlas

inductive Advance where
  | beside
  | below
  | nowhere
  deriving DecidableEq, Repr, Inhabited

namespace SourceUnit

variable {σ : Type}

/-- Walks over some children of `parent`; `descend` walks over the children of one of them.
The result says whether the walk was ended. -/
def walkChildren (step : CursorId → CursorId → Step Fault σ Advance)
    (descend : CursorId → Step Fault σ Bool) (parent : CursorId) :
    List CursorId → Step Fault σ Bool
  | [] => pure false
  | c :: rest => do
    match (← step c parent) with
    | .nowhere => pure true
    | .beside => walkChildren step descend parent rest
    | .below =>
      if (← descend c) then pure true else walkChildren step descend parent rest

/-- Walks to a depth of at most `depth`; going deeper is a fault. -/
def walkWithin (u : SourceUnit) (step : CursorId → CursorId → Step Fault σ Advance) :
    Nat → CursorId → Step Fault σ Bool
  | 0, _ => Step.fail .exhausted
  | depth + 1, parent =>
    walkChildren step (u.walkWithin step depth) parent (u.children parent)

def walk (u : SourceUnit) (step : CursorId → CursorId → Step Fault σ Advance) (root : CursorId) :
    Step Fault σ Unit := do
  let _ ← u.walkWithin step u.depthBound root

end SourceUnit

end DeclAtlas
