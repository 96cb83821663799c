import DeclAtlas.CType

/-! How deep types nest. Every type and every parameter inside another takes a level. The kinds
that hold others form families, each with rules of its own for what is inside; where the rules
change over to a narrower family, that takes one more level. -/

namespace DeclAtlas

/-- The families, the narrowest first. Kinds that hold nothing belong to the widest. -/
inductive Family where
  | pointers
  | arrays
  | parameters
  | prototypes
  | functionPointers
  | everything
  deriving DecidableEq, Repr, Inhabited

def Family.rank : Family → Nat
  | pointers => 0
  | arrays => 1
  | parameters => 2
  | prototypes => 3
  | functionPointers => 4
  | everything => 5

/-- A place among nested types: whose rules hold there, and how many levels lead to it. -/
structure Nesting where
  family : Family := .everything
  levels : Nat := 0
  deriving DecidableEq, Repr, Inhabited

namespace Nesting

def limit : Nat := 255

def enter (n : Nesting) (f : Family) : Nesting :=
  if f.rank < n.family.rank then ⟨f, n.levels + 2⟩ else { n with levels := n.levels + 1 }

def tooDeep (n : Nesting) : Bool := decide (limit < n.levels)

def parameter : Nesting := ⟨.parameters, 1⟩

end Nesting

mutual

def CType.fits (n : Nesting) : CType → Bool
  | .void | .base _ | .named .. | .enum _ | .composite _ => !(n.enter .everything).tooDeep
  | .pointer t _ => !(n.enter .pointers).tooDeep && t.fits (n.enter .pointers)
  | .array t _ => !(n.enter .arrays).tooDeep && t.fits (n.enter .arrays)
  | .prototype ret args _ =>
    let inside := n.enter .prototypes
    !inside.tooDeep && ret.fits inside && paramsFit inside args
  | .functionPointer ret args _ =>
    let inside := n.enter .functionPointers
    !inside.tooDeep && ret.fits inside && paramsFit inside args

def paramsFit (n : Nesting) : List (Param CType) → Bool
  | [] => true
  | ⟨_, t⟩ :: rest =>
    !(n.enter .parameters).tooDeep && t.fits (n.enter .parameters) && paramsFit n rest

end

end DeclAtlas
