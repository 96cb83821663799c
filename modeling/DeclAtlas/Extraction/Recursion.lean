import DeclAtlas.Listing

/-! Converting a type may define a record on demand, and defining a record converts the
types of its members. Both are written over a `Recursion`, which supplies the nested
conversions and definitions; the bound on their depth is applied where the knot is tied. -/

namespace DeclAtlas

/-- The nested conversions and definitions that a conversion or definition may ask for. -/
structure Recursion where
  convert : TypeId → CursorId → Step Fault Listing CType
  define : CursorId → Step Fault Listing Global

def Recursion.exhausted : Recursion :=
  ⟨fun _ _ => Step.fail .exhausted, fun _ => Step.fail .exhausted⟩

end DeclAtlas
