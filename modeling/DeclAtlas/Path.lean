/-! Paths, as text that names a file. A path is kept without empty and `.` components; `..`
stays, because what it means depends on the files. -/

namespace DeclAtlas

/-- A path: how many slashes lead it (none for a relative path, one, or exactly two) and its
components. -/
structure Path where
  slashes : Nat
  parts : List String
  deriving DecidableEq, Repr, Inhabited

namespace Path

def pieces : List Char → List (List Char)
  | [] => [[]]
  | c :: cs =>
    if c = '/' then [] :: pieces cs
    else match pieces cs with
      | [] => [[c]]
      | p :: ps => (c :: p) :: ps

/-- Two leading slashes are kept as they are; any other number of them counts as one. -/
def leadingSlashes (cs : List Char) : Nat :=
  let n := (cs.takeWhile (· == '/')).length
  if n = 2 then 2 else min n 1

def ofString (s : String) : Path :=
  ⟨leadingSlashes s.toList,
    ((pieces s.toList).filter fun p => p ≠ [] && p ≠ ['.']).map String.ofList⟩

/-- The text of a path; the path without components is `.`. -/
def text (p : Path) : String :=
  let body := String.intercalate "/" p.parts
  if p.slashes = 0 ∧ p.parts = [] then "."
  else String.ofList (List.replicate p.slashes '/') ++ body

def isAbsolute (p : Path) : Bool := p.slashes != 0

def hasNull (p : Path) : Bool := p.parts.any fun s => s.toList.contains '\x00'

/-- `q` seen from `p`; an absolute `q` is itself. -/
def join (p q : Path) : Path := if q.isAbsolute then q else ⟨p.slashes, p.parts ++ q.parts⟩

def child (p : Path) (name : String) : Path := ⟨p.slashes, p.parts ++ [name]⟩

/-- The path without its last component; a path without components is its own parent. -/
def parent (p : Path) : Path := ⟨p.slashes, p.parts.dropLast⟩

def name (p : Path) : String := p.parts.getLast?.getD ""

end Path

end DeclAtlas
