import DeclAtlas.Extraction.Conversion
import DeclAtlas.Extraction.Members

/-! Definitions of records and enums, and the knot between conversion and definition. -/

namespace DeclAtlas

def visitDefinition (u : SourceUnit) (r : Recursion) (c : CursorId) (g : Global) :
    Step Fault Listing Global :=
  match g.form with
  | .composite .. => do
    let members ← visitMembers u r c
    Step.modify (·.setMembers g.id members (Member.irregular members))
    return g.withLayout (u.layoutOf c)
  | .enum _ => do
    Step.modify (·.setEnumItems g.id ⟨u.enumItems c, u.enumKind c⟩)
    return g
  | _ => Step.fail (.notDefinable (u.kind c).name (u.spellingOf c))

/-- Gives up a definition. If the fault is its own, the declaration is poisoned and what was
listed since `mark` is withdrawn. -/
def abandon (mark : Nat) (g : Global) (e : Fault) : Step Fault Listing Global :=
  if e.isLocal then do
    Step.modify (·.poison g.id)
    Listing.withdrawSince mark g
    Step.fail e
  else Step.fail e

def defineTag (u : SourceUnit) (r : Recursion) (c : CursorId) : Step Fault Listing Global := do
  let g ← Listing.lookup u c
  if g.isBuiltin then
    return g
  let mark ← Step.read (·.added.length)
  Step.modify (·.startDefining g.id)
  let g ← ((visitDefinition u r c g).handling (abandon mark g)).andAlways (·.stopDefining g.id)
  Step.modify (·.add g)
  return g

namespace SourceUnit

mutual

/-- Conversion with at most `depth` nested conversions and definitions. -/
def convertWithin (u : SourceUnit) : Nat → TypeId → CursorId → Step Fault Listing CType
  | 0, _, _ => Step.fail .exhausted
  | depth + 1, t, c => convertType u ⟨u.convertWithin depth, u.defineWithin depth⟩ t c

def defineWithin (u : SourceUnit) : Nat → CursorId → Step Fault Listing Global
  | 0, _ => Step.fail .exhausted
  | depth + 1, c => defineTag u ⟨u.convertWithin depth, u.defineWithin depth⟩ c

end

def recursionWithin (u : SourceUnit) (depth : Nat) : Recursion :=
  ⟨u.convertWithin depth, u.defineWithin depth⟩

def recursion (u : SourceUnit) : Recursion := u.recursionWithin u.recursionBound

end SourceUnit

end DeclAtlas
