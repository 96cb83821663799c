import DeclAtlas.Listing

/-! Records and enums that the unit declares and never defines. -/

namespace DeclAtlas

/-- The integer kind that stores an enum; `int` when the front end names none. -/
def SourceUnit.enumKind (u : SourceUnit) (c : CursorId) : BaseKind :=
  match (u.typeKind (u.canonicalType (u.cursor c).enumType)).base? with
  | some k => if k.isInteger then k else .int
  | none => .int

def recordNoMembers (u : SourceUnit) (c : CursorId) (g : Global) : Step Fault Listing Unit :=
  match g.form with
  | .composite .. => Step.modify (·.setMembers g.id [] true)
  | .enum _ => Step.modify (·.setEnumItems g.id { kind := u.enumKind c })
  | _ => Step.fail (.notDeclarable (u.kind c).name (u.spellingOf c))

/-- Lists a record or enum that has no definition, without members. -/
def declareIncomplete (u : SourceUnit) (c : CursorId) : Step Fault Listing Global := do
  let g ← Listing.lookup u c
  if g.isBuiltin || (← Step.read (·.isListed g.id)) then
    return g
  Step.modify fun l => (l.note (.declaringIncomplete g.name)).markIncomplete g.id
  recordNoMembers u c g
  Step.modify (·.add g)
  return g

end DeclAtlas
