import DeclAtlas.Extraction.Definition
import DeclAtlas.Unit.Walk

/-! Declarations at the top level of a unit. A declaration that cannot be represented is
skipped and reported, and the walk goes on. -/

namespace DeclAtlas

/-- Lists a global with its type found. A record or enum that a cursor of another kind
redeclares has no place for a type; it is recorded aside. -/
def Listing.addTyped (g : Global) (t : CType) (l : Listing) : Listing :=
  match g.form with
  | .composite .. | .enum _ =>
    { l with registry := { l.registry with recast := l.registry.recast.insert g.id t } }.add g
  | _ => l.add (g.withType t)

/-- Whether a function or variable can be bound from outside; one that cannot is noted. -/
def checkLinkage (u : SourceUnit) (c : CursorId) : Step Fault Listing Bool := do
  let k := u.cursor c
  if k.linkage.isBindable then
    return true
  Step.modify (·.note (.dropping k.spelling k.linkage.name))
  return false

def visitFunction (u : SourceUnit) (r : Recursion) (c : CursorId) : Step Fault Listing Unit := do
  if (← checkLinkage u c) then
    let g ← Listing.lookup u c
    if !g.isBuiltin then
      let s ← signature u r (u.cursor c).type c
      Step.modify (·.addTyped g s.toPointer)

def visitVar (u : SourceUnit) (r : Recursion) (c : CursorId) : Step Fault Listing Unit := do
  if (← checkLinkage u c) then
    let g ← Listing.lookup u c
    if !g.isBuiltin then
      let t ← r.convert (u.cursor c).type c
      Step.modify (·.addTyped (g.withConst (u.typeNode (u.cursor c).type).isConst) t)

/-- The type that a typedef names; a type the front end does not expose is looked through. -/
def SourceUnit.typedefTarget (u : SourceUnit) (c : CursorId) : TypeId :=
  let t := (u.cursor c).underlying
  if u.typeKind t = .unexposed then u.canonicalType t else t

/-- A typedef of an undefined record or enum still names something to refer to: it is listed
as incomplete. -/
def declareTarget (u : SourceUnit) (t : TypeId) : Step Fault Listing Unit :=
  let t := if u.typeKind t = .elaborated then (u.typeNode t).named else t
  if u.typeKind t = .record || u.typeKind t = .enum then
    match u.definition? (u.typeNode t).decl with
    | none => do let _ ← declareIncomplete u (u.typeNode t).decl
    | some _ => pure ()
  else pure ()

def visitTypedef (u : SourceUnit) (r : Recursion) (c : CursorId) : Step Fault Listing Unit := do
  let g ← Listing.lookup u c
  if !g.isBuiltin then
    declareTarget u (u.typedefTarget c)
    let t ← r.convert (u.typedefTarget c) c
    Step.modify (·.addTyped g t)

/-- Extracts one declaration; cursors that declare nothing the graph holds are passed over. -/
def visitDeclaration (u : SourceUnit) (r : Recursion) (c : CursorId) : Step Fault Listing Unit :=
  match u.kind c with
  | .structDecl | .unionDecl | .enumDecl => do let _ ← declare u r c
  | .functionDecl => visitFunction u r c
  | .varDecl => visitVar u r c
  | .typedefDecl => visitTypedef u r c
  | _ => pure ()

def Listing.skipCursor (u : SourceUnit) (c : CursorId) (e : Fault) : Step Fault Listing Unit := do
  if (← Step.read (·.registry.contains u c)) then
    let g ← Listing.lookup u c
    Step.modify fun l => (l.poison g.id).remove g.id
  Step.modify (·.diagnose ⟨"warning", u.spellingOf c, some (u.locationOf c), e.message⟩)

/-- Skips a declaration whose own fault stopped it; other faults end the extraction. -/
def skipOnFault (u : SourceUnit) (c : CursorId) (e : Fault) : Step Fault Listing Unit :=
  if e.isLocal then Listing.skipCursor u c e else Step.fail e

/-- One step of the walk. What the compiler provides is extracted only when referred to, and
declarations inside an unexposed one are visited as if they stood beside it. -/
def visitTop (u : SourceUnit) (r : Recursion) (c _parent : CursorId) : Step Fault Listing Advance :=
  if u.isImplicit c then pure .beside
  else if u.kind c = .unexposedDecl then pure .below
  else do
    (visitDeclaration u r c).handling (skipOnFault u c)
    return .beside

end DeclAtlas
