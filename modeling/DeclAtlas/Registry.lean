import DeclAtlas.Builtin
import DeclAtlas.IdSet
import DeclAtlas.Note
import DeclAtlas.Fault
import DeclAtlas.Step

/-! The registry: one global for each canonical cursor. Skipped declarations stay in it,
poisoned, so that later references to them are noticed. -/

namespace DeclAtlas

structure Registry where
  builtins : Builtins := ∅
  globals : IdTable Global := ∅
  ids : Table CursorId Int := ∅
  poisoned : IdSet := ∅
  /-- Types recorded for a record or enum because a cursor of another kind redeclares it. -/
  recast : IdTable CType := ∅
  deriving Inhabited

namespace Registry

def size (r : Registry) : Nat := r.globals.size

def idOf? (r : Registry) (u : SourceUnit) (c : CursorId) : Option Int :=
  r.ids.get? (u.canonical c)

def contains (r : Registry) (u : SourceUnit) (c : CursorId) : Bool :=
  (r.idOf? u c).isSome

def isPoisoned (r : Registry) (id : Int) : Bool := decide (id ∈ r.poisoned)

def poison (id : Int) (r : Registry) : Registry := { r with poisoned := r.poisoned.insert id }

def update (g : Global) (r : Registry) : Registry :=
  { r with globals := r.globals.insert g.id g }

/-- Replaces a global by one from outside, which brings no recorded type along. -/
def install (g : Global) (r : Registry) : Registry :=
  { r.update g with recast := r.recast.erase g.id }

/-- The global under an identity, unless it was skipped. -/
def get (r : Registry) (id : Int) : Except Fault Global :=
  match r.globals.get? id with
  | none => .error (.unresolved s!"#{id}" Fault.notRegistered)
  | some g => if id ∈ r.poisoned then .error (.unresolved g.name.display Fault.wasSkipped) else .ok g

def find (r : Registry) (u : SourceUnit) (c : CursorId) : Except Fault Global :=
  match r.idOf? u c with
  | none => .error (.unresolved (u.spellingOf c) Fault.notRegistered)
  | some id => r.get id

end Registry

namespace SourceUnit

def compositeKind (u : SourceUnit) (c : CursorId) : Except Fault CompositeKind :=
  match u.kind c with
  | .structDecl => .ok .struct
  | .unionDecl => .ok .union
  | k => .error (.notRecord k.name)

/-- What a cursor declares, before its type or members are known. -/
def formOf (u : SourceUnit) (c : CursorId) : Except Fault Form :=
  match u.kind c with
  | .structDecl => .ok (.composite (u.locationOf c) .struct (u.layoutOf c))
  | .unionDecl => .ok (.composite (u.locationOf c) .union (u.layoutOf c))
  | .enumDecl => .ok (.enum (u.locationOf c))
  | .typedefDecl => .ok (.typedef (u.locationOf c) .void)
  | .varDecl => .ok (.var (u.locationOf c) .void false)
  | .functionDecl => .ok (.function (u.locationOf c) .void)
  | k => .error (.unclassified k.name (u.spellingOf c))

end SourceUnit

namespace Registry

/-- The global that a canonical cursor is first registered as, and what there is to note
about it. A builtin takes the place of any declaration of its shape. -/
def newGlobal (r : Registry) (u : SourceUnit) (c : CursorId) (id : Int) :
    Except Fault (Global × List Note) :=
  let name : Name := ⟨u.declSpelling c, id⟩
  match r.builtins.resolve? u c with
  | some external =>
    .ok (⟨name, .builtin (.named external true none)⟩, [.usingBuiltin external (u.spellingOf c)])
  | none => (u.formOf c).map fun form => (⟨name, form⟩, [])

def register (c : CursorId) (g : Global) (r : Registry) : Registry :=
  { r with ids := r.ids.insert c g.id, globals := r.globals.insert g.id g,
           recast := r.recast.erase g.id }

end Registry

end DeclAtlas
