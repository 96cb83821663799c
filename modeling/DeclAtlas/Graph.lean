import DeclAtlas.Fault
import DeclAtlas.IdSet
import DeclAtlas.Member
import DeclAtlas.Note
import DeclAtlas.Table

/-! The declaration graph: the listed declarations of a unit in order, with tables of the
members and constants that describe them. -/

namespace DeclAtlas

structure Graph where
  declarations : List Global := []
  members : IdTable (List Member) := ∅
  enumItems : IdTable EnumItems := ∅
  irregular : IdSet := ∅
  diagnostics : List Diagnostic := []
  deriving Inhabited

namespace Graph

def get (g : Graph) (id : Int) : Except Fault Global :=
  match g.declarations.find? (·.id == id) with
  | some d => .ok d
  | none => .error (.unresolved s!"#{id}" Fault.notRegistered)

/-- The first declaration of a spelling, of one form only if `word` names it. -/
def lookup (g : Graph) (spelling : String) (word : Option String) : Except Fault Global :=
  match g.declarations.find? fun d =>
      d.name.text == spelling && word.all (· == d.form.word) with
  | some d => .ok d
  | none => .error (.unresolved spelling Fault.notRegistered)

/-- The members of a record, unless it is irregular. -/
def membersOf (g : Graph) (d : Global) : Option (List Member) :=
  if d.id ∈ g.irregular then none else g.members.get? d.id

def enumItemsOf (g : Graph) (d : Global) : EnumItems := (g.enumItems.get? d.id).getD {}

/-- The graph over some of its declarations, with what the tables say about these and every
diagnostic. -/
def withDeclarations (g : Graph) (kept : List Global) : Graph :=
  let ids := kept.map Global.id
  { declarations := kept
    members := g.members.filterKeys ids.contains
    enumItems := g.enumItems.filterKeys ids.contains
    irregular := g.irregular.filter ids.contains
    diagnostics := g.diagnostics }

def select (p : Global → Bool) (g : Graph) : Graph := g.withDeclarations (g.declarations.filter p)

end Graph

def paddingElement? (align : Int) : Option BaseKind :=
  if align = 1 then some .char
  else if align = 2 then some .short
  else if align = 4 then some .int
  else if align = 8 then some .llong
  else none

/-- The array that takes the room of a layout: as many elements of its alignment as fill its
size exactly. -/
def Layout.padding? (l : Layout) : Option CType :=
  match paddingElement? l.align with
  | some k =>
    if l.size = 0 ∨ l.size < l.align ∨ Int.fmod l.size l.align ≠ 0 then none
    else some (.array (.base k) (Int.fdiv l.size l.align))
  | none => none

namespace Global

/-- Stand-in members for an irregular record: one array sized and aligned like it, or none
if there is no such array, which is noted. Only records have them. -/
def padding? (g : Global) : Option (List Member × List Note) :=
  match g.form with
  | .composite _ _ layout =>
    match layout.padding? with
    | some array => some ([.field "auto_array" array 0 none], [])
    | none => some ([], [.cannotPad g.name layout])
  | _ => none

end Global

end DeclAtlas
