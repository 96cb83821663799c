import DeclAtlas.Table
import DeclAtlas.Unit.Tag

/-! Builtins: declarations that are already bound under an external name. A builtin is
recognised by the shape of the declaration it stands in for, so declarations shared by two
units are bound once. -/

namespace DeclAtlas

structure Shape where
  location : Location
  spelling : String
  kind : String
  deriving DecidableEq, Repr, Inhabited

def SourceUnit.shapeOf (u : SourceUnit) (c : CursorId) : Shape :=
  ⟨u.locationOf c, u.declSpelling c, (u.kind c).name⟩

/-- The kind of cursor that declares a form; builtins are declared elsewhere. -/
def Form.cursorKind? : Form → Option CursorKind
  | .composite _ .struct _ => some .structDecl
  | .composite _ .union _ => some .unionDecl
  | .enum _ => some .enumDecl
  | .typedef .. => some .typedefDecl
  | .var .. => some .varDecl
  | .function .. => some .functionDecl
  | .builtin _ => none

def Global.shape? (g : Global) : Option Shape :=
  match g.form.cursorKind?, g.location? with
  | some kind, some location => some ⟨location, g.name.text, kind.name⟩
  | _, _ => none

structure BuiltinEntry where
  shape : Shape
  name : String
  deriving DecidableEq, Repr, Inhabited

abbrev Builtins : Type := Table Shape String

namespace Builtins

/-- Of two entries with one shape the later one counts. -/
def ofEntries (entries : List BuiltinEntry) : Builtins :=
  Table.ofList (entries.map fun e => (e.shape, e.name))

def resolve? (b : Builtins) (u : SourceUnit) (c : CursorId) : Option String :=
  b.get? (u.shapeOf c)

end Builtins

/-- A name under a qualifier; the empty qualifier leaves it as it is. -/
def qualify (qualifier name : String) : String :=
  if qualifier = "" then name else qualifier ++ "." ++ name

end DeclAtlas
