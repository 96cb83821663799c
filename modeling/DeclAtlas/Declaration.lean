import DeclAtlas.CType

/-! Declarations. Every declaration has a name with an identity, and a form that says
what it is. Two declarations are the same exactly when their identities are. -/

namespace DeclAtlas

structure Location where
  file : String := ""
  line : Int := 0
  column : Int := 0
  deriving DecidableEq, Repr, Inhabited

def Location.text (l : Location) : String := s!"{l.file}:{l.line}:{l.column}"

structure Layout where
  size : Int := 0
  align : Int := 0
  deriving DecidableEq, Repr, Inhabited

/-- A spelling, empty for an unnamed declaration, and the identity behind it. -/
structure Name where
  text : String
  id : Int
  deriving DecidableEq, Repr, Inhabited

def Name.display (n : Name) : String := if n.text = "" then s!"<anonymous#{n.id}>" else n.text

inductive CompositeKind where
  | struct
  | union
  deriving DecidableEq, Repr, Inhabited

def CompositeKind.word : CompositeKind → String
  | .struct => "struct"
  | .union => "union"

def CompositeKind.ofWord? (s : String) : Option CompositeKind :=
  [struct, union].find? (·.word == s)

/-- What a declaration is. A `builtin` stands for one that is bound elsewhere. -/
inductive Form where
  | composite (location : Location) (kind : CompositeKind) (layout : Layout)
  | enum (location : Location)
  | typedef (location : Location) (type : CType)
  | var (location : Location) (type : CType) (isConst : Bool)
  | function (location : Location) (type : CType)
  | builtin (type : CType)
  deriving Repr, Inhabited

namespace Form

def word : Form → String
  | composite .. => "composite"
  | enum .. => "enum"
  | typedef .. => "typedef"
  | var .. => "var"
  | function .. => "function"
  | builtin .. => "builtin"

def location? : Form → Option Location
  | composite l .. => some l
  | enum l => some l
  | typedef l _ => some l
  | var l .. => some l
  | function l _ => some l
  | builtin _ => none

def type? : Form → Option CType
  | composite .. => none
  | enum _ => none
  | typedef _ t => some t
  | var _ t _ => some t
  | function _ t => some t
  | builtin t => some t

/-- The form with its type replaced; a record or enum has none to replace. -/
def withType (t : CType) : Form → Form
  | typedef l _ => typedef l t
  | var l _ c => var l t c
  | function l _ => function l t
  | builtin _ => builtin t
  | f => f

def withConst (isConst : Bool) : Form → Form
  | var l t _ => var l t isConst
  | f => f

def withLayout (layout : Layout) : Form → Form
  | composite l k _ => composite l k layout
  | f => f

def isBuiltin : Form → Bool
  | builtin _ => true
  | _ => false

def isComposite : Form → Bool
  | composite .. => true
  | _ => false

end Form

structure Global where
  name : Name
  form : Form
  deriving Repr, Inhabited

namespace Global

def id (g : Global) : Int := g.name.id

/-- Two globals are the same declaration when their identities agree. -/
def same (a b : Global) : Bool := a.id == b.id

def location? (g : Global) : Option Location := g.form.location?

def type? (g : Global) : Option CType := g.form.type?

def isBuiltin (g : Global) : Bool := g.form.isBuiltin

def withType (t : CType) (g : Global) : Global := { g with form := g.form.withType t }

def withConst (isConst : Bool) (g : Global) : Global := { g with form := g.form.withConst isConst }

def withLayout (layout : Layout) (g : Global) : Global :=
  { g with form := g.form.withLayout layout }

/-- The name a binding gives a declaration: its spelling, or a stand-in for an unnamed one. -/
def bindingName (g : Global) : String :=
  if g.name.text = "" then s!"anon_{g.name.id}" else g.name.text

/-- The word shown for a declaration's kind: records are shown as what they are. -/
def kindWord (g : Global) : String :=
  match g.form with
  | .composite _ k _ => k.word
  | f => f.word

end Global

end DeclAtlas
