import DeclAtlas.Declaration
import DeclAtlas.Unit.Kind

/-! A source unit as the front end describes it: cursors for declarations and nodes
for types, referring to one another by index. Every question about a cursor or a type has an
answer; the missing cursor and the invalid type answer with defaults. -/

namespace DeclAtlas

/-- A cursor of a unit, or the cursor that stands for no declaration. -/
inductive CursorId where
  | absent
  | node (index : Nat)
  deriving DecidableEq, Repr, Inhabited

/-- A type of a unit, or the invalid type. -/
inductive TypeId where
  | invalid
  | node (index : Nat)
  deriving DecidableEq, Repr, Inhabited

/-- What the front end says about one cursor. A cursor without `canonical` is its own. -/
structure Cursor where
  kind : CursorKind
  spelling : String := ""
  file : Option String := none
  line : Int := 0
  column : Int := 0
  canonical : Option CursorId := none
  definition : Option CursorId := none
  type : TypeId := .invalid
  enumType : TypeId := .invalid
  underlying : TypeId := .invalid
  enumValue : Int := 0
  children : List CursorId := []
  args : List CursorId := []
  linkage : Linkage := .invalid
  anonymous : Bool := false
  usr : String := ""
  offset : Int := -1
  bitWidth : Option Int := none
  deriving Repr, Inhabited

/-- What the front end says about one type. A type without `canonical` is its own; a name
missing from `offsets` has offset -1. -/
structure TypeNode where
  kind : TypeKind
  spelling : String := ""
  isConst : Bool := false
  canonical : Option TypeId := none
  pointee : TypeId := .invalid
  named : TypeId := .invalid
  result : TypeId := .invalid
  element : TypeId := .invalid
  count : Int := -1
  params : List TypeId := []
  variadic : Bool := false
  decl : CursorId := .absent
  size : Int := -1
  align : Int := -1
  offsets : List (String × Int) := []
  deriving Repr, Inhabited

structure SourceUnit where
  spelling : String
  cursors : Array Cursor
  types : Array TypeNode
  deriving Repr, Inhabited

namespace SourceUnit

def root : CursorId := .node 0

def cursor (u : SourceUnit) : CursorId → Cursor
  | .absent => { kind := .noDeclFound }
  | .node i => u.cursors[i]?.getD { kind := .noDeclFound }

def typeNode (u : SourceUnit) : TypeId → TypeNode
  | .invalid => { kind := .invalid }
  | .node i => u.types[i]?.getD { kind := .invalid }

def kind (u : SourceUnit) (c : CursorId) : CursorKind := (u.cursor c).kind

def spellingOf (u : SourceUnit) (c : CursorId) : String := (u.cursor c).spelling

/-- The cursor that stands for all declarations of one thing. The absent cursor has none of its
own; the last cursor of the unit is given for it. -/
def canonical (u : SourceUnit) (c : CursorId) : CursorId :=
  match c with
  | .absent => .node (u.cursors.size - 1)
  | c => (u.cursor c).canonical.getD c

def children (u : SourceUnit) (c : CursorId) : List CursorId := (u.cursor c).children

def typeKind (u : SourceUnit) (t : TypeId) : TypeKind := (u.typeNode t).kind

def canonicalType (u : SourceUnit) (t : TypeId) : TypeId := (u.typeNode t).canonical.getD t

def locationOf (u : SourceUnit) (c : CursorId) : Location :=
  let k := u.cursor c
  ⟨k.file.getD "", k.line, k.column⟩

/-- Declarations that the compiler provides have no source file. -/
def isImplicit (u : SourceUnit) (c : CursorId) : Bool := (u.cursor c).file.isNone

def isFound (u : SourceUnit) (c : CursorId) : Bool := !(u.kind c).isInvalid

def definition? (u : SourceUnit) (c : CursorId) : Option CursorId :=
  (u.cursor c).definition.filter u.isFound

def isDefinition (u : SourceUnit) (c : CursorId) : Bool := u.definition? c == some c

/-- Size and alignment of the declared type; what an incomplete type answers counts as 0. -/
def layoutOf (u : SourceUnit) (c : CursorId) : Layout :=
  let t := u.typeNode (u.cursor c).type
  ⟨max t.size 0, max t.align 0⟩

/-- The bit offset of a field name in the declared type, negative if it has none. -/
def offsetOf (u : SourceUnit) (c : CursorId) (name : String) : Int :=
  ((u.typeNode (u.cursor c).type).offsets.lookup name).getD (-1)

/-- A number of nested visits that no unit with acyclic children exceeds. -/
def depthBound (u : SourceUnit) : Nat := u.cursors.size + 2

/-- A number of nested conversions and definitions that is enough where neither children nor
the conversions of types into one another form cycles: there are at most `cursors` definitions
on demand under way at once, each reached through at most `cursors` nested definitions and as
many conversions as there are pairs of a type and a cursor. -/
def recursionBound (u : SourceUnit) : Nat :=
  (u.cursors.size + 2) * (u.cursors.size + 2) *
    ((u.types.size + 2) * (u.cursors.size + 2) + 1) + 1

end SourceUnit

end DeclAtlas
