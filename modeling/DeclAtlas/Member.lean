import DeclAtlas.CType

/-! Members of records and constants of enums. They are kept beside the declarations,
in tables keyed by identity. -/

namespace DeclAtlas

/-- A member of a record; offsets and widths are in bits. A field `owns` the nested
declaration that it defines in place. -/
inductive Member where
  | field (name : String) (type : CType) (offset : Int) (owns : Option Int)
  | bitfield (name : String) (type : CType) (width : Int) (offset : Int)
  deriving Repr, Inhabited

namespace Member

def name : Member → String
  | field n .. => n
  | bitfield n .. => n

def type : Member → CType
  | field _ t .. => t
  | bitfield _ t .. => t

def owns? : Member → Option Int
  | field _ _ _ owns => owns
  | bitfield .. => none

def isBitfield : Member → Bool
  | bitfield .. => true
  | field .. => false

def byteOffset? : Member → Option Int
  | field _ _ offset _ => some (Int.fdiv offset 8)
  | bitfield .. => none

/-- A record is irregular when it has no members or any bitfield: it then has no
structured layout to offer. -/
def irregular (members : List Member) : Bool := members.isEmpty || members.any isBitfield

end Member

structure EnumItem where
  name : String
  value : Int
  deriving DecidableEq, Repr, Inhabited

structure EnumItems where
  items : List EnumItem := []
  kind : BaseKind := .int
  deriving DecidableEq, Repr, Inhabited

end DeclAtlas
