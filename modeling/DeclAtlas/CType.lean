/-! The type model. A type refers to declarations by identity only, so records that
refer to themselves or to one another need no infinite types. -/

namespace DeclAtlas

inductive BaseKind where
  | char | schar | uchar | short | ushort | int | uint | long | ulong | llong | ullong | wchar
  | float | double | ldouble | complex32 | complex64 | complexld
  deriving DecidableEq, Repr, Inhabited

namespace BaseKind

def word : BaseKind → String
  | char => "char"
  | schar => "schar"
  | uchar => "uchar"
  | short => "short"
  | ushort => "ushort"
  | int => "int"
  | uint => "uint"
  | long => "long"
  | ulong => "ulong"
  | llong => "llong"
  | ullong => "ullong"
  | wchar => "wchar"
  | float => "float"
  | double => "double"
  | ldouble => "ldouble"
  | complex32 => "complex32"
  | complex64 => "complex64"
  | complexld => "complexld"

def all : List BaseKind :=
  [char, schar, uchar, short, ushort, int, uint, long, ulong, llong, ullong, wchar,
   float, double, ldouble, complex32, complex64, complexld]

def ofWord? (s : String) : Option BaseKind := all.find? (·.word == s)

/-- The kinds an enum may be stored in; wide characters and floating kinds are not. -/
def isInteger : BaseKind → Bool
  | char | schar | uchar | short | ushort | int | uint | long | ulong | llong | ullong => true
  | _ => false

end BaseKind

/-- A function's parameter; an unnamed one has the empty name. -/
structure Param (τ : Type) where
  name : String := ""
  type : τ
  deriving Repr, Inhabited

/-- A C type. `named` refers to a typedef, or to a name bound elsewhere when `external`;
`enum` and `composite` refer to declarations. The size of an array without one is 0. -/
inductive CType where
  | void
  | base (kind : BaseKind)
  | named (name : String) (external : Bool) (ref : Option Int)
  | pointer (pointee : CType) (isConst : Bool)
  | array (element : CType) (size : Int)
  | prototype (ret : CType) (args : List (Param CType)) (variadic : Bool)
  | functionPointer (ret : CType) (args : List (Param CType)) (variadic : Bool)
  | enum (ref : Int)
  | composite (ref : Int)
  deriving Repr, Inhabited

structure Signature where
  ret : CType
  args : List (Param CType)
  variadic : Bool
  deriving Repr, Inhabited

namespace Signature

def toPrototype (s : Signature) : CType := .prototype s.ret s.args s.variadic

def toPointer (s : Signature) : CType := .functionPointer s.ret s.args s.variadic

end Signature

inductive TagRef where
  | enum (id : Int)
  | composite (id : Int)
  deriving DecidableEq, Repr

namespace TagRef

def id : TagRef → Int
  | .enum id => id
  | .composite id => id

def toType : TagRef → CType
  | .enum id => .enum id
  | .composite id => .composite id

end TagRef

namespace CType

mutual

/-- The identities a type refers to, at any depth. -/
def refs : CType → List Int
  | .void | .base _ => []
  | .named _ _ ref => ref.toList
  | .pointer t _ => t.refs
  | .array t _ => t.refs
  | .prototype ret args _ => ret.refs ++ argRefs args
  | .functionPointer ret args _ => ret.refs ++ argRefs args
  | .enum ref => [ref]
  | .composite ref => [ref]

def argRefs : List (Param CType) → List Int
  | [] => []
  | ⟨_, t⟩ :: rest => t.refs ++ argRefs rest

end

/-- The record or enum a type names, directly or through pointers and arrays. -/
def inner? : CType → Option TagRef
  | .enum ref => some (.enum ref)
  | .composite ref => some (.composite ref)
  | .pointer t _ => t.inner?
  | .array t _ => t.inner?
  | _ => none

def argumentText (args : List String) (variadic : Bool) : String :=
  let listed := String.intercalate ", " args
  if !variadic then listed else if listed = "" then "..." else listed ++ ", ..."

mutual

def describe : CType → String
  | .void => "void"
  | .base k => k.word
  | .named name _ _ => name
  | .pointer t isConst => (if isConst then "const " else "") ++ t.describe ++ "*"
  | .array t size => t.describe ++ "[" ++ (if size = 0 then "" else toString size) ++ "]"
  | .prototype ret args variadic =>
    ret.describe ++ " (" ++ argumentText (describeArgs args) variadic ++ ")"
  | .functionPointer ret args variadic =>
    ret.describe ++ " (*)(" ++ argumentText (describeArgs args) variadic ++ ")"
  | .enum ref => "enum#" ++ toString ref
  | .composite ref => "composite#" ++ toString ref

def describeArgs : List (Param CType) → List String
  | [] => []
  | ⟨_, t⟩ :: rest => t.describe :: describeArgs rest

end

end CType

end DeclAtlas
