import DeclAtlas.CType

/-! Kinds of cursors and types, as the front end names them, and linkage. Kinds that the
extraction does not single out keep their name in `other`. -/

namespace DeclAtlas

inductive CursorKind where
  | structDecl | unionDecl | enumDecl | typedefDecl | varDecl | functionDecl
  | fieldDecl | enumConstantDecl | parmDecl | unexposedDecl
  | invalidFile | noDeclFound | notImplemented | invalidCode
  | other (name : String)
  deriving DecidableEq, Repr, Inhabited

namespace CursorKind

def name : CursorKind → String
  | structDecl => "STRUCT_DECL"
  | unionDecl => "UNION_DECL"
  | enumDecl => "ENUM_DECL"
  | typedefDecl => "TYPEDEF_DECL"
  | varDecl => "VAR_DECL"
  | functionDecl => "FUNCTION_DECL"
  | fieldDecl => "FIELD_DECL"
  | enumConstantDecl => "ENUM_CONSTANT_DECL"
  | parmDecl => "PARM_DECL"
  | unexposedDecl => "UNEXPOSED_DECL"
  | invalidFile => "INVALID_FILE"
  | noDeclFound => "NO_DECL_FOUND"
  | notImplemented => "NOT_IMPLEMENTED"
  | invalidCode => "INVALID_CODE"
  | other name => name

def known : List CursorKind :=
  [structDecl, unionDecl, enumDecl, typedefDecl, varDecl, functionDecl, fieldDecl,
   enumConstantDecl, parmDecl, unexposedDecl, invalidFile, noDeclFound, notImplemented,
   invalidCode]

def ofName (s : String) : CursorKind := (known.find? (·.name == s)).getD (other s)

/-- The kinds of the cursors that stand for nothing. -/
def isInvalid : CursorKind → Bool
  | invalidFile | noDeclFound | notImplemented | invalidCode => true
  | _ => false

def isRecord : CursorKind → Bool
  | structDecl | unionDecl => true
  | _ => false

def isTag : CursorKind → Bool
  | structDecl | unionDecl | enumDecl => true
  | _ => false

/-- The declarations a type can refer to: tags and typedefs. -/
def isTypeDecl : CursorKind → Bool
  | structDecl | unionDecl | enumDecl | typedefDecl => true
  | _ => false

end CursorKind

inductive TypeKind where
  | invalid | unexposed | void | bool
  | charS | charU | schar | uchar | short | ushort | int | uint | long | ulong
  | longLong | ulongLong | wchar | float | double | longDouble
  | complex | pointer
  | constantArray | incompleteArray | variableArray | dependentSizedArray
  | functionProto | functionNoProto
  | elaborated | record | enum | typedef
  | int128 | uint128 | vector
  | other (name : String)
  deriving DecidableEq, Repr, Inhabited

namespace TypeKind

def name : TypeKind → String
  | invalid => "INVALID"
  | unexposed => "UNEXPOSED"
  | void => "VOID"
  | bool => "BOOL"
  | charS => "CHAR_S"
  | charU => "CHAR_U"
  | schar => "SCHAR"
  | uchar => "UCHAR"
  | short => "SHORT"
  | ushort => "USHORT"
  | int => "INT"
  | uint => "UINT"
  | long => "LONG"
  | ulong => "ULONG"
  | longLong => "LONGLONG"
  | ulongLong => "ULONGLONG"
  | wchar => "WCHAR"
  | float => "FLOAT"
  | double => "DOUBLE"
  | longDouble => "LONGDOUBLE"
  | complex => "COMPLEX"
  | pointer => "POINTER"
  | constantArray => "CONSTANTARRAY"
  | incompleteArray => "INCOMPLETEARRAY"
  | variableArray => "VARIABLEARRAY"
  | dependentSizedArray => "DEPENDENTSIZEDARRAY"
  | functionProto => "FUNCTIONPROTO"
  | functionNoProto => "FUNCTIONNOPROTO"
  | elaborated => "ELABORATED"
  | record => "RECORD"
  | enum => "ENUM"
  | typedef => "TYPEDEF"
  | int128 => "INT128"
  | uint128 => "UINT128"
  | vector => "VECTOR"
  | other name => name

def known : List TypeKind :=
  [invalid, unexposed, void, bool, charS, charU, schar, uchar, short, ushort, int, uint, long,
   ulong, longLong, ulongLong, wchar, float, double, longDouble, complex, pointer,
   constantArray, incompleteArray, variableArray, dependentSizedArray, functionProto,
   functionNoProto, elaborated, record, enum, typedef, int128, uint128, vector]

def ofName (s : String) : TypeKind := (known.find? (·.name == s)).getD (other s)

/-- The arithmetic kinds that are stored as they are. Truth values are not among them. -/
def base? : TypeKind → Option BaseKind
  | charS | charU => some .char
  | schar => some .schar
  | uchar => some .uchar
  | short => some .short
  | ushort => some .ushort
  | int => some .int
  | uint => some .uint
  | long => some .long
  | ulong => some .ulong
  | longLong => some .llong
  | ulongLong => some .ullong
  | wchar => some .wchar
  | float => some .float
  | double => some .double
  | longDouble => some .ldouble
  | _ => none

def complexOver? : TypeKind → Option BaseKind
  | float => some .complex32
  | double => some .complex64
  | longDouble => some .complexld
  | _ => none

def isFunction : TypeKind → Bool
  | functionProto | functionNoProto => true
  | _ => false

end TypeKind

inductive Linkage where
  | invalid | noLinkage | internal | uniqueExternal | external
  deriving DecidableEq, Repr, Inhabited

namespace Linkage

def name : Linkage → String
  | invalid => "INVALID"
  | noLinkage => "NO_LINKAGE"
  | internal => "INTERNAL"
  | uniqueExternal => "UNIQUE_EXTERNAL"
  | external => "EXTERNAL"

def ofName? (s : String) : Option Linkage :=
  [invalid, noLinkage, internal, uniqueExternal, external].find? (·.name == s)

def isBindable : Linkage → Bool
  | external | uniqueExternal => true
  | _ => false

end Linkage

end DeclAtlas
