import DeclAtlas.CType
import DeclAtlas.Json.Checked
import DeclAtlas.Nesting

/-! Types as JSON. A type is an object whose field `kind` says which it is. -/

namespace DeclAtlas

open Json

mutual

def CType.toJson : CType → Json
  | .void => .obj [("kind", .str "void")]
  | .base k => .obj [("kind", .str "base"), ("base", .str k.word)]
  | .named name external ref =>
    .obj [("kind", .str "named"), ("name", .str name), ("external", .bool external),
      ("ref", .ofOption .int ref)]
  | .pointer t isConst =>
    .obj [("kind", .str "ptr"), ("pointee", t.toJson), ("is_const", .bool isConst)]
  | .array t size => .obj [("kind", .str "array"), ("element", t.toJson), ("size", .int size)]
  | .prototype ret args variadic =>
    .obj [("ret", ret.toJson), ("args", .arr (paramsToJson args)), ("variadic", .bool variadic),
      ("kind", .str "funcproto")]
  | .functionPointer ret args variadic =>
    .obj [("ret", ret.toJson), ("args", .arr (paramsToJson args)), ("variadic", .bool variadic),
      ("kind", .str "funcptr")]
  | .enum ref => .obj [("kind", .str "enum"), ("ref", .int ref)]
  | .composite ref => .obj [("kind", .str "composite"), ("ref", .int ref)]

def paramsToJson : List (Param CType) → List Json
  | [] => []
  | ⟨name, t⟩ :: rest => .obj [("name", .str name), ("type", t.toJson)] :: paramsToJson rest

end

def Param.toJson (p : Param CType) : Json := .obj [("name", .str p.name), ("type", p.type.toJson)]

def Signature.toJson (s : Signature) : Json :=
  .obj [("ret", s.ret.toJson), ("args", .arr (paramsToJson s.args)), ("variadic", .bool s.variadic)]

def requiredOutcome {α : Type} (outcomes : List (String × Checked α)) (key : String) : Checked α :=
  match outcomes.lookup key with
  | some c => c.under key
  | none => Checked.under key (.issue .missing)

def optionalOutcome {α : Type} (outcomes : List (String × Checked α)) (key : String) (default : α) :
    Checked α :=
  match outcomes.lookup key with
  | some c => c.under key
  | none => .ok default

/-- The type that an object of a given kind describes. `types` and `params` hold what its
fields are when read as a type and as a list of parameters. -/
def typeOfKind (kind : String) (fields : List (String × Json))
    (types : List (String × Checked CType)) (params : List (String × Checked (List (Param CType)))) :
    Option (Checked CType) :=
  match kind with
  | "void" => some (.ok .void)
  | "base" => some (.base <$> required fields "base" (asWord BaseKind.ofWord?))
  | "named" => some (.named <$> required fields "name" asString
      <*> optional fields "external" false asBool <*> optional fields "ref" none (asOption asInt))
  | "ptr" => some (.pointer <$> requiredOutcome types "pointee"
      <*> optional fields "is_const" false asBool)
  | "array" => some (.array <$> requiredOutcome types "element" <*> optional fields "size" 0 asInt)
  | "funcproto" => some (.prototype <$> requiredOutcome types "ret"
      <*> optionalOutcome params "args" [] <*> optional fields "variadic" false asBool)
  | "funcptr" => some (.functionPointer <$> requiredOutcome types "ret"
      <*> optionalOutcome params "args" [] <*> optional fields "variadic" false asBool)
  | "enum" => some (.enum <$> required fields "ref" asInt)
  | "composite" => some (.composite <$> required fields "ref" asInt)
  | _ => none

def familyOfKind : String → Family
  | "ptr" => .pointers
  | "array" => .arrays
  | "funcproto" => .prototypes
  | "funcptr" => .functionPointers
  | _ => .everything

mutual

/-- Reads a type at a place. The fields of an object are read first, and its kind then says
which of them count. -/
def typeAt (n : Nesting) : Json → Checked CType
  | .obj fields =>
    match fields.lookup "kind" with
    | none => .issue .unionTagNotFound
    | some (.str kind) =>
      let inside := n.enter (familyOfKind kind)
      match typeOfKind kind fields (typesIn inside fields) (paramsIn inside fields) with
      | some c => (if inside.tooDeep then .issue .tooDeep else c).under kind
      | none => .issue .unionTagInvalid
    | some _ => .issue .unionTagInvalid
  | _ => .issue .modelAttributesType

def typesIn (n : Nesting) : List (String × Json) → List (String × Checked CType)
  | [] => []
  | (key, v) :: rest => (key, typeAt n v) :: typesIn n rest

def paramsIn (n : Nesting) : List (String × Json) → List (String × Checked (List (Param CType)))
  | [] => []
  | (key, v) :: rest => (key, paramsAt n v) :: paramsIn n rest

def paramsAt (n : Nesting) : Json → Checked (List (Param CType))
  | .arr items => paramItems (n.enter .parameters) 0 items
  | _ => .issue .listType

def paramItems (n : Nesting) (i : Nat) : List Json → Checked (List (Param CType))
  | [] => .ok []
  | v :: rest =>
    (· :: ·) <$> (if n.tooDeep then .issue .tooDeep else paramAt n v).under (toString i)
      <*> paramItems n (i + 1) rest

/-- Reads a parameter; `n` is the place inside it. -/
def paramAt (n : Nesting) : Json → Checked (Param CType)
  | .obj fields =>
    Param.mk <$> optional fields "name" "" asString <*> requiredOutcome (typesIn n fields) "type"
  | _ => .issue .modelType

end

def CType.ofJson (v : Json) : Checked CType := typeAt {} v

def Param.ofJson (v : Json) : Checked (Param CType) := paramAt .parameter v

end DeclAtlas
