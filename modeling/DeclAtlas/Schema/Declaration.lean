import DeclAtlas.Builtin
import DeclAtlas.Diagnostic
import DeclAtlas.Member
import DeclAtlas.Schema.Type

/-! Declarations, members, diagnostics and builtins as JSON. -/

namespace DeclAtlas

open Json

def Location.toJson (l : Location) : Json :=
  .obj [("file", .str l.file), ("line", .int l.line), ("column", .int l.column)]

def Location.ofJson : Json → Checked Location := asObject fun fields =>
  Location.mk <$> optional fields "file" "" asString <*> optional fields "line" 0 asInt
    <*> optional fields "column" 0 asInt

def Layout.toJson (l : Layout) : Json := .obj [("size", .int l.size), ("align", .int l.align)]

def Layout.ofJson : Json → Checked Layout := asObject fun fields =>
  Layout.mk <$> optional fields "size" 0 asInt <*> optional fields "align" 0 asInt

def Name.toJson (n : Name) : Json := .obj [("text", .str n.text), ("id", .int n.id)]

def Name.ofJson : Json → Checked Name := asObject fun fields =>
  Name.mk <$> required fields "text" asString <*> required fields "id" asInt

def Form.toFields : Form → List (String × Json)
  | .composite location kind layout =>
    [("kind", .str "composite"), ("location", location.toJson), ("composite_kind", .str kind.word),
      ("layout", layout.toJson)]
  | .enum location => [("kind", .str "enum"), ("location", location.toJson)]
  | .typedef location type =>
    [("kind", .str "typedef"), ("location", location.toJson), ("type", type.toJson)]
  | .var location type isConst =>
    [("kind", .str "var"), ("location", location.toJson), ("type", type.toJson),
      ("is_const", .bool isConst)]
  | .function location type =>
    [("kind", .str "function"), ("location", location.toJson), ("type", type.toJson)]
  | .builtin type => [("kind", .str "builtin"), ("type", type.toJson)]

def Global.toJson (g : Global) : Json := .obj (("name", g.name.toJson) :: g.form.toFields)

def Form.shapes : List (String × (List (String × Json) → Checked Form)) :=
  [("composite", fun fields =>
      .composite <$> required fields "location" Location.ofJson
        <*> required fields "composite_kind" (asWord CompositeKind.ofWord?)
        <*> optional fields "layout" {} Layout.ofJson),
   ("enum", fun fields => .enum <$> required fields "location" Location.ofJson),
   ("typedef", fun fields =>
      .typedef <$> required fields "location" Location.ofJson
        <*> optional fields "type" .void CType.ofJson),
   ("var", fun fields =>
      .var <$> required fields "location" Location.ofJson
        <*> optional fields "type" .void CType.ofJson <*> optional fields "is_const" false asBool),
   ("function", fun fields =>
      .function <$> required fields "location" Location.ofJson
        <*> optional fields "type" .void CType.ofJson),
   ("builtin", fun fields => .builtin <$> required fields "type" CType.ofJson)]

def Global.ofJson : Json → Checked Global :=
  asTagged (Form.shapes.map fun (word, form) =>
    (word, fun fields => Global.mk <$> required fields "name" Name.ofJson <*> form fields))

def Member.toJson : Member → Json
  | .field name type offset owns =>
    .obj [("kind", .str "field"), ("name", .str name), ("type", type.toJson),
      ("offset", .int offset), ("owns", .ofOption .int owns)]
  | .bitfield name type width offset =>
    .obj [("kind", .str "bitfield"), ("name", .str name), ("type", type.toJson),
      ("width", .int width), ("offset", .int offset)]

def Member.ofJson : Json → Checked Member :=
  asTagged
    [("field", fun fields =>
        .field <$> required fields "name" asString <*> required fields "type" CType.ofJson
          <*> optional fields "offset" 0 asInt <*> optional fields "owns" none (asOption asInt)),
     ("bitfield", fun fields =>
        .bitfield <$> required fields "name" asString <*> required fields "type" CType.ofJson
          <*> required fields "width" asInt <*> optional fields "offset" 0 asInt)]

def EnumItem.toJson (i : EnumItem) : Json := .obj [("name", .str i.name), ("value", .int i.value)]

def EnumItem.ofJson : Json → Checked EnumItem := asObject fun fields =>
  EnumItem.mk <$> required fields "name" asString <*> required fields "value" asInt

def EnumItems.toJson (e : EnumItems) : Json :=
  .obj [("items", .ofList EnumItem.toJson e.items), ("kind", .str e.kind.word)]

def EnumItems.ofJson : Json → Checked EnumItems := asObject fun fields =>
  EnumItems.mk <$> optional fields "items" [] (asList EnumItem.ofJson)
    <*> optional fields "kind" .int (asWord BaseKind.ofWord?)

def Diagnostic.toJson (d : Diagnostic) : Json :=
  .obj [("severity", .str d.severity), ("name", .str d.name),
    ("location", .ofOption Location.toJson d.location), ("message", .str d.message)]

def Diagnostic.ofJson : Json → Checked Diagnostic := asObject fun fields =>
  Diagnostic.mk <$> optional fields "severity" "warning" asString
    <*> required fields "name" asString
    <*> optional fields "location" none (asOption Location.ofJson)
    <*> required fields "message" asString

def Shape.toJson (s : Shape) : Json :=
  .obj [("location", s.location.toJson), ("spelling", .str s.spelling), ("kind", .str s.kind)]

def Shape.ofJson : Json → Checked Shape := asObject fun fields =>
  Shape.mk <$> required fields "location" Location.ofJson <*> required fields "spelling" asString
    <*> required fields "kind" asString

def BuiltinEntry.toJson (e : BuiltinEntry) : Json :=
  .obj [("shape", e.shape.toJson), ("name", .str e.name)]

def BuiltinEntry.ofJson : Json → Checked BuiltinEntry := asObject fun fields =>
  BuiltinEntry.mk <$> required fields "shape" Shape.ofJson <*> required fields "name" asString

end DeclAtlas
