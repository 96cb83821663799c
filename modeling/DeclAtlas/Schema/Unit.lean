import DeclAtlas.FrontEnd
import DeclAtlas.Json.Basic

/-! Source units as JSON: what the front end answered, written down. A field that is not
there has the default of its question, and so has one of the wrong shape. -/

namespace DeclAtlas

namespace Json

def toInt? : Json → Option Int
  | int n => some n
  | _ => none

def toBool? : Json → Option Bool
  | bool b => some b
  | _ => none

def toString? : Json → Option String
  | str s => some s
  | _ => none

def items : Json → List Json
  | arr l => l
  | _ => []

def entries : Json → List (String × Json)
  | obj l => l
  | _ => []

def field {α : Type} (j : Json) (key : String) (f : Json → Option α) (default : α) : α :=
  ((j.get? key).bind f).getD default

end Json

/-- An index below zero stands for no cursor. -/
def CursorId.ofJson? : Json → Option CursorId
  | .int (.ofNat n) => some (.node n)
  | .int (.negSucc _) => some .absent
  | _ => none

def TypeId.ofJson? : Json → Option TypeId
  | .int (.ofNat n) => some (.node n)
  | .int (.negSucc _) => some .invalid
  | _ => none

def Cursor.ofJson (j : Json) : Cursor :=
  let place := j.field "loc" (some ·.items) []
  { kind := j.field "kind" (·.toString?.map CursorKind.ofName) .noDeclFound
    spelling := j.field "spelling" Json.toString? ""
    file := place[0]?.bind Json.toString?
    line := (place[1]?.bind Json.toInt?).getD 0
    column := (place[2]?.bind Json.toInt?).getD 0
    canonical := (j.get? "canonical").bind CursorId.ofJson?
    definition := (j.get? "definition").bind CursorId.ofJson?
    type := j.field "type" TypeId.ofJson? .invalid
    enumType := j.field "enum_type" TypeId.ofJson? .invalid
    underlying := j.field "underlying" TypeId.ofJson? .invalid
    enumValue := j.field "enum_value" Json.toInt? 0
    children := j.field "children" (some <| ·.items.filterMap CursorId.ofJson?) []
    args := j.field "args" (some <| ·.items.filterMap CursorId.ofJson?) []
    linkage := j.field "linkage" (·.toString?.bind Linkage.ofName?) .invalid
    anonymous := j.field "anonymous" Json.toBool? false
    usr := j.field "usr" Json.toString? ""
    offset := j.field "offset" Json.toInt? (-1)
    bitWidth := (j.get? "bitwidth").bind Json.toInt? }

def TypeNode.ofJson (j : Json) : TypeNode :=
  { kind := j.field "kind" (·.toString?.map TypeKind.ofName) .invalid
    spelling := j.field "spelling" Json.toString? ""
    isConst := j.field "const" Json.toBool? false
    canonical := (j.get? "canonical").bind TypeId.ofJson?
    pointee := j.field "pointee" TypeId.ofJson? .invalid
    named := j.field "named" TypeId.ofJson? .invalid
    result := j.field "result" TypeId.ofJson? .invalid
    element := j.field "element" TypeId.ofJson? .invalid
    count := j.field "count" Json.toInt? (-1)
    params := j.field "params" (some <| ·.items.filterMap TypeId.ofJson?) []
    variadic := j.field "variadic" Json.toBool? false
    decl := j.field "decl" CursorId.ofJson? .absent
    size := j.field "size" Json.toInt? (-1)
    align := j.field "align" Json.toInt? (-1)
    offsets := (j.field "offsets" (some ·.entries) []).filterMap fun (name, v) =>
      v.toInt?.map (name, ·) }

/-- A unit from JSON; without cursors it has a root and nothing below it. -/
def SourceUnit.ofJson (path : String) (j : Json) : SourceUnit :=
  let cursors := (j.field "cursors" (some ·.items) []).map Cursor.ofJson
  { spelling := j.field "spelling" Json.toString? path
    cursors :=
      if cursors.isEmpty then #[{ kind := .other "TRANSLATION_UNIT" }] else cursors.toArray
    types := ((j.field "types" (some ·.items) []).map TypeNode.ofJson).toArray }

def Report.ofJson (j : Json) : Report :=
  { severity := (j.items[0]?.bind Json.toInt?).getD 0
    file := j.items[1]?.bind Json.toString?
    line := (j.items[2]?.bind Json.toInt?).getD 0
    text := (j.items[3]?.bind Json.toString?).getD "" }

def Reply.ofJson (path : String) (j : Json) : Reply :=
  match (j.get? "load_error").bind Json.toString? with
  | some text => .refused text
  | none =>
    .parsed (.ofJson path j) ((j.field "diagnostics" (some ·.items) []).map Report.ofJson)

end DeclAtlas
