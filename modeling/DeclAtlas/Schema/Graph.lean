import DeclAtlas.Graph
import DeclAtlas.Schema.Declaration

/-! The graph as JSON. Tables keyed by identity are objects with decimal keys, and sets of
identities are lists. -/

namespace DeclAtlas

open Json

def IdTable.toJson {α : Type} (f : α → Json) (t : IdTable α) : Json :=
  .obj (t.entries.map fun (id, a) => (toString id, f a))

def checkEntries {α : Type} (f : Json → Checked α) : List (String × Json) → Checked (List (Int × α))
  | [] => .ok []
  | (key, v) :: rest =>
    (fun id a entries => (id, a) :: entries)
      <$> ((integerOfString key).under "[key]").under key <*> (f v).under key
      <*> checkEntries f rest

def IdTable.ofJson {α : Type} (f : Json → Checked α) : Json → Checked (IdTable α)
  | .obj fields => Table.ofList <$> checkEntries f fields
  | _ => .issue .dictType

def IdSet.toJson (s : IdSet) : Json := .ofList .int s.ids

def IdSet.ofJson : Json → Checked IdSet
  | .arr items => IdSet.ofList <$> checkItems asInt 0 items
  | _ => .issue .setType

def Graph.toJson (g : Graph) : Json :=
  .obj [("declarations", .ofList Global.toJson g.declarations),
    ("members", IdTable.toJson (Json.ofList Member.toJson) g.members),
    ("enum_items", IdTable.toJson EnumItems.toJson g.enumItems),
    ("irregular", g.irregular.toJson),
    ("diagnostics", .ofList Diagnostic.toJson g.diagnostics)]

def Graph.ofJson : Json → Checked Graph := asObject fun fields =>
  Graph.mk <$> optional fields "declarations" [] (asList Global.ofJson)
    <*> optional fields "members" ∅ (IdTable.ofJson (asList Member.ofJson))
    <*> optional fields "enum_items" ∅ (IdTable.ofJson EnumItems.ofJson)
    <*> optional fields "irregular" ∅ IdSet.ofJson
    <*> optional fields "diagnostics" [] (asList Diagnostic.ofJson)

end DeclAtlas
