import DeclAtlas.Failure
import DeclAtlas.Json.Read
import DeclAtlas.Json.Write
import DeclAtlas.Schema.Encode

/-! Snapshots keep the declarations of a run with their binding names, so that a later run can
take them for builtins. -/

namespace DeclAtlas

open Json

structure SnapshotEntry where
  global : Global
  name : String
  deriving Repr, Inhabited

structure Snapshot where
  version : String := Failure.snapshotFormat
  entries : List SnapshotEntry
  deriving Repr, Inhabited

def SnapshotEntry.toJson (e : SnapshotEntry) : Json :=
  .obj [("global_", e.global.toJson), ("name", .str e.name)]

def SnapshotEntry.ofJson : Json → Checked SnapshotEntry := asObject fun fields =>
  SnapshotEntry.mk <$> required fields "global_" Global.ofJson <*> required fields "name" asString

namespace Snapshot

def toJson (s : Snapshot) : Json :=
  .obj [("version", .str s.version), ("entries", .ofList SnapshotEntry.toJson s.entries)]

def ofJson : Json → Checked Snapshot := asObject fun fields =>
  Snapshot.mk <$> optional fields "version" Failure.snapshotFormat asString
    <*> required fields "entries" (asList SnapshotEntry.ofJson)

/-- The snapshot of some declarations; builtins are bound elsewhere and left out. -/
def ofGlobals (globals : List Global) : Snapshot :=
  { entries := (globals.filter fun g => !g.isBuiltin).map fun g => ⟨g, g.bindingName⟩ }

def builtins (s : Snapshot) (qualifier : String) : List BuiltinEntry :=
  s.entries.filterMap fun e => e.global.shape?.map fun shape => ⟨shape, qualify qualifier e.name⟩

def load (t : FileTree) (directory : List String) (p : Path) (qualifier : String) :
    Except Failure (List BuiltinEntry) := do
  let text ← (t.readText directory p).mapError (.ofLoad (.badSnapshot p))
  let j ← (Json.parse text).mapError (.ofReading (.badSnapshot p))
  match ofJson j with
  | .ok s =>
    if s.version = Failure.snapshotFormat then return s.builtins qualifier
    else throw (.snapshotVersion p s.version)
  | .bad issues => throw (.badSnapshot p (.invalid issues))

def fits (s : Snapshot) : Bool := s.entries.all fun e => e.global.fits

def save (s : Snapshot) (t : FileTree) (directory : List String) (p : Path) :
    Except Failure FileTree :=
  if s.fits then (t.writeText directory p s.toJson.render).mapError .file else .error .unwritable

end Snapshot

end DeclAtlas
