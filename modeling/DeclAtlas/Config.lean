import DeclAtlas.Filter
import DeclAtlas.Graph
import DeclAtlas.Json.Read
import DeclAtlas.Json.Write

/-! Configurations: how the front end is invoked, which snapshots are loaded and saved, what is
selected, and where the log goes. -/

namespace DeclAtlas

open Json

structure GlobalsSource where
  path : Path
  qualifier : String := ""
  deriving DecidableEq, Repr, Inhabited

structure Config where
  frontEndArgs : List String := []
  includeDirs : List String := []
  defines : List String := []
  loadGlobals : List GlobalsSource := []
  saveGlobals : Option Path := none
  includeTypes : List String := []
  excludeTypes : List String := []
  includeDecls : List String := []
  excludeDecls : List String := []
  logLevel : String := "warning"
  logFile : Option Path := none
  deriving DecidableEq, Repr, Inhabited

def Path.toJson (p : Path) : Json := .str p.text

def GlobalsSource.toJson (s : GlobalsSource) : Json :=
  .obj [("path", s.path.toJson), ("prefix", .str s.qualifier)]

def GlobalsSource.ofJson : Json → Checked GlobalsSource := asObject fun fields =>
  GlobalsSource.mk <$> required fields "path" asPath <*> optional fields "prefix" "" asString

/-- A source from a text: everything after the first colon is the qualifier. -/
def GlobalsSource.ofText (s : String) : GlobalsSource :=
  let cs := s.toList
  ⟨Path.ofString (String.ofList (cs.takeWhile (· != ':'))),
    String.ofList ((cs.dropWhile (· != ':')).drop 1)⟩

def DeclFilter.toJson (f : DeclFilter) : Json :=
  .obj [("include", .ofList .str f.includes), ("exclude", .ofList .str f.excludes)]

def DeclFilter.ofJson : Json → Checked DeclFilter := asObject fun fields =>
  DeclFilter.mk <$> optional fields "include" [] (asList asString)
    <*> optional fields "exclude" [] (asList asString)

namespace Config

def toJson (c : Config) : Json :=
  .obj [("clang_args", .ofList .str c.frontEndArgs), ("include_dirs", .ofList .str c.includeDirs),
    ("defines", .ofList .str c.defines), ("load_globals", .ofList GlobalsSource.toJson c.loadGlobals),
    ("save_globals", .ofOption Path.toJson c.saveGlobals),
    ("include_types", .ofList .str c.includeTypes), ("exclude_types", .ofList .str c.excludeTypes),
    ("include_decls", .ofList .str c.includeDecls), ("exclude_decls", .ofList .str c.excludeDecls),
    ("log_level", .str c.logLevel), ("log_file", .ofOption Path.toJson c.logFile)]

def ofJson : Json → Checked Config := asObject fun fields =>
  let strings (key : String) : Checked (List String) := optional fields key [] (asList asString)
  Config.mk <$> strings "clang_args" <*> strings "include_dirs" <*> strings "defines"
    <*> optional fields "load_globals" [] (asList GlobalsSource.ofJson)
    <*> optional fields "save_globals" none (asOption asPath)
    <*> strings "include_types" <*> strings "exclude_types"
    <*> strings "include_decls" <*> strings "exclude_decls"
    <*> optional fields "log_level" "warning" asString
    <*> optional fields "log_file" none (asOption asPath)

def invocationArgs (c : Config) : List String :=
  c.includeDirs.map ("-I" ++ ·) ++ c.defines.map ("-D" ++ ·) ++ c.frontEndArgs

def typeFilter (c : Config) : DeclFilter := ⟨c.includeTypes, c.excludeTypes⟩

def declFilter (c : Config) : DeclFilter := ⟨c.includeDecls, c.excludeDecls⟩

/-- Whether a declaration passes the filter for its form. -/
def selects (c : Config) (g : Global) : Except Failure Bool :=
  let file := (g.location?.map Location.file).getD ""
  match g.form with
  | .composite .. | .enum _ | .typedef .. => c.typeFilter.accepts file g.name.text
  | .function .. | .var .. => c.declFilter.accepts file g.name.text
  | .builtin _ => .ok false

def selected (c : Config) : List Global → Except Failure (List Global)
  | [] => .ok []
  | g :: rest => do
    let keep ← c.selects g
    let kept ← c.selected rest
    return if keep then g :: kept else kept

def select (c : Config) (g : Graph) : Except Failure Graph := do
  return g.withDeclarations (← c.selected g.declarations)

def relativeTo (root : Path) (c : Config) : Config :=
  { c with
    loadGlobals := c.loadGlobals.map fun s => { s with path := root.join s.path }
    saveGlobals := c.saveGlobals.map root.join }

/-- Loads a configuration; relative snapshot paths in it are seen from its directory. -/
def load (t : FileTree) (directory : List String) (p : Path) : Except Failure Config := do
  let text ← (t.readText directory p).mapError (.ofLoad (.badConfig p))
  let j ← (Json.parse text).mapError (.ofReading (.badConfig p))
  match ofJson j with
  | .ok c => return c.relativeTo p.parent
  | .bad issues => throw (.badConfig p (.invalid issues))

def save (c : Config) (t : FileTree) (directory : List String) (p : Path) :
    Except Failure FileTree :=
  (t.writeText directory p c.toJson.render).mapError .file

def fileName : String := "cdeclgraph.json"

/-- Looks for a configuration in a place, given from its end, and in the places above it. The
root itself is not looked at. -/
def findAbove (t : FileTree) : List String → Except Failure (Option Config)
  | [] => .ok none
  | name :: above => do
    let p := (Path.ofPlace (name :: above).reverse).child fileName
    if (← (t.exists [] p).mapError .file) then some <$> load t [] p else findAbove t above

def find (t : FileTree) (directory : List String) (p : Path) : Except Failure (Option Config) :=
  if p.hasNull then .error (.file .nullCharacter)
  else findAbove t (FileTree.normalize directory p).reverse

end Config

end DeclAtlas
