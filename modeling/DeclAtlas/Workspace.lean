import DeclAtlas.Config
import DeclAtlas.Extraction.Run
import DeclAtlas.Schema.Unit
import DeclAtlas.Snapshot

/-! The workspace: the files that a run reads and writes, the front end that it invokes, and the
log that it keeps. -/

namespace DeclAtlas

structure Workspace where
  tree : FileTree
  /-- The place that relative paths are seen from. -/
  directory : List String
  frontEnd : Invocation → Reply
  threshold : Level := .debug
  /-- The file that the log goes to; without one its records are kept here. -/
  logFile : Option Path := none
  records : List Record := []
  invocations : List Invocation := []
  deriving Inhabited

/-- A computation in a workspace; the changes it made before it failed stay. -/
abbrev Work (α : Type) : Type := Step Failure Workspace α

/-- The front end that finds a unit written down as JSON in the file it is invoked on. -/
def dumpFrontEnd (tree : FileTree) (directory : List String) (i : Invocation) : Reply :=
  match (tree.readText directory (Path.ofString i.path)).toOption.bind fun text =>
      (Json.parse text).toOption with
  | some j => .ofJson i.path j
  | none => .refused "Error parsing translation unit."

namespace Workspace

def fresh (w : Workspace) : Workspace :=
  { w with threshold := .debug, logFile := none, records := [], invocations := [] }

def log (r : Record) (w : Workspace) : Workspace :=
  if r.level.rank < w.threshold.rank then w
  else
    match w.logFile with
    | none => { w with records := w.records ++ [r] }
    | some p =>
      match w.tree.appendText [] p (r.line ++ "\n") with
      | .ok tree => { w with tree := tree }
      | .error _ => w

def note (n : Note) (w : Workspace) : Workspace := w.log n.record

def noteAll (ns : List Note) (w : Workspace) : Workspace := ns.foldl (fun w n => w.note n) w

def change (f : FileTree → List String → Except Failure FileTree) : Work Unit := fun w =>
  match f w.tree w.directory with
  | .ok tree => (.ok (), { w with tree := tree })
  | .error e => (.error e, w)

def consult {α : Type} (f : FileTree → List String → Except Failure α) : Work α := fun w =>
  (f w.tree w.directory, w)

/-- Sends the log to a file, or keeps it, from a level on. A log file is made at once. -/
def configureLog (word : String) (file : Option Path) : Work Level := do
  let some level := Level.ofWord? word | Step.fail (.unknownLevel word)
  let file ← Step.read fun w => file.map fun p => Path.ofPlace (FileTree.normalize w.directory p)
  if let some p := file then
    change fun tree _ => (tree.appendText [] p "").mapError .file
  Step.modify fun w => { w with threshold := level, logFile := file }
  return level

def loadSnapshot (p : Path) (qualifier : String) : Work (List BuiltinEntry) := do
  let entries ← consult fun tree directory => Snapshot.load tree directory p qualifier
  Step.modify (note (.loaded entries.length p.text))
  return entries

def saveSnapshot (p : Path) (globals : List Global) : Work Snapshot := do
  let s := Snapshot.ofGlobals globals
  change fun tree directory => s.save tree directory p
  Step.modify (note (.saved s.entries.length p.text))
  return s

def parse (i : Invocation) : Work SourceUnit := do
  let reply ← Step.read (·.frontEnd i)
  Step.modify fun w => { w with invocations := w.invocations ++ [i] }
  Step.modify (noteAll reply.notes)
  Step.ofExcept (reply.unit.mapError .unparsed)

/-- Extracts a unit; the result comes with the types recorded aside. -/
def extractUnit (u : SourceUnit) (builtins : List BuiltinEntry) :
    Work (Graph × IdTable CType) := do
  let (result, listing) := u.extract builtins
  Step.modify (noteAll listing.notes)
  let graph ← Step.ofExcept (result.mapError .fault)
  return (graph, listing.registry.recast)

def loadSnapshots : List GlobalsSource → Work (List BuiltinEntry)
  | [] => pure []
  | s :: rest => do
    let entries ← loadSnapshot s.path s.qualifier
    return entries ++ (← loadSnapshots rest)

/-- Extracts a source as a configuration asks: with the builtins it loads, only what it selects,
and saved where it says. -/
def extract (source : Path) (c : Config) (code : Option String) :
    Work (Graph × IdTable CType) := do
  let builtins ← loadSnapshots c.loadGlobals
  let u ← parse ⟨source.text, c.invocationArgs, code⟩
  let (all, recast) ← extractUnit u builtins
  let graph ← Step.ofExcept (c.select all)
  if let some p := c.saveGlobals then
    let _ ← saveSnapshot p graph.declarations
  return (graph, recast)

end Workspace

end DeclAtlas
