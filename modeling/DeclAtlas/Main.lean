import DeclAtlas.CommandLine.Run

/-! The program. It fetches the files that its arguments and configuration name, runs the command
line on them, and puts what has changed back. A source file holds its unit as JSON. -/

namespace DeclAtlas.Main

def lookAt (place : List String) : IO (Option FileNode) := do
  try
    return some (.file (← IO.FS.readFile (Path.ofPlace place).text))
  catch
    | .inappropriateType .. => return some .directory
    | _ => return none

/-- The tree with what is at the places that lead to `place`, from the first `n` components
on. -/
def fetchFrom (place : List String) (t : FileTree) : List Nat → IO FileTree
  | [] => return t
  | n :: rest => do
    let here := place.take n
    match t.nodeAt? here with
    | some _ => fetchFrom place t rest
    | none =>
      match (← lookAt here) with
      | some node => fetchFrom place ⟨t.nodes.insert here node⟩ rest
      | none => return t

def fetch (directory : List String) (t : FileTree) (p : Path) : IO FileTree :=
  let place := FileTree.normalize directory p
  fetchFrom place t (List.range (place.length + 1))

def configPaths (directory : List String) (source : Path) : List Path :=
  let place := FileTree.normalize directory source.parent
  (List.range (place.length + 1)).map fun n => (Path.ofPlace (place.take n)).child Config.fileName

def argumentPaths (directory : List String) (a : CommandLine.Arguments) : List Path :=
  let sources := a.positional.map Path.ofString
  sources ++ (a.valuesOf .config).map Path.ofString ++ (a.valuesOf .save).map Path.ofString ++
    (a.valuesOf .load).map (GlobalsSource.ofText · |>.path) ++
    sources.flatMap (configPaths directory)

def configuredPaths (c : Config) : List Path :=
  c.loadGlobals.map GlobalsSource.path ++ c.saveGlobals.toList ++ c.logFile.toList

def workspaceOver (tree : FileTree) (directory : List String) : Workspace :=
  { tree := tree, directory := directory, frontEnd := dumpFrontEnd tree directory }

def gather (directory : List String) (args : List String) : IO FileTree := do
  let start ← fetch directory {} (Path.ofPlace directory)
  match CommandLine.Arguments.read (args.drop 1) with
  | .error _ => return start
  | .ok a =>
    let tree ← (argumentPaths directory a).foldlM (fetch directory) start
    let request := CommandLine.Request.ofArguments (a.positional.headD "") a
    match (CommandLine.configOf request (workspaceOver tree directory)).1 with
    | .error _ => return tree
    | .ok c => (configuredPaths c).foldlM (fetch directory) tree

/-- Writes the files of a tree that differ from another. -/
def putBack (before after : FileTree) : IO Unit :=
  after.nodes.entries.forM fun (place, node) => do
    match node with
    | .directory => pure ()
    | .file text =>
      if before.nodeAt? place != some node then
        IO.FS.writeFile (Path.ofPlace place).text text

def run (args : List String) : IO UInt32 := do
  let directory := FileTree.normalize [] (Path.ofString (← IO.currentDir).toString)
  let tree ← gather directory args
  let (outcome, w) := CommandLine.run LoadCause.text args (workspaceOver tree directory)
  putBack tree w.tree
  (← IO.getStdout).putStr outcome.stdout
  w.records.forM fun r => IO.eprintln r.line
  IO.eprint outcome.stderr
  if let some f := outcome.escaped then
    IO.eprintln (f.message LoadCause.text)
  return outcome.exitCode.toUInt32

end DeclAtlas.Main

def main (args : List String) : IO UInt32 := DeclAtlas.Main.run args
