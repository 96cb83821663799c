import DeclAtlas.CommandLine.Request
import DeclAtlas.Console.Plain
import DeclAtlas.Console.Table
import DeclAtlas.Schema.Graph
import DeclAtlas.Workspace

/-! Running the command line. Misuse ends with exit code 2, a failure of the run with 1. -/

namespace DeclAtlas.CommandLine

/-- What a run leaves behind on its streams. A failure that nobody reports escapes. -/
structure Outcome where
  exitCode : Nat := 0
  stdout : String := ""
  stderr : String := ""
  escaped : Option Failure := none
  deriving Inhabited

def groupUsage : String := "Usage: cli [OPTIONS] COMMAND [ARGS]...\n"

def extractUsage : String := "Usage: cli extract [OPTIONS] SOURCE\n"

def groupHint : String := "Try 'cli --help' for help.\n\n"

def extractHint : String := "Try 'cli extract --help' for help.\n\n"

def Outcome.ofMisuse (usage hint : String) (m : Misuse) : Outcome :=
  match m with
  | .unusablePath e => { exitCode := 1, escaped := some (.file e) }
  | _ =>
    { exitCode := 2
      stderr := Console.plain
        ((if m.standsAlone then "" else usage ++ hint) ++ "Error: " ++ m.message ++ "\n") }

def Outcome.ofFailure (describe : LoadCause → String) (f : Failure) : Outcome :=
  if f.isReported then
    { exitCode := 1, stderr := Console.plain ("Error: " ++ f.message describe ++ "\n") }
  else { exitCode := 1, escaped := some f }

/-- The configuration of a request: the one it names, or the one next to the source. -/
def configOf (r : Request) : Work Config := do
  match r.config with
  | some p => Workspace.consult fun tree directory => Config.load tree directory p
  | none =>
    let found ← Workspace.consult fun tree directory =>
      Config.find tree directory r.source.parent
    return found.getD {}

/-- The text of a graph: JSON, or a table on one stream and the diagnostics on the other. -/
def present (r : Request) (g : Graph) (recast : IdTable CType) : Except Failure Outcome := do
  if r.json then
    if g.fits then return { stdout := g.toJson.render ++ "\n" }
    throw .unwritable
  let title := s!"{r.source.name}: {g.declarations.length} declarations"
  let table ← Console.drawTable title (declarationRows recast g.declarations)
  return { stdout := Console.unlines table
           stderr := Console.unlines (g.diagnostics.flatMap Console.diagnosticLines) }

def serve (r : Request) : Work Outcome := do
  let c ← r.amend <$> configOf r
  let _ ← Workspace.configureLog c.logLevel c.logFile
  let (g, recast) ← Workspace.extract r.source c none
  Step.ofExcept (present r g recast)

def extractCommand (describe : LoadCause → String) (args : List String) (w : Workspace) :
    Outcome × Workspace :=
  match Arguments.read args with
  | .error m => (.ofMisuse extractUsage extractHint m, w)
  | .ok a =>
    if a.has .help then ({ stdout := extractUsage }, w)
    else
      match check w.tree w.directory a with
      | .error m => (.ofMisuse extractUsage extractHint m, w)
      | .ok source =>
        match serve (.ofArguments source a) w with
        | (.ok outcome, w) => (outcome, w)
        | (.error f, w) => (.ofFailure describe f, w)

def groupMisuse (arg : List Char) : Misuse :=
  let name := arg.takeWhile (· != '=')
  if name = "--help".toList then .unexpectedValue "--help"
  else if arg.take 2 = ['-', '-'] then
    .noSuchOption (String.ofList name) (Text.closeWords (String.ofList name) ["--help"])
  else .noSuchOption (String.ofList (arg.take 2)) []

def isOption (arg : String) : Bool := arg.toList.head? == some '-' && arg != "-" && arg != "--"

def groupOption (arg : String) : Outcome :=
  if arg = "--help" then { stdout := groupUsage }
  else .ofMisuse groupUsage groupHint (groupMisuse arg.toList)

/-- Runs the command of a name. A name that is no command may still be an option. -/
def runCommand (describe : LoadCause → String) (name : String) (args : List String)
    (w : Workspace) : Outcome × Workspace :=
  if name = "extract" then extractCommand describe args w
  else if isOption name then (groupOption name, w)
  else
    (.ofMisuse groupUsage groupHint (.noSuchCommand name (Text.closeWords name ["extract"])), w)

/-- Runs a command line. Without a command it only shows how it is used. -/
def run (describe : LoadCause → String) (args : List String) (w : Workspace) :
    Outcome × Workspace :=
  match args with
  | [] | ["--"] => ({ exitCode := 2, stderr := groupUsage }, w)
  | "--" :: name :: rest => runCommand describe name rest w
  | name :: rest => runCommand describe name rest w

end DeclAtlas.CommandLine
