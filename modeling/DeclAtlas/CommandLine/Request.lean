import DeclAtlas.CommandLine.Arguments
import DeclAtlas.Config

/-! What a command line asks for, once its values are checked. -/

namespace DeclAtlas.CommandLine

structure Request where
  source : Path
  config : Option Path
  includeDirs : List String
  defines : List String
  frontEndArgs : List String
  load : List GlobalsSource
  save : Option Path
  json : Bool
  level : Option String
  deriving DecidableEq, Repr, Inhabited

/-- What a path on the command line must be. -/
structure PathRule where
  parameter : String
  /-- What the messages call it. -/
  what : String
  mustExist : Bool
  mayBeDirectory : Bool

def sourceRule : PathRule := ⟨"SOURCE", "File", true, false⟩

def configRule : PathRule := ⟨"--config", "Path", true, true⟩

def saveRule : PathRule := ⟨"--save", "File", false, false⟩

def PathRule.check (r : PathRule) (t : FileTree) (directory : List String) (text : String) :
    Except Misuse Unit :=
  match t.statText directory text with
  | .error .nullCharacter => .error (.unusablePath .nullCharacter)
  | .error _ =>
    if r.mustExist then .error (.badPath r.parameter r.what text "does not exist") else .ok ()
  | .ok .directory =>
    if r.mayBeDirectory then .ok () else .error (.badPath r.parameter r.what text "is a directory")
  | .ok (.file _) => .ok ()

/-- The word of a level, in any case. -/
def levelWord? (s : String) : Option String :=
  (Level.words.find? fun (w, _) => w.toList == s.toList.map Char.toLower).map (·.1)

def checkOption (t : FileTree) (directory : List String) (a : Arguments) (f : Flag) :
    Except Misuse Unit :=
  match f, a.value? f with
  | .config, some v => configRule.check t directory v
  | .save, some v => saveRule.check t directory v
  | .logLevel, some v => if (levelWord? v).isSome then .ok () else .error (.badLevel v)
  | _, _ => .ok ()

/-- Checks the options in the order in which they were first given, then the source, then that
nothing else is there. -/
def check (t : FileTree) (directory : List String) (a : Arguments) : Except Misuse String := do
  (a.options.map Given.flag).forM (checkOption t directory a)
  match a.positional with
  | [] => .error .missingSource
  | source :: rest =>
    sourceRule.check t directory source
    if rest.isEmpty then return source
    .error (.extraArguments rest)

def Request.ofArguments (source : String) (a : Arguments) : Request :=
  { source := Path.ofString source
    config := (a.value? .config).map Path.ofString
    includeDirs := a.valuesOf .includeDir
    defines := a.valuesOf .define
    frontEndArgs := a.valuesOf .frontEndArg
    load := (a.valuesOf .load).map GlobalsSource.ofText
    save := (a.value? .save).map Path.ofString
    json := a.has .json
    level := (a.value? .logLevel).bind levelWord? }

/-- A configuration with what a request adds to it. -/
def Request.amend (r : Request) (c : Config) : Config :=
  { c with
    includeDirs := c.includeDirs ++ r.includeDirs
    defines := c.defines ++ r.defines
    frontEndArgs := c.frontEndArgs ++ r.frontEndArgs
    loadGlobals := c.loadGlobals ++ r.load
    saveGlobals := r.save.or c.saveGlobals
    logLevel := r.level.getD c.logLevel }

end DeclAtlas.CommandLine
