import DeclAtlas.Diagnostic

/-! The log. A note is something worth telling about a run; a record is the form in which
it reaches the reader. -/

namespace DeclAtlas

inductive Level where
  | debug | info | warning | error | critical
  deriving DecidableEq, Repr, Inhabited

namespace Level

def name : Level → String
  | debug => "DEBUG"
  | info => "INFO"
  | warning => "WARNING"
  | error => "ERROR"
  | critical => "CRITICAL"

def rank : Level → Nat
  | debug => 10
  | info => 20
  | warning => 30
  | error => 40
  | critical => 50

def words : List (String × Level) :=
  [("fatal", critical), ("error", error), ("warn", warning), ("warning", warning),
   ("info", info), ("debug", debug)]

def ofWord? (s : String) : Option Level := words.lookup s

end Level

/-- A line of the log: how grave it is, which part of the program tells it, and the text. -/
structure Record where
  level : Level
  channel : String
  message : String
  deriving DecidableEq, Repr, Inhabited

def Record.line (r : Record) : String := r.level.name ++ " " ++ r.channel ++ ": " ++ r.message

/-- The channel of the whole program; the parts have channels below it. -/
def mainChannel : String := "cdeclgraph"

inductive Note where
  | frontEnd (severity text : String)
  | usingBuiltin (external spelling : String)
  | declaringIncomplete (name : Name)
  | skipping (diagnostic : Diagnostic)
  | dropping (spelling linkage : String)
  | extracted (listed skipped : Nat) (unit : String)
  | cannotPad (name : Name) (layout : Layout)
  | saved (count : Nat) (path : String)
  | loaded (count : Nat) (path : String)
  deriving DecidableEq, Repr, Inhabited

namespace Note

def level : Note → Level
  | frontEnd .. | extracted .. | saved .. => .info
  | usingBuiltin .. | declaringIncomplete .. | dropping .. | loaded .. => .debug
  | skipping .. | cannotPad .. => .warning

def part : Note → String
  | frontEnd .. => "frontend"
  | usingBuiltin .. => "registry"
  | declaringIncomplete .. => "members"
  | skipping .. => "state"
  | dropping .. | extracted .. | cannotPad .. => "extract"
  | saved .. | loaded .. => "builtins"

def message : Note → String
  | frontEnd severity text => s!"clang {severity}: {text}"
  | usingBuiltin external spelling => s!"Using builtin {external} for {spelling}"
  | declaringIncomplete name => s!"Registering opaque {name.display}"
  | skipping diagnostic => s!"Skipping {diagnostic.text}"
  | dropping spelling linkage => s!"Dropping {spelling} with {linkage} linkage"
  | extracted listed skipped unit => s!"Extracted {listed} globals ({skipped} skipped) from {unit}"
  | cannotPad name layout =>
    s!"Cannot pad {name.display} [size={layout.size} align={layout.align}]"
  | saved count path => s!"Saved {count} globals to {path}"
  | loaded count path => s!"Loaded {count} builtins from {path}"

def record (n : Note) : Record := ⟨n.level, mainChannel ++ "." ++ n.part, n.message⟩

end Note

end DeclAtlas
