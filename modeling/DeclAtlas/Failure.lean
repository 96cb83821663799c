import DeclAtlas.Declaration
import DeclAtlas.Fault
import DeclAtlas.FileTree
import DeclAtlas.FrontEnd
import DeclAtlas.Json.Checked

/-! Everything that can end a run. -/

namespace DeclAtlas

inductive LoadCause where
  | file (e : FileError)
  | notJson
  | invalid (issues : List Json.Issue)
  deriving DecidableEq, Repr, Inhabited

namespace LoadCause

def issueText (i : Json.Issue) : String := String.intercalate "." i.path ++ ": " ++ i.kind.name

def text : LoadCause → String
  | file e => e.message
  | notJson => "not a JSON text"
  | invalid issues => String.intercalate ", " (issues.map issueText)

end LoadCause

inductive Failure where
  | fault (f : Fault)
  | unparsed (complaints : List Complaint)
  | badSnapshot (path : Path) (cause : LoadCause)
  | snapshotVersion (path : Path) (found : String)
  | badConfig (path : Path) (cause : LoadCause)
  | unknownLevel (word : String)
  | notComposite (name : Name)
  | badPattern
  /-- An expression asks for two alphabets at once. -/
  | twoAlphabets
  /-- An expression asks for too many repetitions. -/
  | countTooLarge
  | badMarkup
  /-- A number is missing among those of a colour. -/
  | missingNumber
  /-- An integer has too many digits. -/
  | longInteger (digits : Nat)
  /-- A type nests too deep to be written as a value. -/
  | tooDeep
  /-- A type nests too deep to be written as text. -/
  | unwritable
  | file (e : FileError)
  deriving DecidableEq, Repr, Inhabited

namespace Failure

def snapshotFormat : String := "1"

/-- A failure to load a file. A path that cannot name one is not the fault of what is loaded. -/
def ofLoad (failure : LoadCause → Failure) : FileError → Failure
  | .nullCharacter => file .nullCharacter
  | e => failure (.file e)

def ofReading (failure : LoadCause → Failure) : Json.ReadError → Failure
  | .malformed | .unpaired => failure .notJson
  | .longInteger digits => longInteger digits

/-- What a failure says, without the cause that lies behind it. -/
def summary : Failure → String
  | fault f => f.message
  | unparsed complaints =>
    "Failed to parse translation unit:\n" ++
      String.intercalate "\n" (complaints.map fun (severity, text) => severity ++ ": " ++ text)
  | badSnapshot path _ => s!"Failed to load globals {path.text}"
  | snapshotVersion path found =>
    s!"Snapshot {path.text} has format version {found}, expected {snapshotFormat}"
  | badConfig path _ => s!"Invalid configuration {path.text}"
  | unknownLevel word => s!"unknown log level {word}"
  | notComposite name => s!"{name.display} is not a composite"
  | badPattern => "bad pattern"
  | twoAlphabets => "ASCII and UNICODE flags are incompatible"
  | countTooLarge => "the repetition number is too large"
  | badMarkup => "closing tag without an open one"
  | missingNumber => "invalid literal for int() with base 10: ''"
  | longInteger digits =>
    s!"Exceeds the limit ({Json.digitLimit} digits) for integer string conversion: " ++
      s!"value has {digits} digits; use sys.set_int_max_str_digits() to increase the limit"
  | tooDeep => "Maximum serialization depth exceeded"
  | unwritable => "Error serializing to JSON: ValueError: Maximum serialization depth exceeded"
  | file e => e.message

def cause? : Failure → Option LoadCause
  | badSnapshot _ cause => some cause
  | badConfig _ cause => some cause
  | _ => none

def message (describe : LoadCause → String) (f : Failure) : String :=
  match f.cause? with
  | some cause => f.summary ++ ": " ++ describe cause
  | none => f.summary

/-- Whether the command line reports a failure as an error of its own; the others escape. -/
def isReported : Failure → Bool
  | fault _ | unparsed _ | badSnapshot .. | snapshotVersion .. | badConfig .. => true
  | _ => false

end Failure

end DeclAtlas
