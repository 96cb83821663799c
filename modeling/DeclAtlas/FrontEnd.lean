import DeclAtlas.Note
import DeclAtlas.Unit.Basic

/-! The C front end, seen from outside: it is invoked on a file and answers with a source
unit and what it has to report about it. -/

namespace DeclAtlas

/-- One call of the front end; `code` takes the place of the file's contents. -/
structure Invocation where
  path : String
  args : List String := []
  code : Option String := none
  deriving DecidableEq, Repr, Inhabited

structure Report where
  severity : Int
  file : Option String
  line : Int
  text : String
  deriving DecidableEq, Repr, Inhabited

namespace Report

def severityWord (r : Report) : String :=
  if r.severity = 0 then "ignored"
  else if r.severity = 1 then "note"
  else if r.severity = 2 then "warning"
  else if r.severity = 3 then "error"
  else if r.severity = 4 then "fatal"
  else "unknown"

def isError (r : Report) : Bool := r.severity == 3 || r.severity == 4

def isMild (r : Report) : Bool := decide (r.severity < 3)

/-- Where and what; a report without a file says so. -/
def located (r : Report) : String :=
  let file := r.file.getD "None"
  s!"{file}:{r.line}: {r.text}"

end Report

inductive Reply where
  | refused (text : String)
  | parsed (unit : SourceUnit) (reports : List Report)
  deriving Repr, Inhabited

abbrev Complaint : Type := String × String

namespace Reply

def notes : Reply → List Note
  | refused _ => []
  | parsed _ reports => (reports.filter Report.isMild).map fun r => .frontEnd r.severityWord r.text

/-- The unit of a reply, unless the front end refused it or reported an error. -/
def unit : Reply → Except (List Complaint) SourceUnit
  | refused text => .error [("fatal", text)]
  | parsed u reports =>
    if reports.any Report.isError then
      .error (reports.map fun r => (r.severityWord, r.located))
    else .ok u

end Reply

end DeclAtlas
