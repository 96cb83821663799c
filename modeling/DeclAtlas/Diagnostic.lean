import DeclAtlas.Declaration

/-! Diagnostics: which declaration was skipped, and why. -/

namespace DeclAtlas

structure Diagnostic where
  severity : String := "warning"
  name : String
  location : Option Location := none
  message : String
  deriving DecidableEq, Repr, Inhabited

def Diagnostic.text (d : Diagnostic) : String :=
  let located := match d.location with
    | some l => l.text ++ ": "
    | none => ""
  located ++ d.severity ++ ": " ++ d.name ++ ": " ++ d.message

end DeclAtlas
