import DeclAtlas.Text.Quoted

/-! What can go wrong while declarations are extracted. -/

namespace DeclAtlas

inductive Fault where
  /-- A type without a representation in the type model. -/
  | unsupported (kind : String) (detail : String)
  /-- A reference to a declaration that was never registered, or was skipped. -/
  | unresolved (name : String) (reason : String)
  /-- A cursor of a kind that declares nothing the graph holds. -/
  | unclassified (kind : String) (spelling : String)
  /-- A cursor declared without a definition whose declaration is no record or enum. -/
  | notDeclarable (kind : String) (spelling : String)
  /-- A cursor defined whose declaration is no record or enum. -/
  | notDefinable (kind : String) (spelling : String)
  /-- A cursor taken for a record that is neither struct nor union. -/
  | notRecord (kind : String)
  /-- An identity that the registry does not hold. -/
  | missing (id : Int)
  /-- A bound on nested visits or conversions, or on rounds, is used up. -/
  | exhausted
  deriving DecidableEq, Repr, Inhabited

namespace Fault

def notRegistered : String := "not registered"

def wasSkipped : String := "declaration was skipped"

/-- Whether a fault concerns a single declaration only: that one is then skipped, and the
extraction goes on. -/
def isLocal : Fault → Bool
  | unsupported .. | unresolved .. => true
  | _ => false

def message : Fault → String
  | unsupported kind detail => if detail = "" then "Unsupported type kind: " ++ kind else detail
  | unresolved name reason => "Unresolved declaration " ++ Text.quoted name ++ ": " ++ reason
  | unclassified kind spelling => "No global for cursor kind " ++ kind ++ " (" ++ spelling ++ ")"
  | notDeclarable kind spelling => "Cannot declare " ++ kind ++ " " ++ spelling ++ " as opaque"
  | notDefinable kind spelling => "Cannot define " ++ kind ++ " " ++ spelling
  | notRecord kind => "Composite cursor is neither struct nor union: " ++ kind
  | missing id => "No declaration has identity " ++ toString id
  | exhausted => "The declarations refer to one another without end"

end Fault

end DeclAtlas
