import DeclAtlas.Failure
import DeclAtlas.Pattern.Expression
import DeclAtlas.Pattern.Search

/-! Filters over declarations. A filter's expressions are matched against the file and the
name of a declaration, with a colon between. An expression is read only when it is reached, so
a bad one may go unnoticed. -/

namespace DeclAtlas

structure DeclFilter where
  includes : List String := []
  excludes : List String := []
  deriving DecidableEq, Repr, Inhabited

def Failure.ofFlaw : Expression.Flaw → Failure
  | .malformed => .badPattern
  | .twoAlphabets => .twoAlphabets
  | .countTooLarge => .countTooLarge
  | .longCount digits => .longInteger digits

namespace DeclFilter

/-- Whether one of some expressions occurs in a text; the first that does ends the search. -/
def anyOccurs (text : String) : List String → Except Failure Bool
  | [] => .ok false
  | e :: rest => do
    let p ← (Expression.parse e).mapError .ofFlaw
    if p.occurs text then return true else anyOccurs text rest

/-- What is excluded is refused; the rest is accepted if it is included or nothing is said
about inclusion. -/
def accepts (f : DeclFilter) (file name : String) : Except Failure Bool := do
  let subject := file ++ ":" ++ name
  if (← anyOccurs subject f.excludes) then return false
  if f.includes.isEmpty then return true
  anyOccurs subject f.includes

end DeclFilter

end DeclAtlas
