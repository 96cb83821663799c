import DeclAtlas.Extraction.Pruning
import DeclAtlas.Extraction.TopLevel
import DeclAtlas.Graph

/-! A whole extraction: the walk over the top level, pruning, and the graph of what is
left. -/

namespace DeclAtlas

def Listing.globalsAt : List Int → Step Fault Listing (List Global)
  | [] => pure []
  | id :: rest => do
    let g ← globalAt id
    return g :: (← globalsAt rest)

def Listing.graph (l : Listing) (declarations : List Global) : Graph :=
  { declarations := declarations
    members := l.members.filterKeys l.isListed
    enumItems := l.enumItems.filterKeys l.isListed
    irregular := l.irregular.filter l.isListed
    diagnostics := l.diagnostics }

namespace SourceUnit

def gatherTop (u : SourceUnit) : Step Fault Listing Unit := do
  u.walk (visitTop u u.recursion) root
  Listing.prune

def extraction (u : SourceUnit) : Step Fault Listing Graph := do
  u.gatherTop
  let declarations ← Listing.globalsAt (← Step.read (·.order))
  let graph ← Step.read (·.graph declarations)
  Step.modify
    (·.note (.extracted graph.declarations.length graph.diagnostics.length u.spelling))
  return graph

/-- The graph of a unit in which some declarations are builtins, and the listing that it was
read off. -/
def extract (u : SourceUnit) (builtins : List BuiltinEntry) : Except Fault Graph × Listing :=
  u.extraction (.ofBuiltins (.ofEntries builtins))

end SourceUnit

end DeclAtlas
