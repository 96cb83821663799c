import DeclAtlas.Listing

/-! Pruning: a listed declaration that refers to a skipped one is skipped too, until no
listed declaration does. -/

namespace DeclAtlas

namespace Listing

def typeRefs (l : Listing) (g : Global) : List Int :=
  (g.type?.elim [] CType.refs) ++ ((l.registry.recast.get? g.id).elim [] CType.refs)

def memberRefs (l : Listing) (g : Global) : List Int :=
  ((l.members.get? g.id).getD []).flatMap fun m => m.type.refs

/-- The least skipped identity that a global refers to. -/
def brokenRef? (l : Listing) (g : Global) : Option Int :=
  ((l.typeRefs g ++ l.memberRefs g).filter l.registry.isPoisoned).min?

/-- Skips one listed global if it refers to a skipped one, and says whether it did. -/
def pruneOne (id : Int) : Step Fault Listing Bool := do
  let g ← globalAt id
  match (← Step.read (·.brokenRef? g)) with
  | none => return false
  | some ref =>
    let broken ← globalAt ref
    Step.modify (·.skip g (Fault.unresolved broken.name.display Fault.wasSkipped).message)
    return true

def pruneEach : List Int → Step Fault Listing Bool
  | [] => return false
  | id :: rest => do
    let first ← pruneOne id
    let others ← pruneEach rest
    return first || others

/-- Goes through the list again and again until a round changes nothing. Nothing is known of a
list that is not done with after `rounds` of them. -/
def pruneRounds : Nat → Step Fault Listing Unit
  | 0 => Step.fail .exhausted
  | rounds + 1 => do
    let changed ← pruneEach (← Step.read (·.order))
    if changed then pruneRounds rounds else pure ()

/-- Each round but the last shortens the list, so there are at most as many as it is long,
and one more. -/
def prune : Step Fault Listing Unit := do
  pruneRounds ((← Step.read (·.order.length)) + 1)

end Listing

end DeclAtlas
