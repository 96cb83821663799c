import DeclAtlas.Member
import DeclAtlas.Registry
import DeclAtlas.Roll

/-! The listing: everything that one extraction gathers. The roll holds the listed
declarations; `added` remembers every listing and never shrinks, so that what a failed
definition listed can be found and withdrawn. -/

namespace DeclAtlas

structure Listing where
  registry : Registry := {}
  roll : Roll := ∅
  added : List Int := []
  members : IdTable (List Member) := ∅
  enumItems : IdTable EnumItems := ∅
  irregular : IdSet := ∅
  diagnostics : List Diagnostic := []
  /-- Declarations whose children are being visited. -/
  defining : IdSet := ∅
  /-- Records and enums without a definition; they are listed again when referred to. -/
  incomplete : IdSet := ∅
  notes : List Note := []
  deriving Inhabited

namespace Listing

def ofBuiltins (b : Builtins) : Listing := { registry := { builtins := b } }

def order (l : Listing) : List Int := l.roll.order

def isListed (l : Listing) (id : Int) : Bool := decide (id ∈ l.roll.listed)

theorem isListed_eq (l : Listing) (id : Int) : l.isListed id = decide (id ∈ l.order) :=
  decide_eq_decide.2 (l.roll.agree id)

theorem isListed_of_mem {l : Listing} {id : Int} (h : id ∈ l.order) : l.isListed id = true := by
  rw [isListed_eq]
  exact decide_eq_true h

def note (n : Note) (l : Listing) : Listing := { l with notes := l.notes ++ [n] }

def poison (id : Int) (l : Listing) : Listing := { l with registry := l.registry.poison id }

/-- Lists an identity at the end, unless it is listed. -/
def list (id : Int) (l : Listing) : Listing :=
  if h : id ∈ l.roll.listed then l
  else { l with roll := l.roll.enter id h, added := l.added ++ [id] }

/-- Lists a global; one that is listed already is replaced and keeps its place. -/
def add (g : Global) (l : Listing) : Listing :=
  { l with registry := l.registry.update g }.list g.id

def addInstalled (g : Global) (l : Listing) : Listing :=
  { l with registry := l.registry.install g }.list g.id

def remove (id : Int) (l : Listing) : Listing := { l with roll := l.roll.leave id }

def setMembers (id : Int) (members : List Member) (irregular : Bool) (l : Listing) : Listing :=
  { l with
    members := l.members.insert id members
    irregular := if irregular then l.irregular.insert id else l.irregular.erase id }

def setEnumItems (id : Int) (items : EnumItems) (l : Listing) : Listing :=
  { l with enumItems := l.enumItems.insert id items }

def diagnose (d : Diagnostic) (l : Listing) : Listing :=
  { l with diagnostics := l.diagnostics ++ [d] }.note (.skipping d)

def startDefining (id : Int) (l : Listing) : Listing := { l with defining := l.defining.insert id }

def stopDefining (id : Int) (l : Listing) : Listing := { l with defining := l.defining.erase id }

def markIncomplete (id : Int) (l : Listing) : Listing :=
  { l with incomplete := l.incomplete.insert id }

/-- Skips a global: it is poisoned, unlisted and reported. -/
def skip (g : Global) (message : String) (l : Listing) : Listing :=
  ((l.poison g.id).remove g.id).diagnose
    { name := g.name.display, location := g.location?, message := message }

def globalAt (id : Int) : Step Fault Listing Global := fun l =>
  match l.registry.globals.get? id with
  | some g => (.ok g, l)
  | none => (.error (.missing id), l)

/-- The global of a cursor's declaration, registered on first sight. -/
def lookup (u : SourceUnit) (c : CursorId) : Step Fault Listing Global := fun l =>
  match l.registry.idOf? u c with
  | some id => globalAt id l
  | none =>
    match l.registry.newGlobal u (u.canonical c) l.registry.size with
    | .error e => (.error e, l)
    | .ok (g, notes) =>
      (.ok g, { l with registry := l.registry.register (u.canonical c) g, notes := l.notes ++ notes })

def resolved (id : Int) : Step Fault Listing Global := fun l => (l.registry.get id, l)

/-- The listings from position `mark` on; a negative `mark` counts from the end. -/
def addedSince (l : Listing) (mark : Int) : List Int :=
  if mark < 0 then l.added.drop (l.added.length + mark).toNat else l.added.drop mark.toNat

/-- Withdraws those of some identities that are listed: incomplete declarations only leave
the list, others are skipped with their `owner`. -/
def withdraw (owner : Global) : List Int → Step Fault Listing Unit
  | [] => pure ()
  | id :: rest => do
    if (← Step.read (·.isListed id)) then
      let g ← globalAt id
      if (← Step.read fun l => decide (id ∈ l.incomplete)) then
        Step.modify (remove g.id)
      else
        Step.modify (skip g s!"declared inside skipped {owner.name.display}")
    withdraw owner rest

def withdrawSince (mark : Int) (owner : Global) : Step Fault Listing Unit := do
  withdraw owner (← Step.read (·.addedSince mark))

end Listing

end DeclAtlas
