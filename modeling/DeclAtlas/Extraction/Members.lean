import DeclAtlas.Extraction.Incomplete
import DeclAtlas.Extraction.Recursion

/-! Members of a record. A nested definition is a declaration of its own, listed before the
record around it; the field that follows may own it, and an unnamed record that no field
owns is itself a member. -/

namespace DeclAtlas

namespace SourceUnit

/-- The field names of a record that are also visible in the record around it, in the order in
which a search into unnamed records comes upon them; `none` stands where the search would have
to go deeper than `depth`. -/
def visibleNames (u : SourceUnit) : Nat → CursorId → List (Option String)
  | 0, _ => [none]
  | depth + 1, record => (u.children record).flatMap fun c =>
    if u.kind c = .fieldDecl then
      if u.fieldSpelling c = "" then [] else [some (u.fieldSpelling c)]
    else if (u.kind c).isRecord && u.isAnonymous c then visibleNames u depth c
    else []

theorem mem_visibleNames_succ {u : SourceUnit} {depth : Nat} {record : CursorId}
    {o : Option String} : o ∈ u.visibleNames (depth + 1) record ↔
    ∃ c ∈ u.children record,
      (u.kind c = .fieldDecl ∧ u.fieldSpelling c ≠ "" ∧ o = some (u.fieldSpelling c)) ∨
      (u.kind c).isRecord = true ∧ u.isAnonymous c = true ∧ o ∈ u.visibleNames depth c := by
  rw [visibleNames, List.mem_flatMap]
  refine exists_congr fun c => and_congr_right fun _ => ?_
  by_cases kind : u.kind c = .fieldDecl
  · simp [kind, CursorKind.isRecord]
  · simp [kind, and_assoc]

def memberNames (u : SourceUnit) (record : CursorId) : List String :=
  (u.visibleNames u.depthBound record).filterMap id

def isShared (u : SourceUnit) (parent record : CursorId) (name : String) : Bool :=
  decide (0 ≤ u.offsetOf parent name) && decide (0 ≤ u.offsetOf record name)

/-- The bit offset of an unnamed record in the record around it, found through the first of
its field names that both know; 0 if there is none. -/
def anonymousOffset (u : SourceUnit) (parent record : CursorId) : Int :=
  match (u.memberNames record).find? (u.isShared parent record) with
  | some name => u.offsetOf parent name - u.offsetOf record name
  | none => 0

/-- Whether the search for that offset is cut off before it comes upon a name that both know. -/
def isCutOff (u : SourceUnit) (parent record : CursorId) : Bool :=
  (u.visibleNames u.depthBound record).find? (·.all (u.isShared parent record)) == some none

def enumItems (u : SourceUnit) (c : CursorId) : List EnumItem :=
  ((u.children c).filter fun k => u.kind k == .enumConstantDecl).map fun k =>
    ⟨u.spellingOf k, (u.cursor k).enumValue⟩

end SourceUnit

/-- The members gathered so far, and the nested definition that the next field may own. -/
structure Gathering where
  members : List Member := []
  pending : Option (Global × CursorId) := none
  deriving Inhabited

namespace Gathering

/-- Settles the nested definition that no field took: an unnamed record becomes a member. -/
def flush (u : SourceUnit) (parent : CursorId) (acc : Gathering) :
    Step Fault Listing Gathering :=
  match acc.pending with
  | none => pure acc
  | some (g, c) =>
    if u.declSpelling c = "" && g.form.isComposite then
      if u.isCutOff parent c then Step.fail .exhausted
      else pure ⟨acc.members ++
        [.field "" (.composite g.id) (u.anonymousOffset parent c) (some g.id)], none⟩
    else pure { acc with pending := none }

def push (m : Member) (acc : Gathering) : Gathering := { acc with members := acc.members ++ [m] }

/-- The identity of the nested definition that a field of type `t` owns. -/
def owned? (acc : Gathering) (t : CType) : Option Int :=
  match acc.pending, t.inner? with
  | some (g, _), some ref => if ref.id = g.id then some ref.id else none
  | _, _ => none

end Gathering

def addField (u : SourceUnit) (r : Recursion) (parent : CursorId) (acc : Gathering)
    (c : CursorId) : Step Fault Listing Gathering := do
  let k := u.cursor c
  let t ← r.convert k.type c
  match k.bitWidth with
  | some width =>
    return (← acc.flush u parent).push (.bitfield (u.fieldSpelling c) t width k.offset)
  | none =>
    let owns := acc.owned? t
    let acc := if owns.isSome then { acc with pending := none } else acc
    return (← acc.flush u parent).push (.field (u.fieldSpelling c) t k.offset owns)

/-- Handles one declaration of a record or enum: the defining one is visited in full, one
without a definition in the unit is listed as incomplete, and any other waits for its
definition. -/
def declare (u : SourceUnit) (r : Recursion) (c : CursorId) : Step Fault Listing (Option Global) :=
  match u.definition? c with
  | none => do return some (← declareIncomplete u c)
  | some d => if d = c then do return some (← r.define c) else pure none

def addNested (u : SourceUnit) (r : Recursion) (parent : CursorId) (acc : Gathering)
    (c : CursorId) : Step Fault Listing Gathering := do
  let acc ← acc.flush u parent
  match (← declare u r c) with
  | some g =>
    return if u.isDefinition c && !g.isBuiltin then { acc with pending := some (g, c) } else acc
  | none => return acc

def gather (u : SourceUnit) (r : Recursion) (parent : CursorId) (acc : Gathering) :
    List CursorId → Step Fault Listing Gathering
  | [] => pure acc
  | c :: rest => do
    let acc ← match u.kind c with
      | .fieldDecl => addField u r parent acc c
      | .structDecl | .unionDecl | .enumDecl => addNested u r parent acc c
      | _ => pure acc
    gather u r parent acc rest

def visitMembers (u : SourceUnit) (r : Recursion) (c : CursorId) :
    Step Fault Listing (List Member) := do
  let acc ← gather u r c {} (u.children c)
  return (← acc.flush u c).members

end DeclAtlas
