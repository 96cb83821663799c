import DeclAtlas.Extraction.Definition
import DeclAtlas.Proofs.Listed
import DeclAtlas.Proofs.Meaning

/-! Everything that a stretch of an extraction can do to a listing, said once. A `Visit` is a
run of conversions and definitions, taken apart into registrations, listings of incomplete
declarations, and definitions with the visit of their own text inside. The laws about a run are
inductions over visits; the code is not opened again for them. -/

namespace DeclAtlas

namespace SourceUnit

/-- The records and enums one level down in the text of a record. -/
def Nests (u : SourceUnit) (c k : CursorId) : Prop := k ∈ u.children c ∧ (u.kind k).isTag = true

inductive Below (u : SourceUnit) : CursorId → CursorId → Prop where
  | child {c k} (h : k ∈ u.children c) : Below u c k
  | inside {c j k} (h : j ∈ u.children c) (rest : Below u j k) : Below u c k

def Within (u : SourceUnit) (c k : CursorId) : Prop := c = k ∨ u.Below c k

theorem Below.within {u : SourceUnit} {c r k : CursorId} (h : u.Below c r) (hk : u.Within r k) :
    u.Below c k := by
  rcases hk with rfl | hk
  · exact h
  · induction h with
    | child h => exact .inside h hk
    | inside h _ ih => exact .inside h (ih hk)

end SourceUnit

namespace Listing

/-- The definition of a record or enum that the compiler provides, wanted by a declaration of it
that is not listed. -/
def OnDemand (u : SourceUnit) (l : Listing) (k : CursorId) : Prop :=
  u.isImplicit k = true ∧ ∃ d g, (u.kind d).isTypeDecl = true ∧ u.definition? d = some k ∧
    l.registry.globalOf? u d = some g ∧ g.form.isTag = true ∧ g.id ∉ l.order

/-- A definition that is visited where it stands among `S`, or on demand. -/
def Defines (u : SourceUnit) (S : CursorId → Prop) (l : Listing) (c : CursorId) : Prop :=
  S c ∧ u.definition? c = some c ∨ l.OnDemand u c

/-- A definition that was visited, or that is bound elsewhere. -/
def Fulfilled (u : SourceUnit) (l : Listing) (k : CursorId) : Prop :=
  ∃ g, l.registry.globalOf? u k = some g ∧ (g.isBuiltin = true ∨ g.id ∈ l.order)

/-- A reference that can be relied on. A record or enum is listed, or its definition is being
visited, or its definition stands in the source, where the walk takes care of it; a typedef is one
that the source declares. -/
def Anchored (u : SourceUnit) (l : Listing) (i : Int) : Prop :=
  ∃ d g, (u.kind d).isTypeDecl = true ∧ l.registry.globalOf? u d = some g ∧ g.id = i ∧
    g.isBuiltin = false ∧
    (g.form.isTag = true → g.id ∈ l.order ∨ g.id ∈ l.defining ∨
      ∃ k, u.definition? d = some k ∧ (u.isImplicit k = true → l.Fulfilled u k)) ∧
    (g.form.isTag = false → (decide (u.kind d = .typedefDecl) && u.isImplicit (u.canonical d)) = false)

/-- A record or enum `k` defined among `cs`, and not bound elsewhere. -/
structure Nested (u : SourceUnit) (l : Listing) (cs : List CursorId) (k : CursorId) (g : Global) :
    Prop where
  place : k ∈ cs
  tag : (u.kind k).isTag = true
  self : u.definition? k = some k
  known : l.registry.globalOf? u k = some g
  own : g.isBuiltin = false

/-- The references that the text of a record gives rise to: those of its fields, and the records
defined in it. -/
def Holds (u : SourceUnit) (l : Listing) (cs : List CursorId) (i : Int) : Prop :=
  (∃ f ∈ cs, u.kind f = .fieldDecl ∧
    ∃ m, u.Denotes l.registry (u.cursor f).type f m ∧ i ∈ m.refs) ∨
  ∃ k g, l.Nested u cs k g ∧ g.id = i

/-- Where a member comes from: a field, whose type it has, or an unnamed record that no field
owns. What it owns is defined in the same text. -/
structure Made (u : SourceUnit) (l : Listing) (cs : List CursorId) (m : Member) : Prop where
  type : (∃ f ∈ cs, u.kind f = .fieldDecl ∧ u.Denotes l.registry (u.cursor f).type f m.type) ∨
    ∃ k g, l.Nested u cs k g ∧ g.form.isComposite = true ∧ m.type = .composite g.id
  owned : ∀ {i}, m.owns? = some i → i ∈ m.type.refs ∧ ∃ k g, l.Nested u cs k g ∧ g.id = i

/-- What is known once some children of a record have given their members. -/
structure Gathered (u : SourceUnit) (l : Listing) (cs : List CursorId) (ms : List Member) :
    Prop where
  fields : ∀ f ∈ cs, u.kind f = .fieldDecl →
    ∃ m, u.Denotes l.registry (u.cursor f).type f m ∧ ∀ i ∈ m.refs, l.Anchored u i
  nested : ∀ k ∈ cs, (u.kind k).isTag = true → u.definition? k = some k → l.Fulfilled u k
  made : ∀ m ∈ ms, l.Made u cs m

def enterIncomplete (u : SourceUnit) (d : CursorId) (g : Global) (l : Listing) : Listing :=
  match g.form with
  | .composite .. => ((l.markIncomplete g.id).setMembers g.id [] true).add g
  | _ => ((l.markIncomplete g.id).setEnumItems g.id { kind := u.enumKind d }).add g

@[simp] theorem enterIncomplete_registry (u : SourceUnit) (d : CursorId) (g : Global)
    (l : Listing) : (l.enterIncomplete u d g).registry = l.registry.update g := by
  unfold enterIncomplete; split <;> simp [setMembers, setEnumItems, markIncomplete]

theorem mem_enterIncomplete_order {u : SourceUnit} {d : CursorId} {g : Global} {l : Listing}
    {id : Int} : id ∈ (l.enterIncomplete u d g).order ↔ id ∈ l.order ∨ id = g.id := by
  unfold enterIncomplete; split <;> exact mem_add_order ..

theorem enterIncomplete_incomplete (u : SourceUnit) (d : CursorId) (g : Global) (l : Listing) :
    (l.enterIncomplete u d g).incomplete = l.incomplete.insert g.id := by
  unfold enterIncomplete; split <;> simp [setMembers, setEnumItems, markIncomplete]

def enterEnum (u : SourceUnit) (c : CursorId) (g : Global) (l : Listing) : Listing :=
  (((l.startDefining g.id).setEnumItems g.id ⟨u.enumItems c, u.enumKind c⟩).stopDefining g.id).add g

theorem mem_enterEnum_order {u : SourceUnit} {c : CursorId} {g : Global} {l : Listing} {id : Int} :
    id ∈ (l.enterEnum u c g).order ↔ id ∈ l.order ∨ id = g.id :=
  mem_add_order ..

def enterRecord (u : SourceUnit) (c : CursorId) (g : Global) (ms : List Member) (l : Listing) :
    Listing :=
  ((l.setMembers g.id ms (Member.irregular ms)).stopDefining g.id).add (g.withLayout (u.layoutOf c))

theorem mem_enterRecord_order {u : SourceUnit} {c : CursorId} {g : Global} {ms : List Member}
    {l : Listing} {id : Int} :
    id ∈ (l.enterRecord u c g ms).order ↔ id ∈ l.order ∨ id = g.id :=
  mem_add_order ..

end Listing

/-- A stretch of an extraction in the text of `S`, from one listing to another, which ends in a
fault or in none. -/
inductive Visit (u : SourceUnit) : (CursorId → Prop) → Listing → Option Fault → Listing → Prop where
  | done {S l} : Visit u S l none l
  | halt {S l} (e : Fault) : Visit u S l (some e) l
  | noted {S l o l'} (n : Note) (rest : Visit u S (l.note n) o l') : Visit u S l o l'
  | looked {S l l₁ o l'} {c : CursorId} {g : Global} (look : Listing.lookup u c l = (.ok g, l₁))
      (rest : Visit u S l₁ o l') : Visit u S l o l'
  | undeclarable {S l} (id : Int) {e : Fault} (fatal : e.isLocal = false) :
      Visit u S l (some e) (l.markIncomplete id)
  | incomplete {S l o l'} {d : CursorId} {g : Global} (place : u.isFound d = true ∨ S d)
      (undefined : u.definition? d = none) (known : l.registry.globalOf? u d = some g)
      (tag : g.form.isTag = true) (unlisted : g.id ∉ l.order)
      (rest : Visit u S (l.enterIncomplete u d g) o l') : Visit u S l o l'
  | enumerated {S l l₁ o l'} {c : CursorId} {g : Global} {loc : Location}
      (place : l.Defines u S c) (look : Listing.lookup u c l = (.ok g, l₁))
      (form : g.form = .enum loc) (rest : Visit u S (l₁.enterEnum u c g) o l') : Visit u S l o l'
  | recorded {S l l₁ l₂ o l'} {c : CursorId} {g : Global} {ms : List Member}
      (place : l.Defines u S c) (look : Listing.lookup u c l = (.ok g, l₁))
      (form : g.form.isComposite = true)
      (inside : Visit u (u.Nests c) (l₁.startDefining g.id) none l₂)
      (gathered : l₂.Gathered u (u.children c) ms)
      (rest : Visit u S (l₂.enterRecord u c g ms) o l') : Visit u S l o l'
  | failed {S l l₁ l₂ l₃} {c : CursorId} {g : Global} {e e' : Fault}
      (place : l.Defines u S c) (look : Listing.lookup u c l = (.ok g, l₁))
      (tag : e.isLocal = true → g.form.isTag = true)
      (inside : Visit u (u.Nests c) (l₁.startDefining g.id) (some e) l₂)
      (given : abandon l₁.added.length g e l₂ = (.error e', l₃)) :
      Visit u S l (some e') (l₃.stopDefining g.id)

namespace Visit

variable {u : SourceUnit} {S : CursorId → Prop} {l l' l'' : Listing} {o o' : Option Fault}

theorem append (h : Visit u S l o l') (ho : o = none) (h' : Visit u S l' o' l'') :
    Visit u S l o' l'' := by
  induction h with
  | done => exact h'
  | halt | undeclarable | failed => cases ho
  | noted n _ ih => exact .noted n (ih ho h')
  | looked look _ ih => exact .looked look (ih ho h')
  | incomplete place undefined known tag unlisted _ ih =>
    exact .incomplete place undefined known tag unlisted (ih ho h')
  | enumerated place look form _ ih => exact .enumerated place look form (ih ho h')
  | recorded place look form inside gathered _ _ ih =>
    exact .recorded place look form inside gathered (ih ho h')

theorem of_lookup {c : CursorId} {g : Global} (h : Listing.lookup u c l = (.ok g, l')) :
    Visit u S l none l' :=
  .looked h .done

end Visit

end DeclAtlas
