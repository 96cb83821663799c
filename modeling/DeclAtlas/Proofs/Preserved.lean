import DeclAtlas.Proofs.Concluded

/-! What lasts through everything. Only three things ever happen to the list: something changes
beside it, a registered declaration is listed, and a declaration is taken off. A property that
survives these three survives every step of an extraction, whether the step fails or not. -/

namespace DeclAtlas

open Step (Confined)

/-- Whether it fails or not, `x` keeps `P`. -/
abbrev Step.Preserves {ε σ α : Type} (P : σ → Prop) (x : Step ε σ α) : Prop :=
  Confined P (fun _ => True) x

open Step (Preserves)

namespace Listing

def Knows (l : Listing) (id : Int) : Prop := ∃ g, l.registry.globals.get? id = some g

theorem knows_update {l : Listing} {g : Global} {id : Int}
    (h : (∃ d, l.registry.globals.get? id = some d) ∨ id = g.id) :
    ∃ d, (l.registry.update g).globals.get? id = some d := by
  by_cases hid : id = g.id
  · exact ⟨g, by simp [Registry.update, hid]⟩
  · obtain ⟨d, hd⟩ := h.resolve_right hid
    exact ⟨d, by simpa [Registry.update, hid] using hd⟩

/-- What survives everything that can happen to a list: a change beside it, after which all that
was registered still is, the listing of a registered declaration, and a removal. -/
structure Lasting (P : Listing → Prop) : Prop where
  aside : ∀ {l l'}, P l → l'.roll = l.roll → l'.added = l.added →
    (∀ {id}, l.Knows id → l'.Knows id) → P l'
  list : ∀ {l id}, l.Knows id → P l → P (l.list id)
  remove : ∀ {l} id, P l → P (l.remove id)

section lasting

variable {P : Listing → Prop} {l : Listing}

theorem Lasting.poison (h : Lasting P) (id : Int) (hl : P l) : P (l.poison id) :=
  h.aside hl rfl rfl fun known => known

theorem Lasting.diagnose (h : Lasting P) (d : Diagnostic) (hl : P l) : P (l.diagnose d) :=
  h.aside hl rfl rfl fun known => known

theorem Lasting.skip (h : Lasting P) (g : Global) (m : String) (hl : P l) : P (l.skip g m) :=
  h.diagnose _ (h.remove _ (h.poison _ hl))

theorem Lasting.add (h : Lasting P) (g : Global) (hl : P l) : P (l.add g) :=
  h.list (knows_update (.inr rfl)) (h.aside hl rfl rfl fun known => knows_update (.inl known))

theorem Lasting.install (h : Lasting P) (g : Global) (hl : P l) : P (l.addInstalled g) :=
  h.list (knows_update (.inr rfl)) (h.aside hl rfl rfl fun known => knows_update (.inl known))

theorem preserves_globalAt (id : Int) : Preserves P (globalAt id) := by
  intro l hl
  unfold globalAt
  split
  · exact ⟨hl, fun _ _ => trivial⟩
  · exact ⟨hl, fun _ _ => trivial⟩

theorem preserves_withdraw (h : Lasting P) (owner : Global) (ids : List Int) :
    Preserves P (withdraw owner ids) := by
  induction ids with
  | nil => exact .pure _
  | cons id rest ih =>
    refine .bind (.read _) fun listed => .ite (.bind (preserves_globalAt id) fun g => ?_) ih
    refine .bind (.read _) fun incomplete => .ite ?_ ?_
    · exact .bind (.modify fun _ => h.remove g.id) fun _ => ih
    · exact .bind (.modify fun _ => h.skip g _) fun _ => ih

theorem preserves_withdrawSince (h : Lasting P) (mark : Int) (owner : Global) :
    Preserves P (withdrawSince mark owner) :=
  .bind (.read _) fun ids => preserves_withdraw h owner ids

theorem preserves_pruneOne (h : Lasting P) (id : Int) : Preserves P (pruneOne id) := by
  refine .bind (preserves_globalAt id) fun g => .bind (.read _) fun broken => ?_
  cases broken with
  | none => exact .pure _
  | some ref =>
    exact .bind (preserves_globalAt ref) fun _ =>
      .bind (.modify fun _ => h.skip g _) fun _ => .pure _

theorem preserves_pruneEach (h : Lasting P) (ids : List Int) : Preserves P (pruneEach ids) := by
  induction ids with
  | nil => exact .pure _
  | cons id rest ih =>
    exact .bind (preserves_pruneOne h id) fun _ => .bind ih fun _ => .pure _

theorem preserves_pruneRounds (h : Lasting P) (n : Nat) : Preserves P (pruneRounds n) := by
  induction n with
  | zero => exact .fail trivial
  | succ n ih =>
    exact .bind (.read _) fun ids => .bind (preserves_pruneEach h ids) fun _ => .ite ih (.pure _)

theorem preserves_prune (h : Lasting P) : Preserves P prune :=
  .bind (.read _) fun n => preserves_pruneRounds h (n + 1)

theorem preserves_abandon (h : Lasting P) (mark : Nat) (g : Global) (e : Fault) :
    Preserves P (abandon mark g e) := by
  refine .ite (.bind (.modify fun _ => h.poison g.id) fun _ => ?_) (.fail trivial)
  exact .bind (preserves_withdrawSince h mark g) fun _ => .fail trivial

end lasting

end Listing

open Listing

structure Recursion.Preserves (P : Listing → Prop) (r : Recursion) : Prop where
  convert : ∀ t c, Step.Preserves P (r.convert t c)
  define : ∀ c, Step.Preserves P (r.define c)

section conversion

variable {P : Listing → Prop} {u : SourceUnit} {r : Recursion}

theorem preserves_lookup (h : Lasting P) (c : CursorId) : Preserves P (lookup u c) := by
  intro l hl
  refine ⟨?_, fun _ _ => trivial⟩
  unfold lookup
  split
  · exact (preserves_globalAt _ l hl).1
  · split
    · exact hl
    · exact h.aside hl rfl rfl fun known => knows_update (.inl known)

theorem preserves_resolved (id : Int) : Preserves P (resolved id) :=
  fun _ hl => ⟨hl, fun _ _ => trivial⟩

theorem preserves_aside (h : Lasting P) {k : Listing → Listing}
    (hk : ∀ l, (k l).roll = l.roll ∧ (k l).added = l.added ∧ (k l).registry = l.registry) :
    Preserves P (Step.modify k : Step Fault Listing Unit) := by
  refine .modify fun l hl => ?_
  obtain ⟨roll, added, registry⟩ := hk l
  refine h.aside hl roll added fun known => ?_
  unfold Knows
  rw [registry]
  exact known

theorem preserves_add (h : Lasting P) (g : Global) :
    Preserves P (Step.modify (·.add g) : Step Fault Listing Unit) :=
  .modify fun _ => h.add g

theorem preserves_declareIncomplete (h : Lasting P) (c : CursorId) :
    Preserves P (declareIncomplete u c) := by
  refine .bind (preserves_lookup h c) fun g => .bind (.read _) fun listed => .ite (.pure _) ?_
  refine .bind (preserves_aside h fun _ => ⟨rfl, rfl, rfl⟩) fun _ => .bind ?_ fun _ =>
    .bind (preserves_add h g) fun _ => .pure _
  unfold recordNoMembers
  split
  · exact preserves_aside h fun _ => ⟨rfl, rfl, rfl⟩
  · exact preserves_aside h fun _ => ⟨rfl, rfl, rfl⟩
  · exact .fail trivial

theorem preserves_materialize (h : Lasting P) (hr : r.Preserves P) (d : CursorId) (g : Global) :
    Preserves P (materialize u r d g) := by
  refine .bind (.read _) fun listed => .ite (.pure _) ?_
  cases u.definition? d with
  | none => exact .bind (preserves_declareIncomplete h d) fun _ => .pure _
  | some k => exact .ite (.bind (hr.define k) fun _ => .pure _) (.pure _)

theorem preserves_declaredType (h : Lasting P) (hr : r.Preserves P) (d : CursorId) :
    Preserves P (declaredType u r d) := by
  refine .ite (.pure _) (.bind (preserves_lookup h d) fun g => ?_)
  split
  · exact .pure _
  · refine .ite (hr.convert _ d) (.bind (preserves_resolved g.id) fun g => ?_)
    split
    · exact .bind (preserves_materialize h hr d g) fun _ => .pure _
    · exact .bind (preserves_materialize h hr d g) fun _ => .pure _
    · exact .pure _

theorem preserves_convertDeclared (hr : r.Preserves P) (ps : List CursorId) :
    Preserves P (convertDeclared u r ps) := by
  induction ps with
  | nil => exact .pure _
  | cons p rest ih => exact .bind (hr.convert _ p) fun t => .bind ih fun _ => .pure _

theorem preserves_convertUnnamed (hr : r.Preserves P) (c : CursorId) (ts : List TypeId) :
    Preserves P (convertUnnamed r c ts) := by
  induction ts with
  | nil => exact .pure _
  | cons t rest ih => exact .bind (hr.convert t c) fun m => .bind ih fun _ => .pure _

theorem preserves_signature (hr : r.Preserves P) (f : TypeId) (c : CursorId) :
    Preserves P (signature u r f c) := by
  refine .bind (hr.convert _ c) fun ret => .ite (.pure _) (.ite ?_ ?_)
  · exact .bind (preserves_convertDeclared hr _) fun _ => .pure _
  · exact .bind (preserves_convertUnnamed hr c _) fun _ => .pure _

theorem preserves_convertPointer (h : Lasting P) (hr : r.Preserves P) (t : TypeId) (c : CursorId) :
    Preserves P (convertPointer u r t c) := by
  refine .ite (.bind (hr.convert _ c) fun _ => .pure _) (.ite ?_ (.ite (.pure _) (.ite ?_ ?_)))
  · exact .bind (preserves_signature hr _ c) fun _ => .pure _
  · exact .bind (preserves_declaredType h hr _) fun _ => .pure _
  · exact .ite (hr.convert _ c) (.pure _)

theorem preserves_convertType (h : Lasting P) (hr : r.Preserves P) (t : TypeId) (c : CursorId) :
    Preserves P (convertType u r t c) := by
  unfold convertType
  have declared := preserves_declaredType (u := u) h hr (u.typeNode t).decl
  have function := preserves_signature (u := u) hr t c
  dsimp only
  generalize (u.typeNode t).kind = k
  cases k <;> dsimp only
  case pointer => exact preserves_convertPointer h hr t c
  case record | enum | typedef => exact declared
  case elaborated => exact hr.convert _ c
  case constantArray | incompleteArray | variableArray | dependentSizedArray =>
    exact .bind (hr.convert _ c) fun _ => .pure _
  case functionProto | functionNoProto => exact .bind function fun _ => .pure _
  case unexposed => exact .ite declared (.ite (hr.convert _ c) (.pure _))
  case complex =>
    cases (u.typeKind (u.typeNode t).element).complexOver? with
    | none => exact .fail trivial
    | some b => exact .pure _
  case int128 | uint128 | vector | other => exact .fail trivial
  all_goals exact .pure _

end conversion

section definition

variable {P : Listing → Prop} {u : SourceUnit} {r : Recursion} {parent : CursorId}

theorem preserves_declare (h : Lasting P) (hr : r.Preserves P) (c : CursorId) :
    Preserves P (declare u r c) := by
  unfold declare
  cases u.definition? c with
  | none => exact .bind (preserves_declareIncomplete h c) fun _ => .pure _
  | some d => exact .ite (.bind (hr.define c) fun _ => .pure _) (.pure _)

theorem preserves_flush (acc : Gathering) : Preserves P (acc.flush u parent) := by
  unfold Gathering.flush
  split
  · exact .pure _
  · exact .ite (.ite (.fail trivial) (.pure _)) (.pure _)

theorem preserves_addField (hr : r.Preserves P) (acc : Gathering) (c : CursorId) :
    Preserves P (addField u r parent acc c) := by
  refine .bind (hr.convert _ c) fun t => ?_
  cases (u.cursor c).bitWidth with
  | some width => exact .bind (preserves_flush _) fun _ => .pure _
  | none => exact .bind (preserves_flush _) fun _ => .pure _

theorem preserves_addNested (h : Lasting P) (hr : r.Preserves P) (acc : Gathering) (c : CursorId) :
    Preserves P (addNested u r parent acc c) := by
  refine .bind (preserves_flush acc) fun _ => .bind (preserves_declare h hr c) fun o => ?_
  cases o with
  | none => exact .pure _
  | some g => exact .pure _

theorem preserves_gather (h : Lasting P) (hr : r.Preserves P) (acc : Gathering)
    (cs : List CursorId) : Preserves P (gather u r parent acc cs) := by
  induction cs generalizing acc with
  | nil => exact .pure _
  | cons c rest ih =>
    unfold gather
    dsimp only
    split
    · exact .bind (preserves_addField hr acc c) ih
    · exact .bind (preserves_addNested h hr acc c) ih
    · exact .bind (preserves_addNested h hr acc c) ih
    · exact .bind (preserves_addNested h hr acc c) ih
    · exact ih acc

theorem preserves_visitDefinition (h : Lasting P) (hr : r.Preserves P) (c : CursorId) (g : Global) :
    Preserves P (visitDefinition u r c g) := by
  unfold visitDefinition
  split
  · have members : Preserves P (visitMembers u r c) :=
      .bind (preserves_gather h hr {} _) fun acc => .bind (preserves_flush acc) fun _ => .pure _
    refine .bind members fun _ => ?_
    exact .bind (preserves_aside h fun _ => ⟨rfl, rfl, rfl⟩) fun _ => .pure _
  · exact .bind (preserves_aside h fun _ => ⟨rfl, rfl, rfl⟩) fun _ => .pure _
  · exact .fail trivial

theorem preserves_defineTag (h : Lasting P) (hr : r.Preserves P) (c : CursorId) :
    Preserves P (defineTag u r c) := by
  refine .bind (preserves_lookup h c) fun g => .ite (.pure _) (.bind (.read _) fun mark => ?_)
  refine .bind (preserves_aside h fun _ => ⟨rfl, rfl, rfl⟩) fun _ => .bind (.andAlways ?_ ?_) fun g =>
    .bind (preserves_add h g) fun _ => .pure _
  · exact .handling (preserves_visitDefinition h hr c g) fun e _ =>
      preserves_abandon h mark g e
  · exact fun _ hl => h.aside hl rfl rfl fun known => known

theorem SourceUnit.recursionWithin_preserves (u : SourceUnit) (h : Lasting P) (n : Nat) :
    (u.recursionWithin n).Preserves P := by
  induction n with
  | zero => exact ⟨fun _ _ => .fail trivial, fun _ => .fail trivial⟩
  | succ n ih => exact ⟨preserves_convertType h ih, preserves_defineTag h ih⟩

end definition

section topLevel

variable {P : Listing → Prop} {u : SourceUnit} {r : Recursion}

theorem preserves_addTyped (h : Lasting P) (g : Global) (t : CType) :
    Preserves P (Step.modify (·.addTyped g t) : Step Fault Listing Unit) := by
  refine .modify fun l hl => ?_
  unfold addTyped
  split
  · exact h.add g (h.aside hl rfl rfl fun known => known)
  · exact h.add g (h.aside hl rfl rfl fun known => known)
  · exact h.add _ hl

theorem preserves_checkLinkage (h : Lasting P) (c : CursorId) : Preserves P (checkLinkage u c) :=
  .ite (.pure _) (.bind (preserves_aside h fun _ => ⟨rfl, rfl, rfl⟩) fun _ => .pure _)

theorem preserves_declareTarget (h : Lasting P) (t : TypeId) : Preserves P (declareTarget u t) := by
  refine .ite ?_ (.pure _)
  split
  · exact .bind (preserves_declareIncomplete h _) fun _ => .pure _
  · exact .pure _

theorem preserves_visitDeclaration (h : Lasting P) (hr : r.Preserves P) (c : CursorId) :
    Preserves P (visitDeclaration u r c) := by
  unfold visitDeclaration
  split
  · exact .bind (preserves_declare h hr c) fun _ => .pure _
  · exact .bind (preserves_declare h hr c) fun _ => .pure _
  · exact .bind (preserves_declare h hr c) fun _ => .pure _
  · refine .bind (preserves_checkLinkage h c) fun linked => .ite ?_ (.pure _)
    refine .bind (preserves_lookup h c) fun g => .ite ?_ (.pure _)
    exact .bind (preserves_signature hr _ c) fun s => preserves_addTyped h g _
  · refine .bind (preserves_checkLinkage h c) fun linked => .ite ?_ (.pure _)
    refine .bind (preserves_lookup h c) fun g => .ite ?_ (.pure _)
    exact .bind (hr.convert _ c) fun t => preserves_addTyped h _ t
  · refine .bind (preserves_lookup h c) fun g => .ite ?_ (.pure _)
    refine .bind (preserves_declareTarget h _) fun _ => ?_
    exact .bind (hr.convert _ c) fun t => preserves_addTyped h g t
  · exact .pure _

theorem preserves_skipOnFault (h : Lasting P) (c : CursorId) (e : Fault) :
    Preserves P (skipOnFault u c e) := by
  refine .ite (.bind (.read _) fun known => .ite ?_ (.modify fun _ => h.diagnose _)) (.fail trivial)
  refine .bind (preserves_lookup h c) fun g => .bind (.modify fun _ hl => ?_) fun _ =>
    .modify fun _ => h.diagnose _
  exact h.remove _ (h.poison _ hl)

theorem preserves_visitTop (h : Lasting P) (hr : r.Preserves P) (c p : CursorId) :
    Preserves P (visitTop u r c p) := by
  refine .ite (.pure _) (.ite (.pure _) (.bind ?_ fun _ => .pure _))
  exact .handling (preserves_visitDeclaration h hr c) fun e _ => preserves_skipOnFault h c e

end topLevel

end DeclAtlas
