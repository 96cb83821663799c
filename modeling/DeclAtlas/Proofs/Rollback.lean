import DeclAtlas.Proofs.Isolation
import DeclAtlas.Proofs.Passing

/-! Steps of the walk leave alone what earlier steps listed. Whatever a step lists stands behind
it, and a definition that fails leaves nothing behind: all that its visit listed, at any depth, is
taken off the list again, and what is skipped with it is reported once. -/

namespace DeclAtlas

theorem IdSet.eq_empty_iff {s : IdSet} : s = ∅ ↔ ∀ i, i ∉ s := by
  constructor
  · rintro rfl i hi
    cases hi
  · intro h
    obtain ⟨ids, ascending⟩ := s
    cases ids with
    | nil => rfl
    | cons i rest => exact absurd (List.mem_cons_self ..) (h i)

namespace Listing

variable {u : SourceUnit} {c : CursorId} {l l' l₁ : Listing} {id : Int}

def orderBut (own : Option Int) (l : Listing) : List Int :=
  l.order.filter fun i => decide (own ≠ some i)

theorem orderBut_remove (h : l.order.Nodup) (id : Int) :
    (l.remove id).orderBut (some id) = l.orderBut (some id) := by
  unfold orderBut
  rw [remove_order h, List.filter_filter]
  apply List.filter_congr
  intro i _
  by_cases hi : i = id <;> simp [hi]

/-- What a step of the walk at `c` leaves as it was. -/
structure Undisturbed (u : SourceUnit) (c : CursorId) (l l' : Listing) : Prop where
  order : l.orderBut (l'.registry.idOf? u c) <+: l'.orderBut (l'.registry.idOf? u c)
  defining : ∀ {id}, id ∈ l'.defining → id ∈ l.defining
  poisoned : ∀ {id}, id ∈ l.registry.poisoned → id ∈ l'.registry.poisoned
  added : l.added <+: l'.added

theorem Moves.added_prefix (h : Moves l l') : l.added <+: l'.added := by
  obtain ⟨new, _, ha, _⟩ := h.listings
  exact ⟨new, ha.symm⟩

theorem Moves.undisturbed (h : Moves l l') : Undisturbed u c l l' :=
  ⟨h.order_prefix.filter _, h.defining, h.registry.poisoned, h.added_prefix⟩

theorem idOf?_skipped (e : Fault) (known : l.registry.idOf? u c = some id) :
    (l.skipped u c e).registry.idOf? u c = some id := by
  rw [skipped_eq known]
  exact known

theorem orderBut_skipped (e : Fault) (h : l.order.Nodup)
    (known : l.registry.idOf? u c = some id) :
    (l.skipped u c e).orderBut (some id) = l.orderBut (some id) := by
  rw [skipped_eq known]
  exact orderBut_remove (l := l.poison id) h id

theorem mem_poisoned_skipped (e : Fault) (known : l.registry.idOf? u c = some id) {i : Int} :
    i ∈ (l.skipped u c e).registry.poisoned ↔ i = id ∨ i ∈ l.registry.poisoned := by
  rw [skipped_eq known]
  exact IdSet.mem_insert

theorem undisturbed_skipped (e : Fault) (hs : l₁.Sound u) (hm : Moves l l₁)
    (known : l₁.registry.idOf? u c = some id) : Undisturbed u c l (l₁.skipped u c e) where
  order := by
    rw [idOf?_skipped e known, orderBut_skipped e hs.nodup known]
    exact hm.order_prefix.filter _
  defining := by
    rw [skipped_eq known]
    exact hm.defining
  poisoned hp := (mem_poisoned_skipped e known).2 (.inr (hm.registry.poisoned hp))
  added := by
    rw [skipped_eq known]
    exact hm.added_prefix

end Listing

section steps

open Listing

variable {u : SourceUnit} {r : Recursion} {n : Nat} {c p : CursorId} {l l' l₁ : Listing} {e : Fault}

theorem Declared.undisturbed (h : Declared u c l l') (hs : l.Sound u) : Undisturbed u c l l' := by
  cases h with
  | visited visit _ => exact (visit.frame hs).2.1.undisturbed
  | @typed l₁ g g₁ t visit _ _ known outline own _ =>
    have hp := visit.proceeds hs
    have hadd := succeeds_addTyped t hp.sound known outline own
    obtain ⟨new, ha, ho⟩ := hadd.listings
    refine ⟨?_, ?_, fun h => hadd.registry.poisoned (hp.moves.registry.poisoned h), ?_⟩
    · exact (hp.moves.order_prefix.trans ⟨new, ho.symm⟩).filter _
    · rw [addTyped_defining own]
      exact hp.moves.defining
    · exact hp.moves.added_prefix.trans ⟨new, ha.symm⟩

theorem Stepped.undisturbed {result : Except Fault Advance} (h : Stepped u r c l result l')
    (hs : l.Sound u) : Undisturbed u c l l' := by
  cases h with
  | passed => exact (Moves.refl l).undisturbed
  | declared declared => exact declared.undisturbed hs
  | skipped _ _ visit known =>
    obtain ⟨hs₁, hm, -⟩ := visit.frame hs
    exact undisturbed_skipped _ hs₁ hm known
  | ended _ _ visit => exact (visit.frame hs).2.1.undisturbed

theorem visitDeclaration_of_isTag (tag : (u.kind c).isTag = true) :
    visitDeclaration u r c = (do let _ ← declare u r c) := by
  unfold visitDeclaration
  cases hk : u.kind c <;> rw [hk] at tag <;> first | rfl | cases tag

theorem visitTop_of_define_error {id : Int} (source : u.isImplicit c = false)
    (tag : (u.kind c).isTag = true) (self : u.definition? c = some c)
    (failed : r.define c l = (.error e, l₁)) (own : e.isLocal = true) (hs₁ : l₁.Sound u)
    (known : l₁.registry.idOf? u c = some id) :
    visitTop u r c p l = (.ok .beside, l₁.skipped u c e) := by
  have declares : declare u r c l = (.error e, l₁) := by
    simp only [declare, self, if_true, Step.bind_run, failed]
  have visits : visitDeclaration u r c l = (.error e, l₁) := by
    rw [visitDeclaration_of_isTag tag, Step.bind_run, declares]
  have shown : u.kind c ≠ .unexposedDecl := by
    intro hk
    rw [hk] at tag
    cases tag
  simp [visitTop, source, shown, Step.bind_run, Step.handling, visits, skipOnFault, own,
    skipCursor_run hs₁ known]

/-- How a withdrawal settles the identities listed in `since`: none of them is listed any more,
and each that still was is incomplete, or it is poisoned and reported once. -/
structure Listing.Settles (reason : String) (since : List Int) (before after : Listing) :
    Prop where
  unlisted : ∀ id ∈ since, id ∉ after.order
  settled : ∀ id ∈ since, id ∈ before.order →
    id ∈ before.incomplete ∨ id ∈ after.registry.poisoned
  reported : ∃ gs : List Global, (gs.map Global.id).Nodup ∧
    (∀ g ∈ gs, before.registry.globals.get? g.id = some g) ∧
    (∀ id, id ∈ gs.map Global.id ↔ id ∈ since ∧ id ∈ before.order ∧ id ∉ before.incomplete) ∧
    after.diagnostics = before.diagnostics ++ gs.map (Global.report reason)

theorem Listing.settles_withdraw {before : Listing} (owner : Global) (since : List Int)
    (hs : before.Sound u) :
    Settles (withdrawalReason owner) since before (since.foldl (withdrawOne owner) before) := by
  obtain ⟨after, hrun, hw⟩ := withdraw_ok owner since hs
  rw [withdraw_eq_foldl owner since hs] at hrun
  cases hrun
  refine ⟨fun id hid hl => ?_, fun id hid hl => ?_, withdraw_reports owner since hs⟩
  · rw [hw.order] at hl
    simp [hid] at hl
  · by_cases hi : id ∈ before.incomplete
    · exact .inl hi
    · exact .inr (hw.poisoned.2 (.inr ⟨hid, hl, hi⟩))

/-- A definition that fails takes the list back to where it began. -/
theorem defineTag_rolls_back (hr : r.Faithful u n) (hs : l.Sound u)
    (h : defineTag u r c l = (.error e, l')) (he : e.isLocal = true) :
    ∃ g before after, u.withdrawal? r c l = some (before, after) ∧
      l'.registry.idOf? u c = some g.id ∧ l'.order = l.order ∧
      Settles (withdrawalReason g) (before.added.drop l.added.length) before after ∧
      l' = after.stopDefining g.id := by
  obtain ⟨g, l₁, l₂, l₃, look, visit, given, rfl⟩ := defineTag_local_error hr hs h he
  have hp := proceeds_lookup hs look
  have hs₁ := hp.sound.startDefining g.id
  obtain ⟨hs₂, hm, -⟩ := (visitDefinition_error hr hs₁ visit).frame hs₁
  have known := (moves_abandon hs₂ hm given).registry.idOf? (known_of_lookup hs look).1
  have order : l₃.order = l.order := (abandon_order hs₂ hm given he).trans (lookup_order hs look)
  have mark : l₁.added = l.added := by
    obtain ⟨_, _, rfl, -⟩ := lookup_ok hs look
    rfl
  have hrun := withdrawSince_eq_foldl l₁.added.length g (hs₂.poison g.id)
  rw [abandon_local he hrun] at given
  cases given
  refine ⟨g, l₂.poison g.id, _, by simp only [SourceUnit.withdrawal?, look, visit, hrun], known,
    order, ?_, rfl⟩
  rw [mark]
  exact settles_withdraw g _ (hs₂.poison g.id)

end steps

open Listing in
/-- A step of the walk only adds behind what was listed before it, apart from its own declaration,
and leaves no definition under way. Where it comes to a definition that fails, nothing but that
declaration leaves the list, it is poisoned, and the withdrawal settles all that the visit
listed. -/
theorem walk_step_undisturbed {u : SourceUnit} {b : List BuiltinEntry} {c p : CursorId}
    {l l' : Listing} {result : Except Fault Advance}
    (h : Passes u (.ofBuiltins (.ofEntries b)) l) (idle : l.defining = ∅)
    (run : visitTop u u.recursion c p l = (result, l')) :
    l.orderBut (l'.registry.idOf? u c) <+: l'.orderBut (l'.registry.idOf? u c) ∧
    l'.defining = ∅ ∧ (∀ id ∈ l.registry.poisoned, id ∈ l'.registry.poisoned) ∧
    l.added <+: l'.added ∧
    (u.isImplicit c = false → (u.kind c).isTag = true → u.definition? c = some c →
      ∀ e l₁, u.recursion.define c l = (.error e, l₁) → e.isLocal = true →
        result = .ok .beside ∧
        l.orderBut (l'.registry.idOf? u c) = l'.orderBut (l'.registry.idOf? u c) ∧
        ∃ g before after, l'.registry.idOf? u c = some g.id ∧ g.id ∈ l'.registry.poisoned ∧
          g.id ∉ l'.order ∧
          u.withdrawal? (u.recursionWithin (u.recursionBound - 1)) c l = some (before, after) ∧
          Settles (withdrawalReason g) (before.added.drop l.added.length) before after ∧
          (∀ id ∈ after.registry.poisoned, id ∈ l'.registry.poisoned) ∧
          l'.diagnostics = after.diagnostics ++
            [⟨"warning", u.spellingOf c, some (u.locationOf c), e.message⟩]) := by
  have hs := (h.grounded (grounded_start u b)).1.sound
  have undisturbed := (visitTop_stepped u.recursion_faithful hs run).undisturbed hs
  refine ⟨undisturbed.order, ?_, fun _ => undisturbed.poisoned, undisturbed.added,
    fun source tag self e l₁ failed he => ?_⟩
  · rw [IdSet.eq_empty_iff] at idle ⊢
    exact fun id hid => idle id (undisturbed.defining hid)
  · have visits := u.recursion_faithful.define (S := fun _ => True) c hs (.inl ⟨trivial, self⟩)
    have hs₁ := ((visits.error failed).frame hs).1
    obtain ⟨g, before, after, hw, known, order, settles, rfl⟩ :=
      defineTag_rolls_back (u.recursionWithin_faithful _) hs failed he
    rw [visitTop_of_define_error source tag self failed he hs₁ known] at run
    cases run
    have nodup : (after.stopDefining g.id).order.Nodup := by
      rw [order]
      exact hs.nodup
    rw [idOf?_skipped e known, orderBut_skipped e nodup known]
    refine ⟨rfl, by rw [orderBut, orderBut, order], g, before, after, rfl,
      (mem_poisoned_skipped e known).2 (.inl rfl), ?_, hw, settles,
      fun id hid => (mem_poisoned_skipped e known).2 (.inr hid), ?_⟩
    · rw [skipped_eq known]
      exact fun hid => (nodup.mem_erase_iff.1 hid).1 rfl
    · rw [skipped_eq known]
      rfl

/-- Here `struct O` holds the definition of `struct I`, a field of that type, and then a field of a
type that cannot be represented. -/
def enclosingUnit : SourceUnit where
  spelling := "test.c"
  cursors := #[
    { kind := .other "TRANSLATION_UNIT", spelling := "test.c", children := [.node 1] },
    { kind := .structDecl, spelling := "O", file := some "test.c", line := 1, column := 8,
      definition := some (.node 1), type := .node 0, children := [.node 2, .node 4, .node 5],
      usr := "c:@S@O" },
    { kind := .structDecl, spelling := "I", file := some "test.c", line := 1, column := 19,
      definition := some (.node 2), type := .node 1, children := [.node 3], usr := "c:@S@O@S@I" },
    { kind := .fieldDecl, spelling := "a", file := some "test.c", line := 1, column := 27,
      type := .node 2, offset := 0 },
    { kind := .fieldDecl, spelling := "i", file := some "test.c", line := 1, column := 32,
      type := .node 1, offset := 0 },
    { kind := .fieldDecl, spelling := "x", file := some "test.c", line := 1, column := 44,
      type := .node 3, offset := 128 }]
  types := #[
    { kind := .record, spelling := "struct O", decl := .node 1, size := 32, align := 16 },
    { kind := .record, spelling := "struct I", decl := .node 2, size := 4, align := 4 },
    { kind := .int, spelling := "int" },
    { kind := .int128, spelling := "__int128" }]

open Listing in
/-- The step at `struct O` leaves nothing on the list; `struct I` is poisoned and reported once. -/
theorem nested_record_rolled_back : ∃ l' g before after,
    visitTop enclosingUnit enclosingUnit.recursion (.node 1) SourceUnit.root
      (.ofBuiltins (.ofEntries [])) = (.ok .beside, l') ∧
    l'.registry.idOf? enclosingUnit (.node 1) = some g.id ∧ g.id ∈ l'.registry.poisoned ∧
    l'.defining = ∅ ∧
    enclosingUnit.withdrawal? (enclosingUnit.recursionWithin (enclosingUnit.recursionBound - 1))
      (.node 1) (.ofBuiltins (.ofEntries [])) = some (before, after) ∧
    (1 : Int) ∈ before.order ∧ (1 : Int) ∉ after.order ∧ (1 : Int) ∈ l'.registry.poisoned ∧
    ∃ gs : List Global, (gs.map Global.id).Nodup ∧ (1 : Int) ∈ gs.map Global.id ∧
      after.diagnostics = before.diagnostics ++ gs.map (Global.report (withdrawalReason g)) := by
  have fails : ((enclosingUnit.recursion.define (.node 1) (.ofBuiltins (.ofEntries []))).1.casesOn
      Fault.isLocal fun _ => false) = true := by decide +kernel
  have withdraws : (enclosingUnit.withdrawal?
      (enclosingUnit.recursionWithin (enclosingUnit.recursionBound - 1)) (.node 1)
      (.ofBuiltins (.ofEntries []))).any (fun p => decide ((1 : Int) ∈ p.1.added ∧
        (1 : Int) ∈ p.1.order ∧ (1 : Int) ∉ p.1.incomplete)) = true := by decide +kernel
  rcases failed : enclosingUnit.recursion.define (.node 1) (.ofBuiltins (.ofEntries [])) with
    ⟨e | _, l₁⟩ <;> rw [failed] at fails
  · rcases run : visitTop enclosingUnit enclosingUnit.recursion (.node 1) SourceUnit.root
      (.ofBuiltins (.ofEntries [])) with ⟨result, l'⟩
    obtain ⟨-, idle, -, -, rolled⟩ := walk_step_undisturbed .here rfl run
    obtain ⟨rfl, -, g, before, after, known, own, -, hw, settles, kept, -⟩ :=
      rolled rfl rfl (by decide +kernel) e l₁ failed fails
    rw [hw] at withdraws
    obtain ⟨hadded, listed, complete⟩ := of_decide_eq_true withdraws
    obtain ⟨gs, nodup, -, hmem, hdiag⟩ := settles.reported
    refine ⟨l', g, before, after, rfl, known, own, idle, hw, listed, settles.unlisted 1 hadded,
      kept 1 ((settles.settled 1 hadded listed).resolve_left complete), gs, nodup, ?_, hdiag⟩
    exact (hmem 1).2 ⟨hadded, listed, complete⟩
  · cases fails

end DeclAtlas
