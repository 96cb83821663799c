import DeclAtlas.Proofs.Closure
import DeclAtlas.Proofs.Skipping
import Mathlib.Data.List.Nodup

/-! Records and enums without a definition. A definition that fails withdraws whatever it listed,
these among the rest, but they alone are not poisoned for it, and the next declaration that refers
to one lists it again. So no failure, before or after, takes such a record away from a declaration
that stays. -/

namespace DeclAtlas

namespace Listing

open SourceUnit

variable {u : SourceUnit} {c d : CursorId} {l l' l₁ : Listing} {g : Global} {i id : Int}

/-- The identity belongs to a declaration that is no record or enum, or that has a definition. -/
def Definite (u : SourceUnit) (l : Listing) (id : Int) : Prop :=
  ∃ c, u.isFound c = true ∧ l.registry.idOf? u c = some id ∧
    ((u.kind c).isTag = true → ∃ k, u.definition? c = some k)

theorem Definite.grows (h : l.Definite u id) (grows : l.registry.Grows l'.registry) :
    l'.Definite u id := by
  obtain ⟨c, found, hid, hdef⟩ := h
  exact ⟨c, found, grows.idOf? hid, hdef⟩

theorem definite_of_definition (self : u.definition? c = some c)
    (hid : l.registry.idOf? u c = some id) : l.Definite u id :=
  ⟨c, isFound_of_definition self, hid, fun _ => ⟨c, self⟩⟩

theorem Sound.undefined_of_same (hs : l.Sound u) (hu : u.Coherent) (found : u.isFound c = true)
    (tag : (u.kind d).isTag = true) (undefined : u.definition? d = none)
    (hc : l.registry.idOf? u c = some id) (hd : l.registry.idOf? u d = some id) :
    (u.kind c).isTag = true ∧ u.definition? c = none := by
  obtain ⟨tag', same⟩ := hs.definition_eq hu found tag hc hd
  exact ⟨tag', same.trans undefined⟩

theorem Definite.absurd (h : l.Definite u id) (hs : l.Sound u) (hu : u.Coherent)
    (tag : (u.kind d).isTag = true) (undefined : u.definition? d = none)
    (hd : l.registry.idOf? u d = some id) : False := by
  obtain ⟨c, found, hc, hdef⟩ := h
  obtain ⟨tag', undefined'⟩ := hs.undefined_of_same hu found tag undefined hc hd
  obtain ⟨k, hk⟩ := hdef tag'
  rw [undefined'] at hk
  cases hk

/-- Only declarations with a definition are poisoned, and whatever else is listed is marked as
incomplete, which keeps a withdrawal from poisoning it. -/
structure Sparing (u : SourceUnit) (l : Listing) : Prop where
  listed : ∀ id ∈ l.order, id ∈ l.incomplete ∨ l.Definite u id
  poisoned : ∀ id ∈ l.registry.poisoned, l.Definite u id
  plain : ∀ id, l.registry.recast.get? id = none

theorem sparing_ofBuiltins (u : SourceUnit) (b : Builtins) : (ofBuiltins b).Sparing u where
  listed _ h := by cases h
  poisoned _ h := by cases h
  plain _ := rfl

/-- What a stretch may do: list what is incomplete or definite, and poison what is definite. -/
theorem Sparing.step (h : l.Sparing u) (grows : l.registry.Grows l'.registry)
    (incomplete : ∀ {id}, id ∈ l.incomplete → id ∈ l'.incomplete)
    (listed : ∀ {id}, id ∈ l'.order → id ∈ l.order ∨ id ∈ l'.incomplete ∨ l'.Definite u id)
    (poisoned : ∀ {id}, id ∈ l'.registry.poisoned → id ∈ l.registry.poisoned ∨ l'.Definite u id)
    (plain : ∀ {id}, l.registry.recast.get? id = none → l'.registry.recast.get? id = none) :
    l'.Sparing u where
  listed id hid := by
    rcases listed hid with hid | hid
    · exact (h.listed id hid).imp incomplete fun hd => hd.grows grows
    · exact hid
  poisoned id hid := by
    rcases poisoned hid with hid | hid
    · exact (h.poisoned id hid).grows grows
    · exact hid
  plain id := plain (h.plain id)

theorem Sparing.proceeds (h : l.Sparing u) (id : Int) (hp : l.Proceeds u l')
    (listed : ∀ {i}, i ∈ l'.order → i ∈ l.order ∨ i = id)
    (fair : id ∈ l'.incomplete ∨ l'.Definite u id)
    (plain : ∀ {i}, l.registry.recast.get? i = none → l'.registry.recast.get? i = none) :
    l'.Sparing u := by
  refine h.step hp.moves.registry hp.moves.incomplete (fun hi => ?_) (fun hi => ?_) plain
  · rcases listed hi with hi | rfl
    · exact .inl hi
    · exact .inr fair
  · rw [hp.succeeds.poisoned] at hi
    exact .inl hi

theorem lookup_recast (h : lookup u c l = (.ok g, l₁)) (hr : l.registry.recast.get? id = none) :
    l₁.registry.recast.get? id = none := by
  unfold lookup at h
  split at h
  · unfold globalAt at h
    split at h <;> cases h
    exact hr
  · split at h <;> cases h
    -- a new identity is erased from the types recorded aside
    rw [Option.eq_none_iff_forall_ne_some] at hr ⊢
    intro t ht
    exact hr t (Table.get?_filterKeys_eq_some.1 ht).2

theorem Sparing.lookup (h : l.Sparing u) (hs : l.Sound u) (look : lookup u c l = (.ok g, l₁)) :
    l₁.Sparing u := by
  have hp := proceeds_lookup hs look
  refine h.step hp.moves.registry hp.moves.incomplete (fun hi => .inl ?_) (fun hi => .inl ?_)
    (lookup_recast look)
  · rw [← lookup_order hs look]
    exact hi
  · rw [← hp.succeeds.poisoned]
    exact hi

theorem Sparing.abandon {mark : Nat} {e e' : Fault} (h : l.Sparing u) (hs : l.Sound u)
    (own : l.Definite u g.id) (given : abandon mark g e l = (.error e', l')) : l'.Sparing u := by
  have hr := reverts_abandon hs given
  obtain ⟨-, hlocal, hother⟩ := abandon_error hs given
  refine h.step hr.grows (fun hi => ?_) (fun hi => .inl (hr.order hi)) (fun {i} hi => ?_)
    (fun hi => ?_)
  · rw [hr.incomplete]
    exact hi
  · cases he : e.isLocal with
    | false =>
      rw [hother he] at hi
      exact .inl hi
    | true =>
      rcases (hlocal he).poisoned.1 hi with hi | ⟨-, hlisted, hinc⟩
      · rcases IdSet.mem_insert.1 hi with rfl | hi
        · exact .inr (own.grows hr.grows)
        · exact .inl hi
      · exact .inr (((h.listed i hlisted).resolve_left hinc).grows hr.grows)
  · rw [hr.recast]
    exact hi

end Listing

section steps

open Listing SourceUnit

variable {u : SourceUnit} {S : CursorId → Prop} {c : CursorId} {l l' l₁ : Listing}
  {o : Option Fault} {e : Fault}

/-- No visit poisons a record or enum without a definition, whatever faults occur. -/
theorem Visit.sparing (h : Visit u S l o l') (hu : u.Coherent) (hs : l.Sound u)
    (hl : l.Sparing u) : l'.Sparing u := by
  induction h with
  | done | halt => exact hl
  | noted n rest ih => exact ih (hs.congr rfl rfl rfl) ⟨hl.listed, hl.poisoned, hl.plain⟩
  | looked look rest ih => exact ih (proceeds_lookup hs look).sound (hl.lookup hs look)
  | undeclarable id _ =>
    exact hl.step (.refl _) (fun hi => IdSet.mem_insert.2 (.inr hi)) .inl .inl fun hi => hi
  | @incomplete _ l _ _ d g place undefined known tag unlisted rest ih =>
    have hp := proceeds_enterIncomplete hs known tag
    refine ih hp.sound (hl.proceeds g.id hp (fun hi => mem_enterIncomplete_order.1 hi)
      (.inl ?_) fun hi => ?_)
    · rw [enterIncomplete_incomplete]
      exact IdSet.mem_insert.2 (.inl rfl)
    · rw [enterIncomplete_registry]
      exact hi
  | @enumerated _ l l₁ _ _ c g _ place look form rest ih =>
    have hp := proceeds_enterEnum hs look form
    have hid := (known_of_lookup hs look).1
    refine ih hp.sound (hl.proceeds g.id hp (fun hi => ?_) (.inr ?_) fun hi => ?_)
    · rw [← lookup_order hs look]
      exact mem_enterEnum_order.1 hi
    · apply definite_of_definition (place.definition_self hs hu)
      rw [enterEnum, add_registry]
      exact hid
    · have := lookup_recast look hi
      rw [enterEnum, add_registry]
      exact this
  | @recorded _ l l₁ l₂ _ _ c g ms place look form inside gathered rest ihin ih =>
    have hs₁ := (proceeds_lookup hs look).sound.startDefining g.id
    have hin := inside.proceeds hs₁
    have hl₁ := hl.lookup hs look
    have hl₂ : l₂.Sparing u := ihin hs₁ ⟨hl₁.listed, hl₁.poisoned, hl₁.plain⟩
    have grows := grows_enterRecord ms hs look hin
    have hid := hin.moves.registry.idOf? (known_of_lookup hs look).1
    refine ih (proceeds_enterRecord ms hs look form hin).sound (hl₂.step grows ?_ ?_ ?_ ?_)
    · intro id hi
      rw [enterRecord, add_incomplete]
      exact hi
    · intro id hi
      rcases mem_enterRecord_order.1 hi with hi | rfl
      · exact .inl hi
      · exact .inr (.inr (definite_of_definition (place.definition_self hs hu) (grows.idOf? hid)))
    · intro id hi
      rw [enterRecord, add_registry] at hi
      exact .inl hi
    · intro id hi
      rw [enterRecord, add_registry]
      exact hi
  | @failed _ l l₁ l₂ l₃ c g _ _ place look tag inside given ihin =>
    have hs₁ := (proceeds_lookup hs look).sound.startDefining g.id
    obtain ⟨hs₂, hm, -⟩ := inside.frame hs₁
    have hl₁ := hl.lookup hs look
    have hl₂ : l₂.Sparing u := ihin hs₁ ⟨hl₁.listed, hl₁.poisoned, hl₁.plain⟩
    have own : l₂.Definite u g.id := definite_of_definition (place.definition_self hs hu)
      (hm.registry.idOf? (known_of_lookup hs look).1)
    have hl₃ := hl₂.abandon hs₂ own given
    exact ⟨hl₃.listed, hl₃.poisoned, hl₃.plain⟩

theorem definition_of_visitDeclaration_error {r : Recursion}
    (h : visitDeclaration u r c l = (.error e, l')) (he : e.isLocal = true) :
    u.isFound c = true ∧ ((u.kind c).isTag = true → ∃ k, u.definition? c = some k) := by
  have defined (h : (do let _ ← declare u r c) l = (.error e, l')) :
      ∃ k, u.definition? c = some k := by
    cases hd : u.definition? c with
    | some k => exact ⟨k, rfl⟩
    | none =>
      simp only [declare, hd, Step.bind_run] at h
      rcases hrun : declareIncomplete u c l with ⟨e' | g, l₁⟩ <;> rw [hrun] at h <;> cases h
      rw [isLocal_of_declareIncomplete_error hrun] at he
      cases he
  unfold visitDeclaration at h
  unfold isFound
  cases hk : u.kind c <;> rw [hk] at h
  case structDecl | unionDecl | enumDecl => exact ⟨rfl, fun _ => defined h⟩
  case functionDecl | varDecl | typedefDecl => exact ⟨rfl, fun ht => by cases ht⟩
  all_goals cases h

theorem Extracted.sparing (h : Extracted u c l l') (hu : u.Coherent) (hs : l.Sound u)
    (hl : l.Sparing u) : l'.Sparing u := by
  cases h with
  | declared _ declared =>
    cases declared with
    | visited visit _ => exact visit.sparing hu hs hl
    | @typed l₁ g g₁ t visit kind _ known outline own _ =>
      have hp := visit.proceeds hs
      have found := isFound_of_isTyped kind
      have tag := hp.sound.isTag_eq_false_of_typed (hu.kind (.inl found)) kind known outline own
      have hadd := succeeds_addTyped t hp.sound known outline own
      have hid : l₁.registry.idOf? u c = some g.id := by
        rw [Global.id_of_outline outline]
        exact (hp.sound.registry.globalOf?_eq_some.1 known).1
      refine (visit.sparing hu hs hl).step hadd.registry ?_ ?_ ?_ ?_
      · intro id hi
        rw [addTyped_incomplete own]
        exact hi
      · intro id hi
        rcases (mem_addTyped_order own).1 hi with hi | rfl
        · exact .inl hi
        · refine .inr (.inr ⟨c, found, hadd.registry.idOf? hid, fun ht => ?_⟩)
          rw [isTag_eq_false_of_isTyped kind] at ht
          cases ht
      · intro id hi
        rw [hadd.poisoned] at hi
        exact .inl hi
      · intro id hi
        rw [addTyped_registry tag]
        exact hi
  | @skipped l₁ e id run own visit known =>
    obtain ⟨found, hdef⟩ := definition_of_visitDeclaration_error run own
    have hl₁ := visit.sparing hu hs hl
    have grows := Registry.grows_poison l₁.registry id
    rw [skipped_eq known]
    refine hl₁.step grows (fun hi => hi) (fun hi => .inl (List.mem_of_mem_erase hi)) ?_ fun hi => hi
    intro i hi
    rcases IdSet.mem_insert.1 hi with rfl | hi
    · exact .inr ⟨c, found, grows.idOf? known, hdef⟩
    · exact .inl hi

end steps

/-- A listed declaration refers to `i`, by its type or by its members. -/
def Listing.Relies (l : Listing) (i : Int) : Prop :=
  ∃ g, g.id ∈ l.order ∧ l.registry.globals.get? g.id = some g ∧
    (i ∈ l.typeRefs g ∨ i ∈ l.memberRefs g)

theorem Listing.Orderly.owed_of_relies {u : SourceUnit} {l : Listing} {i : Int} (h : l.Orderly u)
    (hu : u.Coherent) (hl : l.Sparing u) (hi : l.Relies i) : l.Owed u i := by
  obtain ⟨g, hid, hg, hi | hi⟩ := hi
  · rw [typeRefs, hl.plain, Option.elim_none, List.append_nil] at hi
    cases ht : g.type? with
    | none => rw [ht] at hi; cases hi
    | some t =>
      rw [ht] at hi
      exact h.typed g.id hid g hg t ht i hi
  · exact h.owed_of_memberRefs hu hid hi

namespace Completed

open Listing SourceUnit

variable {u : SourceUnit} {b : List BuiltinEntry} {walked l l₁ : Listing} {g : Graph}
  {pre post : List CursorId} {d : CursorId} {i : Int}

theorem sparing_of_walked {cs : List CursorId} (hu : u.Coherent)
    (h : Walked u cs (.ofBuiltins (.ofEntries b)) l) : l.Sparing u :=
  h.keeps (P := fun l => l.Sparing u) (sound_start u b) (fun hs hl step => step.sparing hu hs hl)
    (sparing_ofBuiltins u _)

theorem walked_rest (h : Completed u b walked l g) (he : u.topLevel = pre ++ post)
    (hw : Walked u pre (.ofBuiltins (.ofEntries b)) l₁) : Walked u post l₁ walked := by
  obtain ⟨l₁', hw', rest⟩ := (he ▸ h.walk).split
  obtain rfl := hw.unique hw'
  exact rest

theorem no_refs (h : Completed u b walked l g) (hu : u.Coherent) {g' : Global}
    (tag : (u.kind d).isTag = true) (undefined : u.definition? d = none)
    (hid : walked.registry.idOf? u d = some i) (hl : i ∈ walked.order)
    (hg : walked.registry.globals.get? i = some g') :
    walked.typeRefs g' ++ walked.memberRefs g' = [] := by
  have hw := h.orderly_walked hu
  have hs := hw.sound
  obtain rfl := hs.registry.own hg
  have own : g'.isBuiltin = false := by
    obtain ⟨g₁, hg₁, own⟩ := hs.listed hl
    rw [hg] at hg₁
    cases hg₁
    exact own
  have known := hs.registry.globalOf?_eq_some.2 ⟨hid, hg⟩
  have form : g'.form.isTag = true := by
    rw [← hs.isTag_kind hu (.inl (isFound_of_isTag tag)) known own]
    exact tag
  have untyped : g'.type? = none := by
    cases ht : g'.type? with
    | none => rfl
    | some t => rw [Global.isTag_eq_false_of_type? ht] at form; cases form
  have memberless : (walked.members.get? g'.id).getD [] = [] := by
    apply List.eq_nil_iff_forall_not_mem.2
    intro m hm
    cases hms : walked.members.get? g'.id with
    | none => rw [hms] at hm; cases hm
    | some ms =>
      rw [hms] at hm
      obtain ⟨c, -, self, hidc, -⟩ := hw.described g'.id ms hms m hm
      have := (hs.undefined_of_same hu (isFound_of_definition self) tag undefined hidc hid).2
      rw [self] at this
      cases this
  rw [typeRefs, memberRefs, untyped, (sparing_of_walked hu h.walk).plain, memberless]
  rfl

theorem not_poisoned (h : Completed u b walked l g) (hu : u.Coherent)
    (tag : (u.kind d).isTag = true) (undefined : u.definition? d = none)
    (hid : l.registry.idOf? u d = some i) : i ∉ l.registry.poisoned := by
  intro hp
  rw [Registry.idOf?, h.pruned.table] at hid
  rcases h.pruned.poisoned.1 hp with hp | ⟨hl, hl'⟩
  · have definite := (sparing_of_walked hu h.walk).poisoned i hp
    exact definite.absurd h.sound_walked hu tag undefined hid
  · -- pruning takes away only what refers to something
    obtain ⟨g', hg', -⟩ := h.sound_walked.listed hl
    obtain ⟨j, hj, -⟩ := h.pruned.blamed hl hl' hg'
    rw [h.no_refs hu tag undefined hid hl hg'] at hj
    cases hj

/-- The walk does not leave it to the source to list a record or enum without a definition. -/
theorem listed_of_owed (h : Completed u b walked l g) (hu : u.Coherent)
    (tag : (u.kind d).isTag = true) (undefined : u.definition? d = none)
    (hid : l.registry.idOf? u d = some i) (grows : l₁.registry.Grows l.registry)
    (ho : l₁.Orderly u) (owed : l₁.Owed u i) : i ∈ l₁.order := by
  rcases owed with hl | hp | hd | ⟨c, g', hg', rfl, -, source⟩
  · exact hl
  · exact absurd (grows.poisoned hp) (h.not_poisoned hu tag undefined hid)
  · exact absurd hd (ho.idle i)
  · have hidc := grows.idOf? (ho.sound.registry.globalOf?_eq_some.1 hg').1
    have found : u.isFound c = true := by
      rcases source with ⟨ht, -⟩ | ⟨ht, -⟩
      · exact isFound_of_isTag ht
      · exact isFound_of_isTypeDecl (by rw [ht]; rfl)
    obtain ⟨tag', undefined'⟩ := h.sound.undefined_of_same hu found tag undefined hidc hid
    rcases source with ⟨-, k, hk, -⟩ | ⟨ht, -⟩
    · rw [undefined'] at hk
      cases hk
    · rw [ht] at tag'
      cases tag'

theorem count_declarations (h : Completed u b walked l g) (hl : i ∈ l.order) :
    (g.declarations.map Global.id).count i = 1 := by
  rw [h.listed]
  exact List.count_eq_one_of_mem h.sound.nodup hl

end Completed

open Listing SourceUnit in
/-- A record or enum without a definition is never poisoned, and stands in the graph exactly once if
anything there refers to it. At every point of the walk it is listed if a listed declaration refers
to it, and once it is listed between two steps of the walk, no failure takes it away again. -/
theorem undefined_tag_survives {u : SourceUnit} {b : List BuiltinEntry} {g : Graph} {l : Listing}
    {d : CursorId} {i : Int} (hu : u.Coherent) (h : u.extract b = (.ok g, l))
    (tag : (u.kind d).isTag = true) (undefined : u.definition? d = none)
    (hid : l.registry.idOf? u d = some i) :
    i ∉ l.registry.poisoned ∧
    (g.References i → (g.declarations.map Global.id).count i = 1) ∧
    ∀ pre post l₁, u.topLevel = pre ++ post → Walked u pre (.ofBuiltins (.ofEntries b)) l₁ →
      i ∉ l₁.registry.poisoned ∧ (l₁.Relies i → i ∈ l₁.order) ∧
        (i ∈ l₁.order → (g.declarations.map Global.id).count i = 1) := by
  obtain ⟨walked, hc⟩ := extract_completed h
  have clean := hc.not_poisoned hu tag undefined hid
  have stays (hl : i ∈ walked.order) : (g.declarations.map Global.id).count i = 1 :=
    hc.count_declarations ((hc.kept_pruned hl).resolve_right clean)
  refine ⟨clean, fun hi => ?_, fun pre post l₁ he hw => ?_⟩
  · obtain ⟨owed, -⟩ := hc.owed_of_references hu hi
    exact stays (hc.listed_of_owed hu tag undefined hid hc.grows_pruned (hc.orderly_walked hu) owed)
  · have ho := hw.orderly hu (orderly_ofBuiltins u _)
    have rest := (hc.walked_rest he hw).advances ho.sound
    have grows := rest.registry.trans hc.grows_pruned
    refine ⟨fun hp => clean (grows.poisoned hp), fun hi => ?_, fun hl => ?_⟩
    · have owed := ho.owed_of_relies hu (Completed.sparing_of_walked hu hw) hi
      exact hc.listed_of_owed hu tag undefined hid grows ho owed
    · refine stays ((rest.kept hl).resolve_right fun hp => clean ?_)
      exact hc.grows_pruned.poisoned hp

/-- Here `struct Missing` has no definition. `struct O` and `struct P` refer to it, and neither can
be represented; `struct User` between them refers to it as well. -/
def missingUnit : SourceUnit where
  spelling := "test.c"
  cursors := #[
    { kind := .other "TRANSLATION_UNIT", spelling := "test.c",
      children := [.node 1, .node 5, .node 7] },
    { kind := .structDecl, spelling := "O", file := some "test.c", line := 1, column := 8,
      definition := some (.node 1), type := .node 0, children := [.node 2, .node 3, .node 4],
      usr := "c:@S@O" },
    { kind := .structDecl, spelling := "Missing", file := some "test.c", line := 1, column := 19,
      type := .node 1, usr := "c:@S@Missing" },
    { kind := .fieldDecl, spelling := "m", file := some "test.c", line := 1, column := 28,
      type := .node 2, offset := 0 },
    { kind := .fieldDecl, spelling := "x", file := some "test.c", line := 1, column := 40,
      type := .node 3, offset := 128 },
    { kind := .structDecl, spelling := "User", file := some "test.c", line := 2, column := 8,
      definition := some (.node 5), type := .node 4, children := [.node 6], usr := "c:@S@User" },
    { kind := .fieldDecl, spelling := "m", file := some "test.c", line := 2, column := 31,
      type := .node 2, offset := 0 },
    { kind := .structDecl, spelling := "P", file := some "test.c", line := 3, column := 8,
      definition := some (.node 7), type := .node 5, children := [.node 8, .node 9],
      usr := "c:@S@P" },
    { kind := .fieldDecl, spelling := "n", file := some "test.c", line := 3, column := 28,
      type := .node 2, offset := 0 },
    { kind := .fieldDecl, spelling := "y", file := some "test.c", line := 3, column := 40,
      type := .node 3, offset := 128 }]
  types := #[
    { kind := .record, spelling := "struct O", decl := .node 1, size := 32, align := 16 },
    { kind := .record, spelling := "struct Missing", decl := .node 2 },
    { kind := .pointer, spelling := "struct Missing *", pointee := .node 1 },
    { kind := .int128, spelling := "__int128" },
    { kind := .record, spelling := "struct User", decl := .node 5, size := 8, align := 8 },
    { kind := .record, spelling := "struct P", decl := .node 7, size := 32, align := 16 }]

theorem missingUnit_yields : missingUnit.yields [] fun g l => g.declarations.any fun d =>
    (g.refsOf d).any fun i => l.registry.idOf? missingUnit (.node 2) == some i := by
  decide +kernel

/-- The record outlives the failure before its user and the one after. -/
theorem missing_record_survives : missingUnit.Coherent ∧
    ∃ g l i, missingUnit.extract [] = (.ok g, l) ∧
      l.registry.idOf? missingUnit (.node 2) = some i ∧ i ∉ l.registry.poisoned ∧
      (g.declarations.map Global.id).count i = 1 := by
  have coherent : missingUnit.Coherent := by decide +kernel
  obtain ⟨g, l, h, hp⟩ := SourceUnit.exists_of_yields missingUnit_yields
  obtain ⟨d, hd, hp⟩ := List.any_eq_true.1 hp
  obtain ⟨i, hi, hp⟩ := List.any_eq_true.1 hp
  have hid : l.registry.idOf? missingUnit (.node 2) = some i := by simpa using hp
  obtain ⟨clean, once, -⟩ := undefined_tag_survives coherent h (by decide +kernel)
    (by decide +kernel) hid
  exact ⟨coherent, g, l, i, h, hid, clean, once ⟨d, hd, hi⟩⟩

end DeclAtlas
