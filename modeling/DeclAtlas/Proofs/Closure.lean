import DeclAtlas.Proofs.Completed
import DeclAtlas.Proofs.Covering

/-! References of the graph. Whatever a listed declaration refers to is listed as well, with one
exception: the definition stands in the text of a record that was skipped before its visit came
that far, or that is bound elsewhere and not visited at all. -/

namespace DeclAtlas

namespace SourceUnit

variable {u : SourceUnit} {c : CursorId}

theorem isTag_eq_false_of_isTyped (h : u.isTyped c = true) : (u.kind c).isTag = false := by
  unfold isTyped at h
  cases hk : u.kind c <;> rw [hk] at h <;> first | rfl | cases h

end SourceUnit

namespace Listing

open SourceUnit

variable {u : SourceUnit} {S : CursorId → Prop} {c : CursorId} {l l' : Listing} {g g₁ : Global}
  {t : CType}

/-- What holds between two steps of the walk. -/
structure Orderly (u : SourceUnit) (l : Listing) : Prop where
  sound : l.Sound u
  idle : ∀ id, id ∉ l.defining
  undefined : l.Undefined u
  covering : l.Covering u
  described : l.Described u
  traced : l.Traced
  typed : ∀ id ∈ l.order, ∀ g, l.registry.globals.get? id = some g →
    ∀ t, g.type? = some t → ∀ i ∈ t.refs, l.Owed u i

theorem Orderly.owed_of_memberRefs {i : Int} (h : l.Orderly u) (hu : u.Coherent)
    (hl : g.id ∈ l.order) (hi : i ∈ l.memberRefs g) : l.Owed u i := by
  obtain ⟨m, hm, hi⟩ := List.mem_flatMap.1 hi
  cases hms : l.members.get? g.id with
  | none => rw [hms] at hm; cases hm
  | some ms =>
    rw [hms] at hm
    obtain ⟨c, hr, hself, hid, made⟩ := h.described g.id ms hms m hm
    exact (h.covering.covered h.sound hu hl hr hself hid).owed (made.holds hi)

theorem orderly_ofBuiltins (u : SourceUnit) (b : Builtins) : (ofBuiltins b).Orderly u where
  sound := sound_ofBuiltins u b
  idle _ h := by cases h
  undefined _ h := by cases h
  covering _ h := by cases h
  described _ _ h := by cases h
  traced _ h := by cases h
  typed _ h := by cases h

theorem Moves.keeps (h : Moves l l') (idle : ∀ id, id ∉ l.defining) : Keeps l l' :=
  ⟨h.registry, fun hid => .inl (h.mem_order hid), fun hid => absurd hid (idle _)⟩

theorem typed_of_visit {o : Option Fault} {id : Int} (hv : Visit u S l o l') (hs : l.Sound u)
    (hid : id ∈ l'.order) (hg : l'.registry.globals.get? id = some g) (ht : g.type? = some t) :
    id ∈ l.order ∧ l.registry.globals.get? id = some g := by
  have typed := Global.isTag_eq_false_of_type? ht
  obtain ⟨-, hm, -⟩ := hv.frame hs
  rcases hv.lists_tags hs hid with hid | ⟨g', hg', htag⟩
  · obtain ⟨g₀, hg₀, -⟩ := hs.listed hid
    obtain ⟨g', hg', hout⟩ := hm.registry.globals hg₀
    rw [hg] at hg'
    cases hg'
    rw [Global.isTag_of_outline hout] at typed
    have same := hm.typed hg₀ (Form.isComposite_eq_false_of_isTag typed)
    rw [hg] at same
    cases same
    exact ⟨hid, hg₀⟩
  · rw [hg] at hg'
    cases hg'
    rw [typed] at htag
    cases htag

theorem Orderly.visit {o : Option Fault} (h : l.Orderly u) (hu : u.Coherent)
    (hS : ∀ d, S d → u.isFound d = true ∨ u.Named d) (ho : ∀ e, o = some e → e.isLocal = true)
    (hv : Visit u S l o l') : l'.Orderly u := by
  obtain ⟨hs, hm, -⟩ := hv.frame h.sound
  have hk := hm.keeps h.idle
  refine ⟨hs, fun id hid => h.idle id (hm.defining hid), hv.undefined hu hS ho h.sound h.undefined,
    ?_, hv.described hu h.sound h.described, hv.traced h.sound h.traced, ?_⟩
  · cases o with
    | none => exact hv.covering rfl hu hS h.sound h.covering
    | some e =>
      -- the list is that of a visit without a fault, and no definition is under way any more
      obtain ⟨l₀, hv₀, hm₀, horder⟩ := hv.before_fault rfl (ho e rfl) h.sound
      have idle₀ : ∀ id, id ∉ l₀.defining :=
        fun id hid => h.idle id ((hv₀.frame h.sound).2.1.defining hid)
      exact (hv₀.covering rfl hu hS h.sound h.covering).keeps (hm₀.keeps idle₀) (horder ▸ ·)
  · intro id hid g hg t ht i hi
    obtain ⟨hid, hg⟩ := typed_of_visit hv h.sound hid hg ht
    exact (h.typed id hid g hg t ht i hi).keeps hk

theorem addTyped_registry (tag : g.form.isTag = false) :
    (l.addTyped g t).registry = l.registry.update (g.withType t) := by
  unfold Listing.addTyped
  cases hf : g.form <;> rw [hf] at tag <;> first | exact add_registry .. | cases tag

theorem eq_or_listed_of_addTyped {id : Int} {d : Global} (tag : g.form.isTag = false)
    (own : g.isBuiltin = false) (hid : id ∈ (l.addTyped g t).order)
    (hd : (l.addTyped g t).registry.globals.get? id = some d) :
    d = g.withType t ∨ id ∈ l.order ∧ l.registry.globals.get? id = some d := by
  rw [addTyped_registry tag, Registry.update, Table.get?_insert] at hd
  split at hd
  · cases hd
    exact .inl rfl
  · rename_i hne
    exact .inr ⟨((mem_addTyped_order own).1 hid).resolve_right hne, hd⟩

theorem Sound.isTag_eq_false_of_typed (hs : l.Sound u) (hk : u.kind (u.canonical c) = u.kind c)
    (kind : u.isTyped c = true) (known : l.registry.globalOf? u c = some g₁)
    (outline : g.outline = g₁.outline) (own : g.isBuiltin = false) : g.form.isTag = false := by
  have h := hs.registry.cursorKind?_eq known (Global.isBuiltin_of_outline outline ▸ own)
  rw [hk] at h
  rw [Global.isTag_of_outline outline, Form.isTag_of_cursorKind? h]
  exact isTag_eq_false_of_isTyped kind

theorem Orderly.addTyped (h : l.Orderly u) (hu : u.Coherent) (kind : u.isTyped c = true)
    (known : l.registry.globalOf? u c = some g₁) (outline : g.outline = g₁.outline)
    (own : g.isBuiltin = false) (owed : ∀ i ∈ t.refs, l.Owed u i) :
    (l.addTyped g t).Orderly u := by
  have hadd := succeeds_addTyped t h.sound known outline own
  have hk : Keeps l (l.addTyped g t) :=
    ⟨hadd.registry, fun hid => .inl (hadd.mem_order hid), fun hid => absurd hid (h.idle _)⟩
  have found : u.isFound c = true := isFound_of_isTyped kind
  have hid : (l.addTyped g t).registry.idOf? u c = some g.id := by
    rw [Global.id_of_outline outline]
    exact hadd.registry.idOf? (h.sound.registry.globalOf?_eq_some.1 known).1
  refine ⟨sound_addTyped t h.sound known outline own, ?_, ?_, ?_, ?_, ?_, ?_⟩
  · rw [addTyped_defining own]
    exact h.idle
  · exact h.undefined.grows (addTyped_incomplete own) hadd.registry
  · refine h.covering.snoc hk (fun hi => (mem_addTyped_order own).1 hi) (.inl found) hid fun hr => ?_
    have := CursorKind.isTag_of_isRecord hr
    rw [isTag_eq_false_of_isTyped kind] at this
    cases this
  · exact h.described.grows (addTyped_members own) hadd.registry
  · exact h.traced.succeeds hadd fun hi => (addTyped_incomplete own).symm ▸ hi
  · intro id hid g' hg' t' ht' i hi
    have tag := h.sound.isTag_eq_false_of_typed (hu.kind (.inl found)) kind known outline own
    rcases eq_or_listed_of_addTyped tag own hid hg' with rfl | ⟨hid, hg'⟩
    · rw [Global.type?_withType tag] at ht'
      cases ht'
      exact (owed i hi).keeps hk
    · exact (h.typed id hid g' hg' t' ht' i hi).keeps hk

theorem Orderly.skipped {id : Int} (h : l.Orderly u) (known : l.registry.idOf? u c = some id)
    (e : Fault) : (l.skipped u c e).Orderly u := by
  have hk : Keeps l (l.skipped u c e) := by
    refine ⟨?_, fun hi => skipped_kept known hi, fun hi => .inr (.inr ?_)⟩ <;>
      rw [skipped_eq known]
    · exact Registry.grows_poison _ id
    · exact hi
  rw [skipped_eq known] at hk ⊢
  refine ⟨((h.sound.poison id).remove id).congr rfl rfl rfl, h.idle,
    h.undefined.grows rfl hk.registry, ?_, h.described.grows rfl hk.registry, ?_, ?_⟩
  · exact h.covering.keeps hk List.mem_of_mem_erase
  · intro i hi
    rcases h.traced i hi with hi | hi | hi
    · rcases hk.listed hi with hi | hi
      · exact .inl hi
      · exact .inr (.inl hi)
    · exact .inr (.inl (hk.registry.poisoned hi))
    · exact .inr (.inr hi)
  · intro i hi g hg t ht j hj
    exact (h.typed i (List.mem_of_mem_erase hi) g hg t ht j hj).keeps hk

end Listing

section steps

open Listing SourceUnit

variable {u : SourceUnit} {c : CursorId} {l l' : Listing}

theorem Extracted.orderly (h : Extracted u c l l') (hu : u.Coherent) (hl : l.Orderly u) :
    l'.Orderly u := by
  have near : ∀ d, u.Near c d → u.isFound d = true ∨ u.Named d :=
    fun _ h => isFound_or_named_of_near h
  cases h with
  | declared _ declared =>
    cases declared with
    | visited visit _ => exact hl.visit hu near (fun _ h => by cases h) visit
    | typed visit kind _ known outline own meant =>
      obtain ⟨n, -, anchored⟩ := meant
      have hl₁ := hl.visit hu near (fun _ h => by cases h) visit
      exact hl₁.addTyped hu kind known outline own fun i hi => (anchored i hi).owed hl₁.sound hu
  | @skipped l₁ e id _ own visit known =>
    exact (hl.visit hu near (fun _ h => by cases h; exact own) visit).skipped known e

theorem Walked.orderly {cs : List CursorId} (h : Walked u cs l l') (hu : u.Coherent)
    (hl : l.Orderly u) : l'.Orderly u :=
  h.induct (fun _ hl step => (visitOne_extracted hl.sound step).orderly hu hl) hl

end steps

/-- The identities that a declaration of the graph refers to, by its type or by its members. -/
def Graph.refsOf (g : Graph) (d : Global) : List Int :=
  d.type?.elim [] CType.refs ++ ((g.members.get? d.id).getD []).flatMap fun m => m.type.refs

def Graph.References (g : Graph) (i : Int) : Prop := ∃ d ∈ g.declarations, i ∈ g.refsOf d

namespace SourceUnit

/-- What stands at the top level of the source, or in the text of a record defined there. -/
inductive Occurs (u : SourceUnit) : CursorId → Prop where
  | top {c} (h : u.Reached root c) (source : u.isImplicit c = false) : Occurs u c
  | nested {r c} (around : Occurs u r) (record : (u.kind r).isRecord = true)
      (defined : u.definition? r = some r) (h : c ∈ u.children r) : Occurs u c

/-- Where the source gives what `d` declares: the definition of a record or enum, and each
declaration of a typedef. -/
def Gives (u : SourceUnit) (d c : CursorId) : Prop :=
  u.isImplicit c = false ∧ ((u.kind d).isTag = true ∧ u.definition? d = some c ∨
    u.kind d = .typedefDecl ∧ u.kind c = .typedefDecl ∧ u.canonical c = u.canonical d)

end SourceUnit

namespace Listing

variable {u : SourceUnit} {l l' : Listing} {c : CursorId}

/-- A record that is bound elsewhere or skipped. -/
def PassedOver (u : SourceUnit) (l : Listing) (r : CursorId) : Prop :=
  ∃ g, l.registry.globalOf? u r = some g ∧ (g.isBuiltin = true ∨ g.id ∈ l.registry.poisoned)

/-- Some record around `c` is passed over. -/
def Shadowed (u : SourceUnit) (l : Listing) (c : CursorId) : Prop :=
  ∃ r, u.Occurs r ∧ (u.kind r).isRecord = true ∧ u.definition? r = some r ∧ u.Below r c ∧
    l.PassedOver u r

/-- An identity that was never listed, because the source gives it inside a record that is passed
over, or as a typedef inside a record. -/
def Overlooked (u : SourceUnit) (l : Listing) (i : Int) : Prop :=
  i ∉ l.added ∧ ∃ d c, l.registry.idOf? u d = some i ∧ u.Gives d c ∧
    (l.Shadowed u c ∨ u.kind c = .typedefDecl ∧
      ∃ r, u.Occurs r ∧ (u.kind r).isRecord = true ∧ c ∈ u.children r)

theorem Shadowed.grows (h : l.Shadowed u c) (grows : l.registry.Grows l'.registry) :
    l'.Shadowed u c := by
  obtain ⟨r, hr, hk, hd, hb, g, hg, hp⟩ := h
  obtain ⟨g', hg', ho⟩ := grows.globalOf? hg
  refine ⟨r, hr, hk, hd, hb, g', hg', ?_⟩
  rw [Global.isBuiltin_of_outline ho, Global.id_of_outline ho]
  exact hp.imp_right grows.poisoned

end Listing

namespace Completed

open Listing SourceUnit

variable {u : SourceUnit} {b : List BuiltinEntry} {walked l : Listing} {g : Graph}

theorem orderly_walked (h : Completed u b walked l g) (hu : u.Coherent) : walked.Orderly u :=
  h.walk.orderly hu (orderly_ofBuiltins u _)

/-- A definition of the source is bound elsewhere, skipped or listed, unless a record around it is
passed over. -/
theorem answered_or_shadowed (h : Completed u b walked l g) (hu : u.Coherent) {c : CursorId}
    (hc : u.Occurs c) (tag : (u.kind c).isTag = true) (self : u.definition? c = some c) :
    walked.Answered u c ∨ walked.Shadowed u c := by
  have hw := h.orderly_walked hu
  induction hc with
  | top hr source => exact .inl (h.answered_top hr source ((isBinding_of_isTag tag).2 (.inr self)))
  | @nested r c around record defined hchild ih =>
    rcases ih (CursorKind.isTag_of_isRecord record) defined with ⟨d, hd, ha⟩ | ⟨r', hr', hrest⟩
    · have passed (hp : d.isBuiltin = true ∨ d.id ∈ walked.registry.poisoned) :
          walked.Shadowed u c :=
        ⟨r, around, record, defined, .child hchild, d, hd, hp⟩
      rcases ha with ha | ha | ha
      · exact .inr (passed (.inl ha))
      · exact .inr (passed (.inr ha))
      · -- the record around is listed, so what is nested in it was visited
        have hid := (hw.sound.registry.globalOf?_eq_some.1 hd).1
        exact .inl ((hw.covering.covered hw.sound hu ha record defined hid).nested c hchild tag self)
    · obtain ⟨hk, hd, hb, hp⟩ := hrest
      exact .inr ⟨r', hr', hk, hd, hb.within (.inr (.child hchild)), hp⟩

/-- What a declaration of the graph refers to is answered for when the walk is over, and is not
skipped. -/
theorem owed_of_references (h : Completed u b walked l g) (hu : u.Coherent) {i : Int}
    (hi : g.References i) : walked.Owed u i ∧ i ∉ l.registry.poisoned := by
  obtain ⟨d, hd, hi⟩ := hi
  have hw := h.orderly_walked hu
  obtain ⟨hl, hget⟩ := h.mem_declarations.1 hd
  have hl' := h.pruned.order.subset hl
  have clean := brokenRef?_eq_none_iff.1 (h.unbroken d.id hl hget) i
  rcases List.mem_append.1 hi with hi | hi
  · refine ⟨?_, clean (List.mem_append_left _ (List.mem_append_left _ hi))⟩
    cases ht : d.type? with
    | none => rw [ht] at hi; cases hi
    | some t =>
      rw [ht] at hi
      exact hw.typed d.id hl' d (h.pruned.globals ▸ hget) t ht i hi
  · rw [h.members hl] at hi
    refine ⟨hw.owed_of_memberRefs hu hl' ?_, clean (List.mem_append_right _ hi)⟩
    rw [memberRefs, ← h.pruned.members]
    exact hi

theorem not_mem_added (h : Completed u b walked l g) (hu : u.Coherent) {d : CursorId} {i : Int}
    (hid : walked.registry.idOf? u d = some i) (hd : u.InSource d) (unlisted : i ∉ walked.order)
    (clean : i ∉ walked.registry.poisoned) : i ∉ l.added := by
  have hw := h.orderly_walked hu
  intro hadded
  -- it could only have been withdrawn as incomplete, and then it has no definition
  rw [h.pruned.added] at hadded
  obtain ⟨k, ht, hnone, hidk⟩ :=
    hw.undefined i (((hw.traced i hadded).resolve_left unlisted).resolve_left clean)
  have same := hw.sound.registry.canonical_eq hid hidk
  have found := isFound_of_isTag ht
  rcases hd with ⟨htag, j, hj, -⟩ | ⟨htypedef, -⟩
  · rw [hu.shared htag ht same, hnone] at hj
    cases hj
  · have hfound : u.isFound d = true := isFound_of_isTypeDecl (by rw [htypedef]; rfl)
    rw [← hu.kind (.inl found), ← same, hu.kind (.inl hfound), htypedef] at ht
    cases ht

end Completed

open Listing SourceUnit in
/-- A reference of the graph leads out of it exactly when it was never listed, because the source
gives it inside a record that is passed over. -/
theorem unlisted_reference_iff {u : SourceUnit} {b : List BuiltinEntry} {g : Graph} {l : Listing}
    (hu : u.Coherent) (h : u.extract b = (.ok g, l))
    (placed : ∀ i, g.References i → ∀ d, l.registry.idOf? u d = some i → u.InSource d →
      ∃ c, u.Gives d c ∧ u.Occurs c) :
    ∀ i, g.References i → (i ∉ g.declarations.map Global.id ↔ l.Overlooked u i) := by
  obtain ⟨walked, hc⟩ := extract_completed h
  intro i hi
  rw [hc.listed]
  refine ⟨fun hn => ?_, fun ho hl => ho.1 (hc.sound.added hl)⟩
  obtain ⟨owed, clean⟩ := hc.owed_of_references hu hi
  have unlisted : i ∉ walked.order := fun hl => (hc.kept_pruned hl).elim hn clean
  have clean' : i ∉ walked.registry.poisoned := fun hp => clean (hc.grows_pruned.poisoned hp)
  obtain ⟨d, d', hd, rfl, hb, hsrc⟩ :=
    ((owed.resolve_left unlisted).resolve_left clean').resolve_left
      ((hc.orderly_walked hu).idle i)
  have hid := (hc.sound_walked.registry.globalOf?_eq_some.1 hd).1
  have hid' := hc.grows_pruned.idOf? hid
  obtain ⟨c, gives, occurs⟩ := placed _ hi d hid' hsrc
  -- what gives the reference shares its global, which is not bound elsewhere
  have unanswered (same : u.canonical c = u.canonical d) : ¬walked.Answered u c := by
    rintro ⟨e, he, ha⟩
    rw [Registry.globalOf?, Registry.idOf?, same] at he
    rw [show e = d' from Option.some.inj (he.symm.trans hd), hb] at ha
    rcases ha with ha | ha | ha
    · cases ha
    · exact clean' ha
    · exact unlisted ha
  refine ⟨hc.not_mem_added hu hid hsrc unlisted clean', d, c, hid', gives, ?_⟩
  rcases gives.2 with ⟨tag, hdef⟩ | ⟨-, typedef, same⟩
  · have same := hu.canonical tag hdef
    have kind := hu.kind_definition tag hdef
    have := hc.answered_or_shadowed hu occurs (kind ▸ tag) (hu.definition_self tag hdef)
    exact .inl ((this.resolve_left (unanswered same)).grows hc.grows_pruned)
  · cases occurs with
    | top hr source =>
      exact absurd (hc.answered_top hr source (by simp [IsBinding, typedef])) (unanswered same)
    | nested around record _ hchild => exact .inr ⟨typedef, _, around, record, hchild⟩

/-- Here `struct S` is declared, then used by the function `f`, and defined inside `struct R`, behind
a field of a type that cannot be represented. -/
def nestedUnit : SourceUnit where
  spelling := "test.c"
  cursors := #[
    { kind := .other "TRANSLATION_UNIT", spelling := "test.c",
      children := [.node 1, .node 2, .node 4] },
    { kind := .structDecl, spelling := "S", file := some "test.c", line := 1, column := 8,
      definition := some (.node 6), type := .node 0, usr := "c:@S@S" },
    { kind := .functionDecl, spelling := "f", file := some "test.c", line := 2, column := 6,
      type := .node 1, children := [.node 3], args := [.node 3], linkage := .external },
    { kind := .parmDecl, spelling := "p", file := some "test.c", line := 2, column := 18,
      type := .node 2 },
    { kind := .structDecl, spelling := "R", file := some "test.c", line := 3, column := 8,
      definition := some (.node 4), type := .node 3,
      children := [.node 5, .node 6, .node 8], usr := "c:@S@R" },
    { kind := .fieldDecl, spelling := "x", file := some "test.c", line := 3, column := 21,
      type := .node 4, offset := 0 },
    { kind := .structDecl, spelling := "S", file := some "test.c", line := 3, column := 31,
      canonical := some (.node 1), definition := some (.node 6), type := .node 0,
      children := [.node 7], usr := "c:@S@S" },
    { kind := .fieldDecl, spelling := "a", file := some "test.c", line := 3, column := 39,
      type := .node 5, offset := 0 },
    { kind := .fieldDecl, spelling := "s", file := some "test.c", line := 3, column := 44,
      type := .node 0, offset := 128 }]
  types := #[
    { kind := .record, spelling := "struct S", decl := .node 6, size := 4, align := 4 },
    { kind := .functionProto, spelling := "void (struct S *)", result := .node 6,
      params := [.node 2] },
    { kind := .pointer, spelling := "struct S *", pointee := .node 0 },
    { kind := .record, spelling := "struct R", decl := .node 4, size := 32, align := 16 },
    { kind := .int128, spelling := "__int128" },
    { kind := .int, spelling := "int" },
    { kind := .void, spelling := "void" }]

section nested

open SourceUnit

theorem nestedUnit_yields : nestedUnit.yields [] fun g _ => g.declarations.any fun d =>
    (g.refsOf d).any fun i => decide (i ∉ g.declarations.map Global.id) := by
  decide +kernel

theorem nestedUnit_refers : ∃ g l i, nestedUnit.extract [] = (.ok g, l) ∧ g.References i ∧
    i ∉ g.declarations.map Global.id := by
  obtain ⟨g, l, h, hp⟩ := exists_of_yields nestedUnit_yields
  obtain ⟨d, hd, hp⟩ := List.any_eq_true.1 hp
  obtain ⟨i, hi, hp⟩ := List.any_eq_true.1 hp
  exact ⟨g, l, i, h, ⟨d, hd, hi⟩, of_decide_eq_true hp⟩

theorem nestedUnit_placed {d : CursorId} (h : nestedUnit.InSource d) :
    ∃ c, nestedUnit.Gives d c ∧ nestedUnit.Occurs c := by
  have outer : nestedUnit.Occurs (.node 4) := .top (.child (by decide +kernel)) (by decide +kernel)
  have inner : nestedUnit.Occurs (.node 6) :=
    .nested outer (by decide +kernel) (by decide +kernel) (by decide +kernel)
  have defs : ∀ c ∈ nestedUnit.cursorIds, (nestedUnit.kind c).isTag = true →
      nestedUnit.definition? c = some (.node 4) ∨ nestedUnit.definition? c = some (.node 6) := by
    decide +kernel
  have untyped : ∀ c ∈ nestedUnit.cursorIds, nestedUnit.kind c ≠ .typedefDecl := by decide +kernel
  rcases h with ⟨tag, -⟩ | ⟨typedef, -⟩
  · rcases defs d (mem_cursorIds (isFound_of_isTag tag)) tag with hd | hd
    · exact ⟨.node 4, ⟨by decide +kernel, .inl ⟨tag, hd⟩⟩, outer⟩
    · exact ⟨.node 6, ⟨by decide +kernel, .inl ⟨tag, hd⟩⟩, inner⟩
  · have found : nestedUnit.isFound d = true := isFound_of_isTypeDecl (by rw [typedef]; rfl)
    exact absurd typedef (untyped d (mem_cursorIds found))

/-- The function refers to `struct S`, which the graph does not hold. -/
theorem nested_definition_unlisted : nestedUnit.Coherent ∧
    (∀ d, nestedUnit.InSource d → ∃ c, nestedUnit.Gives d c ∧ nestedUnit.Occurs c) ∧
    ∃ g l i, nestedUnit.extract [] = (.ok g, l) ∧ g.References i ∧
      i ∉ g.declarations.map Global.id :=
  ⟨by decide +kernel, fun _ => nestedUnit_placed, nestedUnit_refers⟩

/-- The record around its definition is to blame. -/
theorem nested_definition_overlooked : ∃ g l i, nestedUnit.extract [] = (.ok g, l) ∧
    g.References i ∧ l.Overlooked nestedUnit i := by
  obtain ⟨g, l, i, h, hi, hn⟩ := nestedUnit_refers
  have placed : ∀ i, g.References i → ∀ d, l.registry.idOf? nestedUnit d = some i →
      nestedUnit.InSource d → ∃ c, nestedUnit.Gives d c ∧ nestedUnit.Occurs c :=
    fun _ _ _ _ hd => nestedUnit_placed hd
  exact ⟨g, l, i, h, hi, (unlisted_reference_iff (by decide +kernel) h placed i hi).1 hn⟩

end nested

end DeclAtlas
