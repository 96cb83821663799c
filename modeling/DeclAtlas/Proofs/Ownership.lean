import DeclAtlas.Proofs.Closure

/-! Inner declarations come first. A record is listed when its text has been visited, so whatever
is defined in the text stands before it in the list. Later steps only append to the list, or take
a declaration off and poison it, so the two never change places; and a record that refers to a
poisoned declaration is pruned. -/

namespace DeclAtlas

/-- `i` stands before `id`. -/
def Before (order : List Int) (i id : Int) : Prop :=
  ∃ pre post, order = pre ++ id :: post ∧ i ∈ pre

namespace Before

variable {order : List Int} {i id : Int}

theorem append (h : Before order i id) (new : List Int) : Before (order ++ new) i id := by
  obtain ⟨pre, post, rfl, hi⟩ := h
  exact ⟨pre, post ++ new, by simp, hi⟩

theorem last (hi : i ∈ order) (id : Int) : Before (order ++ [id]) i id :=
  ⟨order, [], rfl, hi⟩

theorem filter {p : Int → Bool} (h : Before order i id) (hi : p i = true) (hid : p id = true) :
    Before (order.filter p) i id := by
  obtain ⟨pre, post, rfl, hmem⟩ := h
  refine ⟨pre.filter p, post.filter p, ?_, List.mem_filter.2 ⟨hmem, hi⟩⟩
  rw [List.filter_append, List.filter_cons_of_pos hid]

end Before

theorem filter_mem_of_sublist {part whole : List Int} (h : part.Sublist whole)
    (hn : whole.Nodup) : whole.filter (· ∈ part) = part := by
  induction h with
  | slnil => rfl
  | @cons part whole a h ih =>
    obtain ⟨ha, hn⟩ := List.nodup_cons.1 hn
    have hpart : a ∉ part := fun hm => ha (h.subset hm)
    rw [List.filter_cons_of_neg (by simpa using hpart), ih hn]
  | @cons_cons part whole a h ih =>
    obtain ⟨ha, hn⟩ := List.nodup_cons.1 hn
    rw [List.filter_cons_of_pos (by simp)]
    refine congrArg (a :: ·) (Eq.trans (List.filter_congr fun i hi => ?_) (ih hn))
    have hne : i ≠ a := fun e => ha (e ▸ hi)
    simp [hne]

namespace Listing

open SourceUnit

variable {u : SourceUnit} {c j : CursorId} {l l' : Listing} {id : Int}

/-- The definition `j` is bound elsewhere, skipped, or listed before `id`. -/
def Ahead (u : SourceUnit) (l : Listing) (j : CursorId) (id : Int) : Prop :=
  ∃ g, l.registry.globalOf? u j = some g ∧
    (g.isBuiltin = true ∨ g.id ∈ l.registry.poisoned ∨ Before l.order g.id id)

/-- What is defined in the text of the record that `c` declares is ahead of `id`. -/
def Trails (u : SourceUnit) (l : Listing) (c : CursorId) (id : Int) : Prop :=
  (u.kind c).isRecord = true → ∀ k, u.definition? c = some k → ∀ j ∈ u.children k,
    (u.kind j).isTag = true → u.definition? j = some j → l.Ahead u j id

/-- Every listed record stands behind what is defined in its text. -/
def InnerFirst (u : SourceUnit) (l : Listing) : Prop :=
  ∀ id ∈ l.order, ∃ c, (u.isFound c = true ∨ u.Named c) ∧ l.registry.idOf? u c = some id ∧
    l.Trails u c id

/-- From `l` to `l'` no two declarations change places, and what leaves the list is poisoned. -/
structure Aligned (l l' : Listing) : Prop where
  registry : l.registry.Grows l'.registry
  pairs : ∀ {i id}, Before l.order i id → id ∈ l'.order →
    Before l'.order i id ∨ i ∈ l'.registry.poisoned

theorem Ahead.aligned (h : l.Ahead u j id) (ha : Aligned l l') (hid : id ∈ l'.order) :
    l'.Ahead u j id := by
  obtain ⟨g, hg, h⟩ := h
  obtain ⟨g', hg', ho⟩ := ha.registry.globalOf? hg
  refine ⟨g', hg', ?_⟩
  rw [Global.isBuiltin_of_outline ho, Global.id_of_outline ho]
  rcases h with h | h | h
  · exact .inl h
  · exact .inr (.inl (ha.registry.poisoned h))
  · exact .inr (ha.pairs h hid).symm

theorem Trails.aligned (h : l.Trails u c id) (ha : Aligned l l') (hid : id ∈ l'.order) :
    l'.Trails u c id :=
  fun hr k hk j hj ht hd => (h hr k hk j hj ht hd).aligned ha hid

theorem InnerFirst.aligned (h : l.InnerFirst u) (ha : Aligned l l')
    (ho : ∀ {id}, id ∈ l'.order → id ∈ l.order) : l'.InnerFirst u := by
  intro id hid
  obtain ⟨c, hc, hidc, trails⟩ := h id (ho hid)
  exact ⟨c, hc, ha.registry.idOf? hidc, trails.aligned ha hid⟩

theorem InnerFirst.snoc (h : l.InnerFirst u) (ha : Aligned l l')
    (ho : ∀ {i}, i ∈ l'.order → i ∈ l.order ∨ i = id) (hc : u.isFound c = true ∨ u.Named c)
    (hid : l'.registry.idOf? u c = some id) (trails : id ∉ l.order → l'.Trails u c id) :
    l'.InnerFirst u := by
  have old {i : Int} (hi : i ∈ l.order) (hi' : i ∈ l'.order) : ∃ c,
      (u.isFound c = true ∨ u.Named c) ∧ l'.registry.idOf? u c = some i ∧ l'.Trails u c i := by
    obtain ⟨c, hc, hidc, trails⟩ := h i hi
    exact ⟨c, hc, ha.registry.idOf? hidc, trails.aligned ha hi'⟩
  intro i hi'
  rcases ho hi' with hi | rfl
  · exact old hi hi'
  · by_cases hi : i ∈ l.order
    · exact old hi hi'
    · exact ⟨c, hc, hid, trails hi⟩

theorem aligned_of_append {new : List Int} (grows : l.registry.Grows l'.registry)
    (ho : l'.order = l.order ++ new) : Aligned l l' :=
  ⟨grows, fun h _ => .inl (ho ▸ h.append new)⟩

theorem Succeeds.aligned (h : Succeeds l l') : Aligned l l' := by
  obtain ⟨new, -, ho⟩ := h.listings
  exact aligned_of_append h.registry ho

theorem enterRecord_order (u : SourceUnit) (c : CursorId) (g : Global) (ms : List Member)
    (l : Listing) :
    (l.enterRecord u c g ms).order = if g.id ∈ l.order then l.order else l.order ++ [g.id] := by
  rcases add_listings (g.withLayout (u.layoutOf c))
    ((l.setMembers g.id ms (Member.irregular ms)).stopDefining g.id) with ⟨hid, ho, -⟩ | ⟨hid, ho, -⟩
  · exact ho.trans (if_pos hid).symm
  · exact ho.trans (if_neg hid).symm

theorem aligned_enterRecord {g : Global} {ms : List Member}
    (grows : l.registry.Grows (l.enterRecord u c g ms).registry) :
    Aligned l (l.enterRecord u c g ms) := by
  have ho := enterRecord_order u c g ms l
  split at ho
  · exact aligned_of_append grows (ho.trans (List.append_nil _).symm)
  · exact aligned_of_append grows ho

theorem Gathered.trails {g : Global} {ms : List Member} (h : l.Gathered u (u.children c) ms)
    (self : u.definition? c = some c)
    (grows : l.registry.Grows (l.enterRecord u c g ms).registry) (new : g.id ∉ l.order) :
    (l.enterRecord u c g ms).Trails u c g.id := by
  intro _ k hk j hj tag hd
  rw [self] at hk
  cases hk
  obtain ⟨d, known, listed⟩ := h.nested j hj tag hd
  obtain ⟨d', known', ho⟩ := grows.globalOf? known
  refine ⟨d', known', ?_⟩
  rw [Global.isBuiltin_of_outline ho, Global.id_of_outline ho, enterRecord_order, if_neg new]
  exact listed.imp_right fun hl => .inr (.last hl g.id)

theorem aligned_skipped {e : Fault} (hn : l.order.Nodup)
    (known : l.registry.idOf? u c = some id) : Aligned l (l.skipped u c e) := by
  rw [skipped_eq known]
  refine ⟨Registry.grows_poison _ id, fun {i d} h hd => ?_⟩
  have order : (((l.poison id).remove id).diagnose
      ⟨"warning", u.spellingOf c, some (u.locationOf c), e.message⟩).order =
      l.order.filter (fun i => decide (i ∉ [id])) := remove_order (l := l.poison id) hn id
  rw [order] at hd ⊢
  by_cases hi : i = id
  · exact .inr (IdSet.mem_insert.2 (.inl hi))
  · exact .inl (h.filter (by simpa using hi) (List.mem_filter.1 hd).2)

end Listing

section steps

open Listing SourceUnit

variable {u : SourceUnit} {S : CursorId → Prop} {c : CursorId} {l l' : Listing} {o : Option Fault}

/-- A visit without a fault lists a record after what is defined in its text. -/
theorem Visit.innerFirst (h : Visit u S l o l') (ho : o = none) (hu : u.Coherent)
    (hS : ∀ d, S d → u.isFound d = true ∨ u.Named d) (hs : l.Sound u) (hl : l.InnerFirst u) :
    l'.InnerFirst u := by
  have nests : ∀ {c d}, u.Nests c d → u.isFound d = true ∨ u.Named d :=
    fun h => .inl (isFound_of_isTag h.2)
  induction h with
  | done => exact hl
  | halt | undeclarable | failed => cases ho
  | noted n rest ih => exact ih ho hS (hs.congr rfl rfl rfl) hl
  | looked look rest ih =>
    have hp := proceeds_lookup hs look
    exact ih ho hS hp.sound (hl.aligned hp.succeeds.aligned (lookup_order hs look ▸ ·))
  | @incomplete _ l _ _ d g place undefined known tag unlisted rest ih =>
    have hp := proceeds_enterIncomplete hs known tag
    have hid := hp.moves.registry.idOf? (hs.registry.globalOf?_eq_some.1 known).1
    refine ih ho hS hp.sound (hl.snoc hp.succeeds.aligned (fun h => mem_enterIncomplete_order.1 h)
      (place.elim .inl (hS d)) hid fun _ _ k hk => ?_)
    rw [undefined] at hk
    cases hk
  | @enumerated _ l l₁ _ _ c g loc place look form rest ih =>
    have hp := proceeds_enterEnum hs look form
    have known := known_of_lookup hs look
    have found := isFound_of_definition (place.definition_self hs hu)
    have hid : (l₁.enterEnum u c g).registry.idOf? u c = some g.id := by
      rw [enterEnum, add_registry]
      exact known.1
    refine ih ho hS hp.sound (hl.snoc hp.succeeds.aligned (fun h => ?_) (.inl found) hid
      fun _ hr => ?_)
    · exact lookup_order hs look ▸ mem_enterEnum_order.1 h
    · have hs₁ := (proceeds_lookup hs look).sound
      have hb : g.isBuiltin = false := by simp [Global.isBuiltin, form, Form.isBuiltin]
      rw [hs₁.isRecord_eq hu (.inl found) (hs₁.registry.globalOf?_eq_some.2 known) hb, form] at hr
      cases hr
  | @recorded _ l l₁ l₂ _ _ c g ms place look form inside gathered rest ihin ih =>
    have hl₁ := proceeds_lookup hs look
    have hs₁ := hl₁.sound.startDefining g.id
    have hin := inside.proceeds hs₁
    have hp := proceeds_enterRecord ms hs look form hin
    have self := place.definition_self hs hu
    have grows := grows_enterRecord ms hs look hin
    have start : l₁.InnerFirst u := hl.aligned hl₁.succeeds.aligned (lookup_order hs look ▸ ·)
    have hl₂ : l₂.InnerFirst u := ihin rfl (fun _ h => nests h) hs₁ start
    have hid := grows.idOf? (hin.moves.registry.idOf? (known_of_lookup hs look).1)
    refine ih ho hS hp.sound (hl₂.snoc (aligned_enterRecord grows)
      (fun h => mem_enterRecord_order.1 h) (.inl (isFound_of_definition self)) hid fun new => ?_)
    exact gathered.trails self grows new

theorem Visit.innerFirst_of_fault {e : Fault} (h : Visit u S l (some e) l') (he : e.isLocal = true)
    (hu : u.Coherent) (hS : ∀ d, S d → u.isFound d = true ∨ u.Named d) (hs : l.Sound u)
    (hl : l.InnerFirst u) : l'.InnerFirst u := by
  obtain ⟨l₀, hv, hm, horder⟩ := h.before_fault rfl he hs
  have aligned : Aligned l₀ l' :=
    aligned_of_append hm.registry (horder.trans (List.append_nil _).symm)
  exact (hv.innerFirst rfl hu hS hs hl).aligned aligned (horder ▸ ·)

theorem Extracted.innerFirst (h : Extracted u c l l') (hu : u.Coherent) (hs : l.Sound u)
    (hl : l.InnerFirst u) : l'.InnerFirst u := by
  have near : ∀ d, u.Near c d → u.isFound d = true ∨ u.Named d :=
    fun _ h => isFound_or_named_of_near h
  cases h with
  | declared _ declared =>
    cases declared with
    | visited visit _ => exact visit.innerFirst rfl hu near hs hl
    | @typed l₁ g g₁ t visit kind _ known outline own _ =>
      have hs₁ := (visit.proceeds hs).sound
      have hadd := succeeds_addTyped t hs₁ known outline own
      have hid : (l₁.addTyped g t).registry.idOf? u c = some g.id := by
        rw [Global.id_of_outline outline]
        exact hadd.registry.idOf? (hs₁.registry.globalOf?_eq_some.1 known).1
      have hl₁ := visit.innerFirst rfl hu near hs hl
      refine hl₁.snoc hadd.aligned (fun hi => (mem_addTyped_order own).1 hi)
        (.inl (isFound_of_isTyped kind)) hid fun _ hr => ?_
      have := CursorKind.isTag_of_isRecord hr
      rw [isTag_eq_false_of_isTyped kind] at this
      cases this
  | @skipped l₁ e id _ own visit known =>
    have hs₁ := (visit.frame hs).1
    have hl₁ := visit.innerFirst_of_fault own hu near hs hl
    refine hl₁.aligned (aligned_skipped hs₁.nodup known) fun hi => ?_
    rw [skipped_eq known] at hi
    exact List.mem_of_mem_erase hi

theorem Walked.innerFirst {cs : List CursorId} (h : Walked u cs l l') (hu : u.Coherent)
    (hs : l.Sound u) (hl : l.InnerFirst u) : l'.InnerFirst u :=
  h.keeps hs (fun hs hl step => step.innerFirst hu hs hl) hl

end steps

namespace Completed

open Listing SourceUnit

variable {u : SourceUnit} {b : List BuiltinEntry} {walked l : Listing} {g : Graph}

theorem innerFirst_walked (h : Completed u b walked l g) (hu : u.Coherent) :
    walked.InnerFirst u :=
  h.walk.innerFirst hu (sound_start u b) fun _ hid => (List.not_mem_nil hid).elim

/-- A listed record stands behind what is defined in its text, whichever of its declarations it was
listed for. -/
theorem ahead_of_nested (h : Completed u b walked l g) (hu : u.Coherent) {id : Int} {c k : CursorId}
    {d : Global} (hid : id ∈ walked.order) (hr : (u.kind c).isRecord = true)
    (self : u.definition? c = some c) (hidc : walked.registry.idOf? u c = some id)
    (nested : walked.Nested u (u.children c) k d) :
    d.id ∈ walked.registry.poisoned ∨ Before walked.order d.id id := by
  obtain ⟨c', place, hidc', trails⟩ := h.innerFirst_walked hu id hid
  have found := isFound_of_definition self
  have same := h.sound_walked.registry.canonical_eq hidc hidc'
  have kind : u.kind c' = u.kind c := by rw [← hu.kind place, ← hu.kind (.inl found), same]
  have hr' : (u.kind c').isRecord = true := kind ▸ hr
  have defined : u.definition? c' = some c := by
    rw [← self]
    exact hu.shared (CursorKind.isTag_of_isRecord hr') (CursorKind.isTag_of_isRecord hr) same.symm
  obtain ⟨d', known, ahead⟩ := trails hr' c defined k nested.place nested.tag nested.self
  rw [nested.known] at known
  cases known
  exact ahead.resolve_left (by simp [nested.own])

theorem before_pruned (h : Completed u b walked l g) {i id : Int} (hb : Before walked.order i id)
    (hi : i ∈ l.order) (hid : id ∈ l.order) : Before l.order i id := by
  rw [← filter_mem_of_sublist h.pruned.order h.sound_walked.nodup]
  exact hb.filter (decide_eq_true hi) (decide_eq_true hid)

theorem split_declarations (h : Completed u b walked l g) {i : Int} {d : Global}
    (hd : d ∈ g.declarations) (hb : Before l.order i d.id) :
    ∃ before after, g.declarations = before ++ d :: after ∧ ∃ e ∈ before, e.id = i := by
  obtain ⟨pre, post, ho, hi⟩ := hb
  obtain ⟨before, rest, hds, hbefore, hrest⟩ := List.map_eq_append_iff.1 (h.listed.trans ho)
  obtain ⟨d', after, rfl, hid, -⟩ := List.map_eq_cons_iff.1 hrest
  have hget := h.global (d := d') (by rw [hds]; simp)
  rw [hid, h.global hd] at hget
  cases hget
  exact ⟨before, after, hds, List.mem_map.1 (hbefore ▸ hi)⟩

end Completed

open Listing SourceUnit in
/-- What a member of a listed record owns, its type refers to, and it is listed before the
record. -/
theorem owned_definition_listed_first {u : SourceUnit} {b : List BuiltinEntry} {g : Graph}
    {l : Listing} (hu : u.Coherent) (h : u.extract b = (.ok g, l)) :
    ∀ d ∈ g.declarations, ∀ ms, g.members.get? d.id = some ms → ∀ m ∈ ms, ∀ i,
      m.owns? = some i → i ∈ m.type.refs ∧
        ∃ before after, g.declarations = before ++ d :: after ∧ ∃ e ∈ before, e.id = i := by
  obtain ⟨walked, hc⟩ := extract_completed h
  intro d hd ms hms m hm i hi
  obtain ⟨hl, hget⟩ := hc.mem_declarations.1 hd
  rw [hc.members hl] at hms
  have hl' := hc.pruned.order.subset hl
  obtain ⟨c, hr, self, hid, made⟩ :=
    (hc.orderly_walked hu).described d.id ms (hc.pruned.members ▸ hms) m hm
  obtain ⟨href, k, e, nested, rfl⟩ := made.owned hi
  -- a record that refers to a poisoned declaration would have been pruned
  have clean : e.id ∉ l.registry.poisoned := by
    refine brokenRef?_eq_none_iff.1 (hc.unbroken d.id hl hget) _ (List.mem_append_right _ ?_)
    rw [memberRefs, hms]
    exact List.mem_flatMap.2 ⟨m, hm, href⟩
  have ahead := (hc.ahead_of_nested hu hl' hr self hid nested).resolve_left fun hp =>
    clean (hc.grows_pruned.poisoned hp)
  have listed : e.id ∈ walked.order := by
    obtain ⟨pre, post, ho, he⟩ := ahead
    rw [ho]
    exact List.mem_append_left _ he
  have kept := (hc.kept_pruned listed).resolve_right clean
  exact ⟨href, hc.split_declarations hd (hc.before_pruned ahead kept hl)⟩

/-- Here `struct Outer` has an unnamed struct as its first member, whose field `i` defines
`struct Inner` in place. -/
def owningUnit : SourceUnit where
  spelling := "test.c"
  cursors := #[
    { kind := .other "TRANSLATION_UNIT", spelling := "test.c", children := [.node 1] },
    { kind := .structDecl, spelling := "Outer", file := some "test.c", line := 1, column := 8,
      definition := some (.node 1), type := .node 0, children := [.node 2, .node 6],
      usr := "c:@S@Outer" },
    { kind := .structDecl, file := some "test.c", line := 1, column := 16,
      definition := some (.node 2), type := .node 1, children := [.node 3, .node 5],
      anonymous := true, usr := "c:@S@Outer@Sa" },
    { kind := .structDecl, spelling := "Inner", file := some "test.c", line := 1, column := 32,
      definition := some (.node 3), type := .node 2, children := [.node 4],
      usr := "c:@S@Outer@Sa@S@Inner" },
    { kind := .fieldDecl, spelling := "x", file := some "test.c", line := 1, column := 44,
      type := .node 3, offset := 0 },
    { kind := .fieldDecl, spelling := "i", file := some "test.c", line := 1, column := 49,
      type := .node 2, offset := 0 },
    { kind := .fieldDecl, spelling := "y", file := some "test.c", line := 1, column := 59,
      type := .node 3, offset := 32 }]
  types := #[
    { kind := .record, spelling := "struct Outer", decl := .node 1, size := 8, align := 4 },
    { kind := .record, spelling := "struct Outer::(unnamed)", decl := .node 2, size := 4, align := 4 },
    { kind := .record, spelling := "struct Inner", decl := .node 3, size := 4, align := 4 },
    { kind := .int, spelling := "int" }]

section owning

open SourceUnit

theorem owningUnit_yields : owningUnit.yields [] fun g _ => g.declarations.any fun d =>
    (g.members.get? d.id).any fun ms => ms.any fun m => m.owns?.isSome && m.name == "i" := by
  decide +kernel

/-- The field `i` owns `struct Inner`, which is listed before the record of the field. -/
theorem inner_struct_listed_first : owningUnit.Coherent ∧ ∃ g l d ms m i before after,
    owningUnit.extract [] = (.ok g, l) ∧ g.members.get? d.id = some ms ∧ m ∈ ms ∧ m.name = "i" ∧
    m.owns? = some i ∧ i ∈ m.type.refs ∧ g.declarations = before ++ d :: after ∧
    ∃ e ∈ before, e.id = i := by
  have coherent : owningUnit.Coherent := by decide +kernel
  obtain ⟨g, l, h, hp⟩ := exists_of_yields owningUnit_yields
  obtain ⟨d, hd, hp⟩ := List.any_eq_true.1 hp
  obtain ⟨ms, hms, hp⟩ := (Option.any_eq_true _ _).1 hp
  obtain ⟨m, hm, hp⟩ := List.any_eq_true.1 hp
  obtain ⟨howns, hname⟩ := Bool.and_eq_true_iff.1 hp
  obtain ⟨i, hi⟩ := Option.isSome_iff_exists.1 howns
  obtain ⟨href, before, after, hds, he⟩ :=
    owned_definition_listed_first coherent h d hd ms hms m hm i hi
  exact ⟨coherent, g, l, d, ms, m, i, before, after, h, hms, hm, by simpa using hname, hi, href,
    hds, he⟩

end owning

end DeclAtlas
