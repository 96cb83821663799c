import DeclAtlas.Proofs.Coherence

/-! What a failed definition takes with it. Everything listed since it began is withdrawn: the
definitions in its text, but also what the compiler provides and something in its text was the
first to ask for. Failures are isolated exactly when nothing of the second kind is withdrawn. -/

namespace DeclAtlas

namespace Listing

open SourceUnit

variable {u : SourceUnit} {S : CursorId → Prop} {l m l' : Listing} {id : Int}

/-- How an identity came to be listed between `l` and `l'`: as incomplete, as a definition in the
text of `S`, or in the text of a definition on demand, which was then listed as well. -/
def Accounted (u : SourceUnit) (S : CursorId → Prop) (l l' : Listing) (id : Int) : Prop :=
  id ∈ l'.incomplete ∨ ∃ k, u.definition? k = some k ∧ l'.registry.idOf? u k = some id ∧
    ((∃ s, S s ∧ u.Within s k) ∨
      ∃ r i, u.isImplicit r = true ∧ u.definition? r = some r ∧ l'.registry.idOf? u r = some i ∧
        i ∈ l'.order ∧ i ∉ l.order ∧ u.Within r k)

theorem Accounted.later (h : Accounted u S l m id) (hm : Moves m l') : Accounted u S l l' id := by
  rcases h with h | ⟨k, hk, hid, h⟩
  · exact .inl (hm.incomplete h)
  · refine .inr ⟨k, hk, hm.registry.idOf? hid, h.imp_right ?_⟩
    rintro ⟨r, i, hi, hr, hid, hl, hn, hw⟩
    exact ⟨r, i, hi, hr, hm.registry.idOf? hid, hm.mem_order hl, hn, hw⟩

theorem Accounted.earlier (h : Accounted u S m l' id) (ho : ∀ {i}, i ∈ l.order → i ∈ m.order) :
    Accounted u S l l' id := by
  rcases h with h | ⟨k, hk, hid, h⟩
  · exact .inl h
  · refine .inr ⟨k, hk, hid, h.imp_right ?_⟩
    rintro ⟨r, i, hi, hr, hid, hl, hn, hw⟩
    exact ⟨r, i, hi, hr, hid, hl, fun h => hn (ho h), hw⟩

theorem Defines.accounted {c k : CursorId} {i : Int} (place : l.Defines u S c) (hs : l.Sound u)
    (hu : u.Coherent) (hw : u.Within c k) (hk : u.definition? k = some k)
    (hid : l'.registry.idOf? u k = some id) (hgrows : l.registry.Grows l'.registry)
    (hi : l'.registry.idOf? u c = some i) (hl : i ∈ l'.order) : Accounted u S l l' id := by
  refine .inr ⟨k, hk, hid, ?_⟩
  rcases place with ⟨hS, -⟩ | hd
  · exact .inl ⟨c, hS, hw⟩
  · obtain ⟨hself, i', hi', hn⟩ := hd.unlisted hs hu
    obtain rfl := Option.some.inj ((hgrows.idOf? hi').symm.trans hi)
    exact .inr ⟨c, i', hd.1, hself, hi, hl, hn, hw⟩

end Listing

open Listing SourceUnit in
theorem Visit.accounted {u : SourceUnit} {S : CursorId → Prop} {l l' : Listing} {o : Option Fault}
    (h : Visit u S l o l') (hu : u.Coherent) (ho : ∀ e, o = some e → e.isLocal = true)
    (hs : l.Sound u) {id : Int} (hid : id ∈ l'.order) (hnew : id ∉ l.order) :
    Accounted u S l l' id := by
  induction h with
  | done | halt | undeclarable => exact absurd hid hnew
  | noted n rest ih => exact (ih ho (hs.congr rfl rfl rfl) hid hnew).earlier fun h => h
  | looked look rest ih =>
    have hp := proceeds_lookup hs look
    exact (ih ho hp.sound hid (by rwa [lookup_order hs look])).earlier hp.moves.mem_order
  | @incomplete _ l _ _ d g place undefined known tag unlisted rest ih =>
    have hp := proceeds_enterIncomplete hs known tag
    by_cases hm : id ∈ (l.enterIncomplete u d g).order
    · obtain rfl := (mem_enterIncomplete_order.1 hm).resolve_left hnew
      refine .inl ((rest.frame hp.sound).2.1.incomplete ?_)
      rw [enterIncomplete_incomplete]
      exact IdSet.mem_insert.2 (.inl rfl)
    · exact (ih ho hp.sound hid hm).earlier hp.moves.mem_order
  | @enumerated _ l l₁ _ _ c g _ place look form rest ih =>
    have hp := proceeds_enterEnum hs look form
    by_cases hm : id ∈ (l₁.enterEnum u c g).order
    · have hid' : (l₁.enterEnum u c g).registry.idOf? u c = some g.id := by
        rw [enterEnum, add_registry]
        exact (known_of_lookup hs look).1
      rw [← lookup_order hs look] at hnew
      obtain rfl := (mem_enterEnum_order.1 hm).resolve_left hnew
      exact (place.accounted hs hu (.inl rfl) (place.definition_self hs hu) hid' hp.moves.registry
        hid' hm).later (rest.frame hp.sound).2.1
    · exact (ih ho hp.sound hid hm).earlier hp.moves.mem_order
  | @recorded _ l l₁ l₂ _ _ c g ms place look form inside gathered rest ihin ih =>
    have hs₁ := (proceeds_lookup hs look).sound.startDefining g.id
    have hin := inside.proceeds hs₁
    have hp := proceeds_enterRecord ms hs look form hin
    have grows := grows_enterRecord ms hs look hin
    by_cases hm : id ∈ (l₂.enterRecord u c g ms).order
    · have hid' : (l₂.enterRecord u c g ms).registry.idOf? u c = some g.id :=
        grows.idOf? (hin.moves.registry.idOf? (known_of_lookup hs look).1)
      have visited {k : CursorId} {i : Int} (hw : u.Within c k) (hk : u.definition? k = some k)
          (hi : (l₂.enterRecord u c g ms).registry.idOf? u k = some i) :
          Accounted u _ l (l₂.enterRecord u c g ms) i :=
        place.accounted hs hu hw hk hi hp.moves.registry hid' (mem_enterRecord_order.2 (.inr rfl))
      refine Accounted.later ?_ (rest.frame hp.sound).2.1
      -- what was listed inside lies in the text of `c`, or was asked for on demand there
      rcases mem_enterRecord_order.1 hm with hm | rfl
      · rw [← lookup_order hs look] at hnew
        rcases ihin (fun _ h => by cases h) hs₁ hm hnew with h | ⟨k, hk, hidk, h | h⟩
        · exact .inl (by simpa [enterRecord, stopDefining, setMembers] using h)
        · obtain ⟨s, hs', hw⟩ := h
          exact visited (.inr ((Below.child hs'.1).within hw)) hk (grows.idOf? hidk)
        · obtain ⟨r, i, hi, hr, hidr, hl, hn, hw⟩ := h
          refine .inr ⟨k, hk, grows.idOf? hidk, .inr ⟨r, i, hi, hr, grows.idOf? hidr,
            mem_enterRecord_order.2 (.inl hl), ?_, hw⟩⟩
          rw [← lookup_order hs look]
          exact hn
      · exact visited (.inl rfl) (place.definition_self hs hu) hid'
    · exact (ih ho hp.sound hid hm).earlier hp.moves.mem_order
  | @failed _ _ l₁ _ _ _ g _ _ place look tag inside given ihin =>
    have hs₁ := (proceeds_lookup hs look).sound.startDefining g.id
    obtain ⟨hs₂, hm, -⟩ := inside.frame hs₁
    obtain rfl := (abandon_error hs₂ given).1
    -- a definition that is given up leaves the list as it found it
    have reverted := abandon_order hs₂ hm given (ho _ rfl)
    refine absurd ?_ hnew
    rw [← lookup_order hs look, ← reverted]
    exact hid

/-- The listings between which an extraction moves from one declaration to the next, at the top
level and inside definitions. -/
inductive Reaches (u : SourceUnit) (b : List BuiltinEntry) : Listing → Prop where
  | start : Reaches u b (.ofBuiltins (.ofEntries b))
  | noted {l} (n : Note) (h : Reaches u b l) : Reaches u b (l.note n)
  | looked {l l' c g} (h : Reaches u b l) (run : Listing.lookup u c l = (.ok g, l')) :
      Reaches u b l'
  | entered {l} (id : Int) (h : Reaches u b l) : Reaches u b (l.startDefining id)
  | incomplete {l l' d g} (h : Reaches u b l) (place : u.isFound d = true ∨ u.Named d)
      (undefined : u.definition? d = none) (run : declareIncomplete u d l = (.ok g, l')) :
      Reaches u b l'
  | converted {l l' n t c m} (h : Reaches u b l) (run : u.convertWithin n t c l = (.ok m, l')) :
      Reaches u b l'
  | defined {l l' n c g} (h : Reaches u b l)
      (place : l.Defines u (fun d => (u.kind d).isTag = true) c)
      (run : u.defineWithin n c l = (.ok g, l')) : Reaches u b l'
  | extracted {l l' c} (h : Reaches u b l) (run : visitOne u c l = (.ok (), l')) : Reaches u b l'

section reaches

open Listing SourceUnit

variable {u : SourceUnit} {b : List BuiltinEntry} {l : Listing}

theorem Reaches.sound (h : Reaches u b l) : l.Sound u := by
  induction h with
  | start => exact sound_ofBuiltins u _
  | noted n _ ih => exact ih.congr rfl rfl rfl
  | looked _ run ih => exact (proceeds_lookup ih run).sound
  | entered id _ ih => exact ih.startDefining id
  | incomplete _ place undefined run ih =>
    have runs := runs_declareIncomplete (S := fun d => u.isFound d = true ∨ u.Named d) _ ih
      (.inr place) undefined
    exact ((runs.ok run).1.frame ih).1
  | @converted l l' n t c m _ run ih =>
    have runs := (u.recursionWithin_faithful n).convert (S := fun _ => False) t c ih
    exact ((runs.ok run).1.frame ih).1
  | defined _ place run ih =>
    exact ((((u.recursionWithin_faithful _).define _ ih place).ok run).1.frame ih).1
  | extracted _ run ih => exact ((visitOne_extracted ih run).advances ih).sound

theorem Reaches.undefined (h : Reaches u b l) (hu : u.Coherent) : l.Undefined u := by
  induction h with
  | start => exact fun id hid => by cases hid
  | noted n _ ih => exact ih
  | looked h run ih =>
    exact ih.grows (lookup_incomplete h.sound run) (proceeds_lookup h.sound run).moves.registry
  | entered id _ ih => exact ih
  | incomplete h place undefined run ih =>
    have runs := runs_declareIncomplete (S := fun d => u.isFound d = true ∨ u.Named d) _ h.sound
      (.inr place) undefined
    exact (runs.ok run).1.undefined hu (fun _ h => h) (fun _ h => by cases h) h.sound ih
  | @converted l l' n t c m h run ih =>
    have runs := (u.recursionWithin_faithful n).convert (S := fun _ => False) t c h.sound
    exact (runs.ok run).1.undefined hu (fun _ h => h.elim) (fun _ h => by cases h) h.sound ih
  | @defined l l' n c g h place run ih =>
    have runs := (u.recursionWithin_faithful n).define c h.sound place
    exact (runs.ok run).1.undefined hu (fun _ h => .inl (isFound_of_isTag h))
      (fun _ h => by cases h) h.sound ih
  | extracted h run ih => exact (visitOne_extracted h.sound run).undefined hu h.sound ih

end reaches

/-- The listings before and after the withdrawal that the definition of `c` makes when it fails for
a reason of its own. -/
def SourceUnit.withdrawal? (u : SourceUnit) (r : Recursion) (c : CursorId) (l : Listing) :
    Option (Listing × Listing) :=
  match Listing.lookup u c l with
  | (.error _, _) => none
  | (.ok g, l₁) =>
    match visitDefinition u r c g (l₁.startDefining g.id) with
    | (.ok _, _) => none
    | (.error _, l₂) =>
      let before := l₂.poison g.id
      match Listing.withdrawSince l₁.added.length g before with
      | (.error _, _) => none
      | (.ok (), after) => some (before, after)

/-- What a withdrawal skips. Incomplete declarations only leave the list. -/
def Listing.Condemns (before after : Listing) (id : Int) : Prop :=
  id ∈ before.order ∧ id ∉ after.order ∧ id ∉ before.incomplete

instance (before after : Listing) (id : Int) : Decidable (Listing.Condemns before after id) :=
  inferInstanceAs (Decidable (_ ∧ _ ∧ _))

theorem Listing.Withdrawn.condemns_iff {before after : Listing} {ids : List Int} {id : Int}
    (h : Withdrawn ids before after) :
    Condemns before after id ↔ id ∈ ids ∧ id ∈ before.order ∧ id ∉ before.incomplete := by
  simp only [Condemns, h.order, List.mem_filter, decide_eq_true_eq]
  grind

section withdrawal

open Listing SourceUnit

variable {u : SourceUnit} {b : List BuiltinEntry} {n : Nat} {D : CursorId} {l l' : Listing}
  {e : Fault}

/-- A definition that fails for a reason of its own withdraws what its visit listed and nothing
else. -/
theorem exists_withdrawal {r : Recursion} (hr : r.Faithful u n) (hs : l.Sound u)
    (h : defineTag u r D l = (.error e, l')) (he : e.isLocal = true) :
    ∃ g l₁ l₂ after, Listing.lookup u D l = (.ok g, l₁) ∧
      Visit u (u.Nests D) (l₁.startDefining g.id) (some e) l₂ ∧
      u.withdrawal? r D l = some (l₂.poison g.id, after) ∧
      Withdrawn (l₂.added.drop l₁.added.length) (l₂.poison g.id) after ∧
      l'.registry = after.registry := by
  obtain ⟨g, l₁, l₂, l₃, look, visit, given, rfl⟩ := defineTag_local_error hr hs h he
  have hs₁ := (proceeds_lookup hs look).sound.startDefining g.id
  have inside := visitDefinition_error hr hs₁ visit
  obtain ⟨after, hrun, hw⟩ := withdrawSince_ok l₁.added.length g ((inside.frame hs₁).1.poison g.id)
  rw [abandon_local he hrun] at given
  cases given
  exact ⟨g, l₁, l₂, l₃, look, inside, by simp only [withdrawal?, look, visit, hrun], hw, rfl⟩

theorem condemns_iff_of_visit {g : Global} {l₁ l₂ after : Listing} {id : Int} (hs : l₁.Sound u)
    (inside : Visit u (u.Nests D) (l₁.startDefining g.id) (some e) l₂)
    (hw : Withdrawn (l₂.added.drop l₁.added.length) (l₂.poison g.id) after) :
    Condemns (l₂.poison g.id) after id ↔
      id ∈ l₂.order ∧ id ∉ l₁.order ∧ id ∉ l₂.incomplete := by
  obtain ⟨new, kept, added, order, remembered, fresh⟩ :=
    (inside.frame (hs.startDefining g.id)).2.1.listings
  have since : l₂.added.drop l₁.added.length = new := by
    rw [added]
    exact List.drop_left
  rw [since] at hw
  rw [hw.condemns_iff]
  constructor
  · rintro ⟨hnew, listed, complete⟩
    exact ⟨listed, fresh id hnew, complete⟩
  · rintro ⟨listed, unlisted, complete⟩
    refine ⟨?_, listed, complete⟩
    rw [order] at listed
    exact remembered id ((List.mem_append.1 listed).resolve_left unlisted)

theorem holdsTag_of_condemned {g : Global} {l₁ l₂ after : Listing} {id : Int} (hs : l₁.Sound u)
    (inside : Visit u (u.Nests D) (l₁.startDefining g.id) (some e) l₂)
    (hw : Withdrawn (l₂.added.drop l₁.added.length) (l₂.poison g.id) after)
    (h : Condemns (l₂.poison g.id) after id) : after.registry.HoldsTag id := by
  obtain ⟨listed, unlisted, -⟩ := (condemns_iff_of_visit hs inside hw).1 h
  rw [Registry.HoldsTag, hw.globals]
  exact (inside.lists_tags (hs.startDefining g.id) listed).resolve_left unlisted

/-- Whatever a failed definition condemns is a definition in its text, or in the text of one that
the compiler provides and that is condemned with it. -/
theorem condemned_within {g : Global} {l₁ l₂ after : Listing} {id : Int} (hu : u.Coherent)
    (hs : l₁.Sound u) (hl : l₁.Undefined u) (he : e.isLocal = true)
    (inside : Visit u (u.Nests D) (l₁.startDefining g.id) (some e) l₂)
    (hw : Withdrawn (l₂.added.drop l₁.added.length) (l₂.poison g.id) after)
    (h : Condemns (l₂.poison g.id) after id) :
    ∃ k, u.definition? k = some k ∧ after.registry.idOf? u k = some id ∧
      (u.Below D k ∨ ∃ r i, u.isImplicit r = true ∧ u.definition? r = some r ∧
        after.registry.idOf? u r = some i ∧ Condemns (l₂.poison g.id) after i ∧ u.Within r k) := by
  have hs₁ := hs.startDefining g.id
  have own : ∀ e', some e = some e' → e'.isLocal = true := fun _ h => by cases h; exact he
  have hl₂ : l₂.Undefined u :=
    inside.undefined hu (fun _ h => .inl (isFound_of_isTag h.2)) own hs₁ hl
  have known {k : CursorId} {i : Int} (h : l₂.registry.idOf? u k = some i) :
      after.registry.idOf? u k = some i := by
    rw [Registry.idOf?, hw.table]
    exact h
  obtain ⟨listed, unlisted, complete⟩ := (condemns_iff_of_visit hs inside hw).1 h
  rcases inside.accounted hu own hs₁ listed unlisted with h | ⟨k, hk, hidk, h | h⟩
  · exact absurd h complete
  · obtain ⟨s, nested, within⟩ := h
    exact ⟨k, hk, known hidk, .inl ((Below.child nested.1).within within)⟩
  · obtain ⟨r, i, hi, hr, hidr, listed, unlisted, within⟩ := h
    have complete := hl₂.not_mem (inside.frame hs₁).1 hu hr hidr
    have condemned := (condemns_iff_of_visit hs inside hw).2 ⟨listed, unlisted, complete⟩
    exact ⟨k, hk, known hidk, .inr ⟨r, i, hi, hr, known hidr, condemned, within⟩⟩

end withdrawal

open Listing SourceUnit in
/-- A definition that fails withdraws no more than definitions in its own text exactly when every
definition that the compiler provides and that is withdrawn with it lies in its text. -/
theorem failure_isolated_iff {u : SourceUnit} {b : List BuiltinEntry} {n : Nat} {D : CursorId}
    {l l' : Listing} {e : Fault} (hu : u.Coherent) (hl : Reaches u b l)
    (h : u.defineWithin (n + 1) D l = (.error e, l')) (he : e.isLocal = true) :
    ∃ before after, u.withdrawal? (u.recursionWithin n) D l = some (before, after) ∧
      l'.registry = after.registry ∧
      (∀ id, id ∈ after.registry.poisoned ↔ id ∈ before.registry.poisoned ∨
        Condemns before after id) ∧
      ((∀ id, Condemns before after id → ∃ k, u.Below D k ∧ u.definition? k = some k ∧
          after.registry.idOf? u k = some id) ↔
        ∀ r id, u.isImplicit r = true → u.definition? r = some r →
          after.registry.idOf? u r = some id → Condemns before after id → u.Below D r) := by
  have hs := hl.sound
  obtain ⟨g, l₁, l₂, after, look, inside, hrun, hw, hreg⟩ :=
    exists_withdrawal (u.recursionWithin_faithful n) hs h he
  have hp := proceeds_lookup hs look
  have hs₂ := (inside.frame (hp.sound.startDefining g.id)).1
  have hafter := hw.sound (hs₂.poison g.id)
  refine ⟨_, after, hrun, hreg, fun id => ?_, fun hiso r id _ hr hidr hc => ?_,
    fun himp id hc => ?_⟩
  · rw [hw.poisoned, hw.condemns_iff]
  · -- two definitions under one identity are the same cursor
    obtain ⟨k, hbelow, hk, hidk⟩ := hiso id hc
    have tag := hafter.isTag_of_holdsTag hu (isFound_of_definition hr) hidr
      (holdsTag_of_condemned hp.sound inside hw hc)
    have same := (hafter.definition_eq hu (isFound_of_definition hk) tag hidk hidr).2
    rw [hk, hr] at same
    cases same
    exact hbelow
  · have hl₁ : l₁.Undefined u :=
      (hl.undefined hu).grows (lookup_incomplete hs look) hp.moves.registry
    obtain ⟨k, hk, hidk, hbelow | ⟨r, i, hi, hr, hidr, hci, hwithin⟩⟩ :=
      condemned_within hu hp.sound hl₁ he inside hw hc
    · exact ⟨k, hbelow, hk, hidk⟩
    · exact ⟨k, (himp r i hi hr hidr hci).within hwithin, hk, hidk⟩

/-- Here `struct D` has a field of type `__builtin_va_list`, which is the first to ask for the
record behind it, and then one of a type that cannot be represented. The variable `v` asks for the
record again. -/
def variadicUnit : SourceUnit where
  spelling := "test.c"
  cursors := #[
    { kind := .other "TRANSLATION_UNIT", spelling := "test.c", children := [.node 1, .node 4] },
    { kind := .structDecl, spelling := "D", file := some "test.c", line := 1, column := 8,
      definition := some (.node 1), type := .node 0, children := [.node 2, .node 3],
      usr := "c:@S@D" },
    { kind := .fieldDecl, spelling := "ap", file := some "test.c", line := 1, column := 30,
      type := .node 1, offset := 0 },
    { kind := .fieldDecl, spelling := "x", file := some "test.c", line := 1, column := 43,
      type := .node 3, offset := 64 },
    { kind := .varDecl, spelling := "v", file := some "test.c", line := 2, column := 31,
      type := .node 1, linkage := .external },
    { kind := .structDecl, spelling := "__va_list_tag", definition := some (.node 5),
      type := .node 2, children := [.node 6], usr := "c:@S@__va_list_tag" },
    { kind := .fieldDecl, spelling := "gp_offset", type := .node 4, offset := 0 }]
  types := #[
    { kind := .record, spelling := "struct D", decl := .node 1, size := 32, align := 16 },
    { kind := .pointer, spelling := "struct __va_list_tag *", pointee := .node 2 },
    { kind := .record, spelling := "struct __va_list_tag", decl := .node 5, size := 4, align := 4 },
    { kind := .int128, spelling := "__int128" },
    { kind := .uint, spelling := "unsigned int" }]

section variadic

open Listing SourceUnit

theorem variadicUnit_withdraws : ∃ e l' before after id,
    variadicUnit.defineWithin 5185 (.node 1) (.ofBuiltins (.ofEntries [])) = (.error e, l') ∧
    e.isLocal = true ∧
    variadicUnit.withdrawal? (variadicUnit.recursionWithin 5184) (.node 1)
      (.ofBuiltins (.ofEntries [])) = some (before, after) ∧
    after.registry.idOf? variadicUnit (.node 5) = some id ∧ Condemns before after id := by
  have fails : ((variadicUnit.defineWithin 5185 (.node 1) (.ofBuiltins (.ofEntries []))).1.casesOn
      Fault.isLocal fun _ => false) = true := by decide +kernel
  have condemns : (variadicUnit.withdrawal? (variadicUnit.recursionWithin 5184) (.node 1)
      (.ofBuiltins (.ofEntries []))).any (fun p =>
        (p.2.registry.idOf? variadicUnit (.node 5)).any fun id =>
          decide (Condemns p.1 p.2 id)) = true := by decide +kernel
  obtain ⟨⟨before, after⟩, hw, hc⟩ := (Option.any_eq_true _ _).1 condemns
  obtain ⟨id, hid, hc⟩ := (Option.any_eq_true _ _).1 hc
  rcases h : variadicUnit.defineWithin 5185 (.node 1) (.ofBuiltins (.ofEntries [])) with
    ⟨e | g, l'⟩ <;> rw [h] at fails
  · exact ⟨e, l', before, after, id, rfl, fails, hw, hid, of_decide_eq_true hc⟩
  · cases fails

theorem definition?_of_below_variadic {k : CursorId} (h : variadicUnit.Below (.node 1) k) :
    variadicUnit.definition? k = none := by
  have leaf : ∀ j ∈ variadicUnit.children (.node 1),
      variadicUnit.definition? j = none ∧ variadicUnit.children j = [] := by decide +kernel
  cases h with
  | child h => exact (leaf k h).1
  | @inside _ j _ h rest => cases rest <;> rw [(leaf j h).2] at * <;> contradiction

/-- The failure of `struct D` is not isolated: what the compiler provides is withdrawn with it. -/
theorem provided_record_withdrawn : ∃ e l' before after id,
    variadicUnit.defineWithin 5185 (.node 1) (.ofBuiltins (.ofEntries [])) = (.error e, l') ∧
    e.isLocal = true ∧
    variadicUnit.withdrawal? (variadicUnit.recursionWithin 5184) (.node 1)
      (.ofBuiltins (.ofEntries [])) = some (before, after) ∧
    Condemns before after id ∧ ¬∃ k, variadicUnit.Below (.node 1) k ∧
      variadicUnit.definition? k = some k ∧ after.registry.idOf? variadicUnit k = some id := by
  obtain ⟨e, l', before, after, id, h, he, hw, -, hc⟩ := variadicUnit_withdraws
  refine ⟨e, l', before, after, id, h, he, hw, hc, ?_⟩
  rintro ⟨k, hbelow, hk, -⟩
  rw [definition?_of_below_variadic hbelow] at hk
  cases hk

/-- Nothing but a record that the compiler provides outside its text can be to blame. -/
theorem failure_isolated_iff_variadic : ∃ e l' before after,
    variadicUnit.defineWithin 5185 (.node 1) (.ofBuiltins (.ofEntries [])) = (.error e, l') ∧
    e.isLocal = true ∧
    variadicUnit.withdrawal? (variadicUnit.recursionWithin 5184) (.node 1)
      (.ofBuiltins (.ofEntries [])) = some (before, after) ∧
    ¬∀ r id, variadicUnit.isImplicit r = true → variadicUnit.definition? r = some r →
      after.registry.idOf? variadicUnit r = some id → Condemns before after id →
      variadicUnit.Below (.node 1) r := by
  obtain ⟨e, l', before, after, id, h, he, hw, -, hc⟩ := variadicUnit_withdraws
  obtain ⟨before', after', hw', -, -, iso⟩ := failure_isolated_iff (by decide +kernel) .start h he
  rw [hw] at hw'
  cases hw'
  refine ⟨e, l', before, after, h, he, hw, fun provided => ?_⟩
  obtain ⟨k, hbelow, hk, -⟩ := iso.2 provided id hc
  rw [definition?_of_below_variadic hbelow] at hk
  cases hk

end variadic

end DeclAtlas
