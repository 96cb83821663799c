import DeclAtlas.Proofs.Visit

/-! What every visit keeps. A definition that fails takes back exactly what was listed since it
began, so no visit disturbs what was listed before it; a visit without a fault poisons nothing
and takes nothing back. -/

namespace DeclAtlas

namespace Listing

variable {u : SourceUnit} {l l' l₁ l₂ l₃ : Listing} {c : CursorId} {g g' : Global}

/-- A stretch that keeps a sound listing sound, moves it and succeeds. -/
structure Proceeds (u : SourceUnit) (l l' : Listing) : Prop where
  sound : l'.Sound u
  moves : Moves l l'
  succeeds : Succeeds l l'

theorem Proceeds.trans (h : Proceeds u l l₁) (h' : Proceeds u l₁ l₂) : Proceeds u l l₂ :=
  ⟨h'.sound, h.moves.trans h'.moves, h.succeeds.trans h'.succeeds⟩

theorem Proceeds.continue {o : Option Fault} (h : Proceeds u l l₁)
    (h' : l₂.Sound u ∧ Moves l₁ l₂ ∧ (o = none → Succeeds l₁ l₂)) :
    l₂.Sound u ∧ Moves l l₂ ∧ (o = none → Succeeds l l₂) :=
  ⟨h'.1, h.moves.trans h'.2.1, fun ho => h.succeeds.trans (h'.2.2 ho)⟩

theorem proceeds_congr (hs : l.Sound u) (hr : l'.registry = l.registry) (ho : l'.order = l.order)
    (ha : l'.added = l.added) (hd : l'.diagnostics = l.diagnostics)
    (hf : l'.defining = l.defining) (hi : ∀ {id}, id ∈ l.incomplete → id ∈ l'.incomplete) :
    Proceeds u l l' where
  sound := hs.congr hr ho ha
  moves := .congr hr ho ha hi fun h => hf ▸ h
  succeeds := ⟨hr ▸ .refl _, hr ▸ rfl, hd, ⟨[], by simp [ho, ha]⟩, fun h => by rwa [ho, hf]⟩

theorem proceeds_add (hs : l.Sound u) (hg : l.registry.globals.get? g.id = some g')
    (ho : g.outline = g'.outline) (hb : g.isBuiltin = false)
    (ht : g'.form.isComposite = false → g = g') : Proceeds u l (l.add g) :=
  ⟨hs.add hg ho hb, moves_add hg ho ht, succeeds_add hg ho⟩

theorem proceeds_lookup (hs : l.Sound u) (h : lookup u c l = (.ok g, l₁)) : Proceeds u l l₁ := by
  obtain ⟨r, notes, rfl, hr, grows, hp, hkeep, -⟩ := lookup_ok hs h
  refine ⟨⟨hr, hs.nodup, ?_, hs.added⟩, ⟨grows, fun hg _ => hkeep hg, fun h => h, fun h => h,
    [], [], by simp [order]⟩, ⟨grows, hp, rfl, ⟨[], by simp [order]⟩, fun h => h⟩⟩
  intro id hid
  obtain ⟨g', hg', hb⟩ := hs.listed hid
  exact ⟨g', hkeep hg', hb⟩

theorem lookup_order (hs : l.Sound u) (h : lookup u c l = (.ok g, l₁)) : l₁.order = l.order := by
  obtain ⟨r, notes, rfl, -⟩ := lookup_ok hs h
  rfl

theorem lookup_incomplete (hs : l.Sound u) (h : lookup u c l = (.ok g, l₁)) :
    l₁.incomplete = l.incomplete := by
  obtain ⟨r, notes, rfl, -⟩ := lookup_ok hs h
  rfl

theorem lookup_members (hs : l.Sound u) (h : lookup u c l = (.ok g, l₁)) :
    l₁.members = l.members := by
  obtain ⟨r, notes, rfl, -⟩ := lookup_ok hs h
  rfl

theorem known_of_lookup (hs : l.Sound u) (h : lookup u c l = (.ok g, l₁)) :
    l₁.registry.idOf? u c = some g.id ∧ l₁.registry.globals.get? g.id = some g := by
  obtain ⟨r, notes, rfl, hr, -, -, -, hg⟩ := lookup_ok hs h
  exact hr.globalOf?_eq_some.1 hg

theorem proceeds_enterIncomplete {d : CursorId} (hs : l.Sound u)
    (known : l.registry.globalOf? u d = some g) (tag : g.form.isTag = true) :
    Proceeds u l (l.enterIncomplete u d g) := by
  have hg := (hs.registry.globalOf?_eq_some.1 known).2
  have hb : g.isBuiltin = false := Form.isBuiltin_of_isTag tag
  have hi : ∀ {id}, id ∈ l.incomplete → id ∈ (l.markIncomplete g.id).incomplete := by
    intro id h; simp [markIncomplete, h]
  unfold enterIncomplete
  split
  · have h : Proceeds u l ((l.markIncomplete g.id).setMembers g.id [] true) :=
      proceeds_congr hs rfl rfl rfl rfl rfl hi
    exact h.trans (proceeds_add h.sound hg rfl hb fun _ => rfl)
  · have h : Proceeds u l ((l.markIncomplete g.id).setEnumItems g.id { kind := u.enumKind d }) :=
      proceeds_congr hs rfl rfl rfl rfl rfl hi
    exact h.trans (proceeds_add h.sound hg rfl hb fun _ => rfl)

/-- A visit that began with a definition under way, taken up to where that definition is no
longer under way. -/
theorem Moves.stopDefining {id : Int} (h : Moves (l.startDefining id) l') :
    Moves l (l'.stopDefining id) where
  registry := h.registry
  typed := h.typed
  incomplete := h.incomplete
  defining {i} hi := by
    obtain ⟨hi, hne⟩ := IdSet.mem_erase.1 hi
    rcases IdSet.mem_insert.1 (h.defining hi) with he | hd
    · exact absurd he hne
    · exact hd
  listings := h.listings

theorem Sound.startDefining (hs : l.Sound u) (id : Int) : (l.startDefining id).Sound u :=
  hs.congr rfl rfl rfl

theorem Sound.stopDefining (hs : l.Sound u) (id : Int) : (l.stopDefining id).Sound u :=
  hs.congr rfl rfl rfl

theorem proceeds_close {id : Int} (hs' : l'.Sound u) (hm : Moves (l.startDefining id) l')
    (hc : Succeeds (l.startDefining id) l') (hid : g.id = id)
    (hg : l'.registry.globals.get? g.id = some g') (ho : g.outline = g'.outline)
    (hb : g.isBuiltin = false) (ht : g'.form.isComposite = false → g = g') :
    Proceeds u l ((l'.stopDefining id).add g) := by
  have hadd : Proceeds u (l'.stopDefining id) ((l'.stopDefining id).add g) :=
    proceeds_add (hs'.stopDefining id) hg ho hb ht
  refine ⟨hadd.sound, hm.stopDefining.trans hadd.moves, ?_⟩
  refine ⟨hc.registry.trans hadd.succeeds.registry, hadd.succeeds.poisoned.trans hc.poisoned,
    hadd.succeeds.diagnostics.trans hc.diagnostics, ?_, ?_⟩
  · obtain ⟨new, ha, ho⟩ := hc.listings
    obtain ⟨new', ha', ho'⟩ := hadd.succeeds.listings
    exact ⟨new ++ new', by rw [ha', ← List.append_assoc]; exact congrArg (· ++ new') ha,
      by rw [ho', ← List.append_assoc]; exact congrArg (· ++ new') ho⟩
  · intro i hi
    rw [mem_add_order, add_defining]
    have hi' : i ∈ l.order ∨ i ∈ (l.startDefining id).defining :=
      hi.imp_right fun h => by simp [startDefining, h]
    rcases hc.underway hi' with h | h
    · exact .inl (.inl h)
    · by_cases he : i = id
      · exact .inl (.inr (he.trans hid.symm))
      · exact .inr (IdSet.mem_erase.2 ⟨h, he⟩)

theorem proceeds_enterEnum {loc : Location} (hs : l.Sound u) (h : lookup u c l = (.ok g, l₁))
    (form : g.form = .enum loc) : Proceeds u l (l₁.enterEnum u c g) := by
  have hl := proceeds_lookup hs h
  have hg := (known_of_lookup hs h).2
  have hb : g.isBuiltin = false := by simp [Global.isBuiltin, form, Form.isBuiltin]
  have hin : Proceeds u (l₁.startDefining g.id)
      ((l₁.startDefining g.id).setEnumItems g.id ⟨u.enumItems c, u.enumKind c⟩) :=
    proceeds_congr (hl.sound.startDefining g.id) rfl rfl rfl rfl rfl fun h => h
  exact hl.trans (proceeds_close hin.sound hin.moves hin.succeeds rfl hg rfl hb fun _ => rfl)

theorem proceeds_enterRecord (ms : List Member) (hs : l.Sound u)
    (h : lookup u c l = (.ok g, l₁)) (form : g.form.isComposite = true)
    (hin : Proceeds u (l₁.startDefining g.id) l₂) : Proceeds u l (l₂.enterRecord u c g ms) := by
  have hl := proceeds_lookup hs h
  have hb : g.isBuiltin = false := by
    unfold Global.isBuiltin
    cases hf : g.form <;> simp_all [Form.isComposite, Form.isBuiltin]
  obtain ⟨g', hg', ho'⟩ := hin.moves.registry.globals (known_of_lookup hs h).2
  have hset : Proceeds u l₂ (l₂.setMembers g.id ms (Member.irregular ms)) :=
    proceeds_congr hin.sound rfl rfl rfl rfl rfl fun h => h
  have hin' := hin.trans hset
  refine hl.trans (proceeds_close hin'.sound hin'.moves hin'.succeeds rfl hg' ?_ ?_ ?_)
  · rw [Global.outline_withLayout]; exact ho'.symm
  · exact (Global.isBuiltin_of_outline (Global.outline_withLayout _ _)).trans hb
  · intro hf
    have : g'.form.isComposite = true := by
      have := (Global.outline_eq.1 ho').2
      cases h₁ : g.form <;> cases h₂ : g'.form <;> simp_all [Form.isComposite, Form.outline]
    rw [hf] at this; cases this

theorem grows_enterRecord (ms : List Member) (hs : l.Sound u) (h : lookup u c l = (.ok g, l₁))
    (hin : Proceeds u (l₁.startDefining g.id) l₂) :
    l₂.registry.Grows (l₂.enterRecord u c g ms).registry := by
  obtain ⟨g', hg', ho⟩ := hin.moves.registry.globals (known_of_lookup hs h).2
  rw [enterRecord, add_registry]
  exact Registry.grows_update hg' ((Global.outline_withLayout ..).trans ho.symm)

theorem Withdrawn.sound {ids : List Int} (hs : l.Sound u) (h : Withdrawn ids l l') :
    l'.Sound u where
  registry := hs.registry.congr h.globals h.table h.builtins
  nodup := h.order ▸ hs.nodup.filter _
  listed hid := h.globals ▸ hs.listed (List.mem_filter.1 (h.order ▸ hid)).1
  added hid := h.added ▸ hs.added (List.mem_filter.1 (h.order ▸ hid)).1

theorem withdrawSince_ok (mark : Nat) (owner : Global) (hs : l.Sound u) :
    ∃ l', withdrawSince mark owner l = (.ok (), l') ∧ Withdrawn (l.added.drop mark) l l' := by
  obtain ⟨l', hrun, hw⟩ := withdraw_ok owner (l.added.drop mark) hs
  have hmark : l.addedSince mark = l.added.drop mark := by
    have : ¬(mark : Int) < 0 := by omega
    simp [addedSince, this]
  refine ⟨l', ?_, hw⟩
  simp only [withdrawSince, Step.bind_run, Step.read, hmark, hrun]

theorem abandon_local {mark : Nat} {e : Fault} (he : e.isLocal = true)
    (h : withdrawSince mark g (l.poison g.id) = (.ok (), l')) :
    abandon mark g e l = (.error e, l') := by
  simp only [abandon, he, if_true, Step.bind_run, Step.modify, h, Step.fail]

theorem abandon_fails (mark : Nat) (g : Global) (e : Fault) (hs : l.Sound u) :
    ∃ l', abandon mark g e l = (.error e, l') := by
  cases he : e.isLocal with
  | false => exact ⟨l, by rw [abandon, he]; rfl⟩
  | true =>
    obtain ⟨l', hrun, -⟩ := withdrawSince_ok mark g (hs.poison g.id)
    exact ⟨l', abandon_local he hrun⟩

/-- Giving up a definition for a fault of its own poisons it and withdraws what was listed since
it began; for any other fault it leaves everything as it is. -/
theorem abandon_error {mark : Nat} {e e' : Fault} (hs : l.Sound u)
    (h : abandon mark g e l = (.error e', l')) :
    e' = e ∧ (e.isLocal = true → Withdrawn (l.added.drop mark) (l.poison g.id) l') ∧
      (e.isLocal = false → l' = l) := by
  cases he : e.isLocal with
  | false =>
    rw [abandon, he] at h
    cases h
    simp
  | true =>
    obtain ⟨l₁, hrun, hw⟩ := withdrawSince_ok mark g (hs.poison g.id)
    rw [abandon_local he hrun] at h
    cases h
    exact ⟨rfl, fun _ => hw, fun h => by cases h⟩

/-- Giving up a definition touches nothing but the list and the poison. -/
structure Reverts (l l' : Listing) : Prop where
  globals : l'.registry.globals = l.registry.globals
  table : l'.registry.ids = l.registry.ids
  builtins : l'.registry.builtins = l.registry.builtins
  recast : l'.registry.recast = l.registry.recast
  poisoned : ∀ {id}, id ∈ l.registry.poisoned → id ∈ l'.registry.poisoned
  order : ∀ {id}, id ∈ l'.order → id ∈ l.order
  added : l'.added = l.added
  tables : l'.tables = l.tables
  incomplete : l'.incomplete = l.incomplete
  defining : l'.defining = l.defining

theorem Reverts.members (h : Reverts l l') : l'.members = l.members := congrArg Prod.fst h.tables

theorem Reverts.grows (h : Reverts l l') : l.registry.Grows l'.registry :=
  ⟨h.builtins, fun hc => h.table ▸ hc, fun hg => ⟨_, h.globals ▸ hg, rfl⟩, h.poisoned⟩

theorem reverts_abandon {mark : Nat} {e e' : Fault} (hs : l.Sound u)
    (h : abandon mark g e l = (.error e', l')) : Reverts l l' := by
  obtain ⟨-, hlocal, hother⟩ := abandon_error hs h
  cases he : e.isLocal with
  | false => rw [hother he]; exact ⟨rfl, rfl, rfl, rfl, fun h => h, fun h => h, rfl, rfl, rfl, rfl⟩
  | true =>
    have hw := hlocal he
    refine ⟨hw.globals, hw.table, hw.builtins, hw.recast, fun hp => ?_, fun hid => ?_, hw.added,
      hw.tables, hw.incomplete, hw.defining⟩
    · exact hw.poisoned.2 (.inl ((Registry.grows_poison _ _).poisoned hp))
    · exact (List.mem_filter.1 (hw.order ▸ hid)).1

theorem abandon_order {e e' : Fault} (hs : l₂.Sound u) (hm : Moves (l₁.startDefining g.id) l₂)
    (h : abandon l₁.added.length g e l₂ = (.error e', l₃)) (he : e.isLocal = true) :
    l₃.order = l₁.order := by
  have hw := (abandon_error hs h).2.1 he
  obtain ⟨new, kept, ha, ho, hk, hn⟩ := hm.listings
  have hdrop : l₂.added.drop l₁.added.length = new := by rw [ha]; exact List.drop_left
  rw [hw.order, hdrop]
  change l₂.order.filter _ = _
  rw [ho, List.filter_append]
  have hkept : kept.filter (fun id => decide (id ∉ new)) = [] :=
    List.filter_eq_nil_iff.2 fun id hid => by simpa using hk id hid
  have hold : (l₁.startDefining g.id).order.filter (fun id => decide (id ∉ new)) =
      (l₁.startDefining g.id).order :=
    List.filter_eq_self.2 fun id hid => by simpa using fun h => hn id h hid
  rw [hkept, hold, List.append_nil]
  rfl

theorem sound_abandon {mark : Nat} {e e' : Fault} (hs : l₂.Sound u)
    (h : abandon mark g e l₂ = (.error e', l₃)) : (l₃.stopDefining g.id).Sound u := by
  obtain ⟨-, hlocal, hother⟩ := abandon_error hs h
  cases he : e.isLocal with
  | false => rw [hother he]; exact hs.stopDefining _
  | true => exact ((hlocal he).sound (hs.poison _)).stopDefining _

theorem moves_abandon {e e' : Fault} (hs : l₂.Sound u) (hm : Moves (l₁.startDefining g.id) l₂)
    (h : abandon l₁.added.length g e l₂ = (.error e', l₃)) :
    Moves l₁ (l₃.stopDefining g.id) := by
  have hr := reverts_abandon hs h
  cases he : e.isLocal with
  | false => rw [(abandon_error hs h).2.2 he]; exact hm.stopDefining
  | true =>
    -- what was listed inside is withdrawn again, so nothing new is kept
    obtain ⟨new, -, ha, -, -, hn⟩ := hm.listings
    refine ⟨hm.registry.trans hr.grows, fun hg hf => hr.globals ▸ hm.typed hg hf,
      fun hi => hr.incomplete ▸ hm.incomplete hi, fun hd => ?_, new, [], hr.added.trans ha, ?_,
      by simp, hn⟩
    · rw [stopDefining, hr.defining] at hd
      exact hm.stopDefining.defining hd
    · exact (abandon_order hs hm h he).trans (List.append_nil _).symm

end Listing

open Listing in
/-- What every visit keeps, and what one without a fault does besides. -/
theorem Visit.frame {u : SourceUnit} {S : CursorId → Prop} {l l' : Listing} {o : Option Fault}
    (h : Visit u S l o l') (hs : l.Sound u) :
    l'.Sound u ∧ Moves l l' ∧ (o = none → Succeeds l l') := by
  induction h with
  | done => exact ⟨hs, .refl _, fun _ => .refl _⟩
  | halt e => exact ⟨hs, .refl _, fun h => by cases h⟩
  | @noted _ l _ _ n _ ih =>
    have h : Proceeds u l (l.note n) := proceeds_congr hs rfl rfl rfl rfl rfl fun h => h
    exact h.continue (ih h.sound)
  | looked look _ ih =>
    have h := proceeds_lookup hs look
    exact h.continue (ih h.sound)
  | undeclarable id fatal =>
    refine ⟨hs.congr rfl rfl rfl, .congr rfl rfl rfl ?_ fun h => h, fun h => by cases h⟩
    intro i hi
    simp [markIncomplete, hi]
  | incomplete place undefined known tag unlisted _ ih =>
    have h := proceeds_enterIncomplete hs known tag
    exact h.continue (ih h.sound)
  | enumerated place look form _ ih =>
    have h := proceeds_enterEnum hs look form
    exact h.continue (ih h.sound)
  | @recorded _ _ _ _ _ _ _ _ ms place look form inside gathered _ ihin ih =>
    obtain ⟨hs₂, hm, hc⟩ := ihin ((proceeds_lookup hs look).sound.startDefining _)
    have h := proceeds_enterRecord ms hs look form ⟨hs₂, hm, hc rfl⟩
    exact h.continue (ih h.sound)
  | failed place look tag inside given ihin =>
    have hl := proceeds_lookup hs look
    obtain ⟨hs₂, hm, -⟩ := ihin (hl.sound.startDefining _)
    exact ⟨sound_abandon hs₂ given, hl.moves.trans (moves_abandon hs₂ hm given),
      fun h => by cases h⟩

theorem Visit.proceeds {u : SourceUnit} {S : CursorId → Prop} {l l' : Listing}
    (h : Visit u S l none l') (hs : l.Sound u) : l.Proceeds u l' := by
  obtain ⟨hs', hm, hc⟩ := h.frame hs
  exact ⟨hs', hm, hc rfl⟩

theorem Visit.lists_tags {u : SourceUnit} {S : CursorId → Prop} {l l' : Listing}
    {o : Option Fault} (h : Visit u S l o l') (hs : l.Sound u) {id : Int} (hid : id ∈ l'.order) :
    id ∈ l.order ∨ l'.registry.HoldsTag id := by
  induction h with
  | done | halt => exact .inl hid
  | noted n rest ih => exact ih (hs.congr rfl rfl rfl) hid
  | looked look rest ih =>
    rw [← Listing.lookup_order hs look]
    exact ih (Listing.proceeds_lookup hs look).sound hid
  | undeclarable => exact .inl hid
  | incomplete place undefined known tag unlisted rest ih =>
    have h := Listing.proceeds_enterIncomplete hs known tag
    refine (ih h.sound hid).elim (fun hid => ?_) .inr
    rcases Listing.mem_enterIncomplete_order.1 hid with hid | rfl
    · exact .inl hid
    · refine .inr ((rest.frame h.sound).2.1.registry.holdsTag ?_)
      rw [Listing.enterIncomplete_registry]
      exact Registry.holdsTag_update _ tag
  | enumerated place look form rest ih =>
    have h := Listing.proceeds_enterEnum hs look form
    refine (ih h.sound hid).elim (fun hid => ?_) .inr
    rcases Listing.mem_enterEnum_order.1 hid with hid | rfl
    · exact .inl (Listing.lookup_order hs look ▸ hid)
    · refine .inr ((rest.frame h.sound).2.1.registry.holdsTag ?_)
      rw [Listing.enterEnum, Listing.add_registry]
      exact Registry.holdsTag_update _ (by rw [form]; rfl)
  | @recorded _ _ _ _ _ _ _ g ms place look form inside gathered rest ihin ih =>
    have hs₁ := (Listing.proceeds_lookup hs look).sound.startDefining g.id
    have hin := inside.proceeds hs₁
    have h := Listing.proceeds_enterRecord ms hs look form hin
    have grows := (rest.frame h.sound).2.1.registry
    refine (ih h.sound hid).elim (fun hid => ?_) .inr
    rcases Listing.mem_enterRecord_order.1 hid with hid | rfl
    · rcases ihin hs₁ hid with hid | ht
      · exact .inl (Listing.lookup_order hs look ▸ hid)
      · exact .inr (grows.holdsTag ((Listing.grows_enterRecord ms hs look hin).holdsTag ht))
    · refine .inr (grows.holdsTag ?_)
      rw [Listing.enterRecord, Listing.add_registry]
      refine Registry.holdsTag_update _ ?_
      rw [Global.isTag_of_outline (Global.outline_withLayout ..)]
      exact Form.isTag_of_isComposite form
  | @failed _ _ _ _ _ _ g _ _ place look tag inside given ihin =>
    have hs₁ := (Listing.proceeds_lookup hs look).sound.startDefining g.id
    have hr := Listing.reverts_abandon (inside.frame hs₁).1 given
    rcases ihin hs₁ (hr.order hid) with hid | ⟨g', hg', ht⟩
    · exact .inl (Listing.lookup_order hs look ▸ hid)
    · exact .inr ⟨g', hr.globals ▸ hg', ht⟩

end DeclAtlas
