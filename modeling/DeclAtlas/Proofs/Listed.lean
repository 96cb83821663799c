import DeclAtlas.Proofs.Registered

/-! The list over a run. `Moves` says what every stretch of an extraction keeps, whether it
ends in a fault or not: registrations stay, and what is listed stays listed, in its place.
`Succeeds` says more of a stretch that ends without a fault: it skips nothing and takes
nothing back. -/

namespace DeclAtlas

namespace Listing

/-- The registry is sound, and the list holds registered declarations of the unit itself, each
once and each remembered among the listings. -/
structure Sound (u : SourceUnit) (l : Listing) : Prop where
  registry : l.registry.Sound u
  nodup : l.order.Nodup
  listed : ∀ {id}, id ∈ l.order → ∃ g, l.registry.globals.get? id = some g ∧ g.isBuiltin = false
  added : ∀ {id}, id ∈ l.order → id ∈ l.added

theorem sound_ofBuiltins (u : SourceUnit) (b : Builtins) : (ofBuiltins b).Sound u where
  registry := Registry.sound_empty u b
  nodup := .nil
  listed h := by cases h
  added h := by cases h

/-- What a stretch of an extraction keeps. -/
structure Moves (l l' : Listing) : Prop where
  registry : l.registry.Grows l'.registry
  typed : ∀ {id g}, l.registry.globals.get? id = some g → g.form.isComposite = false →
    l'.registry.globals.get? id = some g
  incomplete : ∀ {id}, id ∈ l.incomplete → id ∈ l'.incomplete
  defining : ∀ {id}, id ∈ l'.defining → id ∈ l.defining
  listings : ∃ new kept, l'.added = l.added ++ new ∧ l'.order = l.order ++ kept ∧
    (∀ id ∈ kept, id ∈ new) ∧ ∀ id ∈ new, id ∉ l.order

/-- What a stretch without a fault does besides. -/
structure Succeeds (l l' : Listing) : Prop where
  registry : l.registry.Grows l'.registry
  poisoned : l'.registry.poisoned = l.registry.poisoned
  diagnostics : l'.diagnostics = l.diagnostics
  listings : ∃ new, l'.added = l.added ++ new ∧ l'.order = l.order ++ new
  underway : ∀ {id}, id ∈ l.order ∨ id ∈ l.defining → id ∈ l'.order ∨ id ∈ l'.defining

theorem Moves.refl (l : Listing) : Moves l l where
  registry := .refl _
  typed h _ := h
  incomplete h := h
  defining h := h
  listings := ⟨[], [], by simp⟩

theorem Moves.trans {a b c : Listing} (h : Moves a b) (h' : Moves b c) : Moves a c where
  registry := h.registry.trans h'.registry
  typed hg hf := h'.typed (h.typed hg hf) hf
  incomplete hi := h'.incomplete (h.incomplete hi)
  defining hd := h.defining (h'.defining hd)
  listings := by
    obtain ⟨new, kept, ha, ho, hk, hn⟩ := h.listings
    obtain ⟨new', kept', ha', ho', hk', hn'⟩ := h'.listings
    refine ⟨new ++ new', kept ++ kept', by rw [ha', ha, List.append_assoc],
      by rw [ho', ho, List.append_assoc], ?_, ?_⟩
    · intro id hid
      rcases List.mem_append.1 hid with h | h
      · exact List.mem_append_left _ (hk id h)
      · exact List.mem_append_right _ (hk' id h)
    · intro id hid hl
      rcases List.mem_append.1 hid with h | h
      · exact hn id h hl
      · exact hn' id h (by rw [ho]; exact List.mem_append_left _ hl)

theorem Moves.order_prefix {l l' : Listing} (h : Moves l l') : l.order <+: l'.order := by
  obtain ⟨_, kept, _, ho, _⟩ := h.listings
  exact ⟨kept, ho.symm⟩

theorem Moves.mem_order {l l' : Listing} (h : Moves l l') {id : Int} (hid : id ∈ l.order) :
    id ∈ l'.order :=
  h.order_prefix.subset hid

theorem Succeeds.refl (l : Listing) : Succeeds l l where
  registry := .refl _
  poisoned := rfl
  diagnostics := rfl
  listings := ⟨[], by simp⟩
  underway h := h

theorem Succeeds.trans {a b c : Listing} (h : Succeeds a b) (h' : Succeeds b c) : Succeeds a c where
  registry := h.registry.trans h'.registry
  poisoned := h'.poisoned.trans h.poisoned
  diagnostics := h'.diagnostics.trans h.diagnostics
  listings := by
    obtain ⟨new, ha, ho⟩ := h.listings
    obtain ⟨new', ha', ho'⟩ := h'.listings
    exact ⟨new ++ new', by rw [ha', ha, List.append_assoc], by rw [ho', ho, List.append_assoc]⟩
  underway hu := h'.underway (h.underway hu)

theorem Succeeds.mem_order {l l' : Listing} (h : Succeeds l l') {id : Int} (hid : id ∈ l.order) :
    id ∈ l'.order := by
  obtain ⟨new, _, ho⟩ := h.listings
  rw [ho]; exact List.mem_append_left _ hid

section lookup

variable {u : SourceUnit} {c : CursorId} {l l' : Listing}

theorem lookup_error {e : Fault} (h : lookup u c l = (.error e, l')) : l' = l := by
  unfold lookup at h
  split at h
  · unfold globalAt at h
    split at h <;> cases h
    rfl
  · split at h <;> cases h
    rfl

theorem isLocal_of_lookup_error {e : Fault} (h : lookup u c l = (.error e, l')) :
    e.isLocal = false := by
  unfold lookup at h
  split at h
  · unfold globalAt at h
    split at h <;> cases h
    rfl
  · split at h <;> cases h
    rename_i hn
    unfold Registry.newGlobal at hn
    split at hn
    · cases hn
    · unfold SourceUnit.formOf at hn
      split at hn <;> cases hn
      rfl

theorem lookup_ok {g : Global} (hs : l.Sound u) (h : lookup u c l = (.ok g, l')) :
    ∃ r notes, l' = { l with registry := r, notes := notes } ∧ r.Sound u ∧
      l.registry.Grows r ∧ r.poisoned = l.registry.poisoned ∧
      (∀ {id g'}, l.registry.globals.get? id = some g' → r.globals.get? id = some g') ∧
      r.globalOf? u c = some g := by
  unfold lookup at h
  split at h
  · rename_i id hid
    unfold globalAt at h
    split at h
    · rename_i g' hg'
      cases h
      refine ⟨l.registry, l.notes, rfl, hs.registry, .refl _, rfl, fun h => h, ?_⟩
      simp only [Registry.globalOf?, hid, Option.bind_some, hg']
    · cases h
  · rename_i hid
    split at h
    · cases h
    · rename_i g' notes hn
      cases h
      have hreg := hs.registry.register hn
      refine ⟨_, _, rfl, hreg, hs.registry.grows_register hid hn, rfl, ?_, ?_⟩
      · intro id g' hg'
        have hne : id ≠ g.id := by
          rintro rfl
          rw [Registry.newGlobal_id hn, hs.registry.get?_size] at hg'; cases hg'
        simpa [Registry.register, hne] using hg'
      · simp [Registry.globalOf?, Registry.idOf?, Registry.register]

end lookup

theorem Sound.congr {u : SourceUnit} {l l' : Listing} (h : l.Sound u)
    (hr : l'.registry = l.registry) (ho : l'.order = l.order) (ha : l'.added = l.added) :
    l'.Sound u :=
  ⟨hr ▸ h.registry, ho ▸ h.nodup, by rw [hr, ho]; exact h.listed, by rw [ho, ha]; exact h.added⟩

theorem Moves.congr {l l' : Listing} (hr : l'.registry = l.registry) (ho : l'.order = l.order)
    (ha : l'.added = l.added) (hi : ∀ {id}, id ∈ l.incomplete → id ∈ l'.incomplete)
    (hd : ∀ {id}, id ∈ l'.defining → id ∈ l.defining) : Moves l l' :=
  ⟨hr ▸ .refl _, fun hg _ => hr ▸ hg, hi, hd, [], [], by simp [ho, ha]⟩

section add

variable {u : SourceUnit} {l : Listing} {g g' : Global}

@[simp] theorem add_registry (g : Global) (l : Listing) :
    (l.add g).registry = l.registry.update g := by
  unfold add list; split <;> rfl

theorem add_listings (g : Global) (l : Listing) :
    (g.id ∈ l.order ∧ (l.add g).order = l.order ∧ (l.add g).added = l.added) ∨
      (g.id ∉ l.order ∧ (l.add g).order = l.order ++ [g.id] ∧
        (l.add g).added = l.added ++ [g.id]) := by
  unfold add list
  split
  · rename_i h
    exact .inl ⟨(l.roll.agree _).1 h, rfl, rfl⟩
  · rename_i h
    exact .inr ⟨fun ho => h ((l.roll.agree _).2 ho), rfl, rfl⟩

@[simp] theorem add_incomplete (g : Global) (l : Listing) :
    (l.add g).incomplete = l.incomplete := by
  unfold add list; split <;> rfl

@[simp] theorem add_defining (g : Global) (l : Listing) : (l.add g).defining = l.defining := by
  unfold add list; split <;> rfl

@[simp] theorem add_diagnostics (g : Global) (l : Listing) :
    (l.add g).diagnostics = l.diagnostics := by
  unfold add list; split <;> rfl

@[simp] theorem add_members (g : Global) (l : Listing) : (l.add g).members = l.members := by
  unfold add list; split <;> rfl

theorem mem_add_order (g : Global) (l : Listing) {id : Int} :
    id ∈ (l.add g).order ↔ id ∈ l.order ∨ id = g.id := by
  rcases add_listings g l with ⟨h, ho, _⟩ | ⟨_, ho, _⟩
  · rw [ho]
    refine ⟨.inl, ?_⟩
    rintro (hid | rfl)
    · exact hid
    · exact h
  · simp [ho]

theorem Sound.add (h : l.Sound u) (hg : l.registry.globals.get? g.id = some g')
    (ho : g.outline = g'.outline) (hb : g.isBuiltin = false) : (l.add g).Sound u := by
  have hreg := h.registry.update hg ho
  have grows : l.registry.Grows (l.registry.update g) := Registry.grows_update hg ho
  refine ⟨by simpa using hreg, ?_, ?_, ?_⟩
  · rcases add_listings g l with ⟨_, e, _⟩ | ⟨hn, e, _⟩
    · rw [e]; exact h.nodup
    · rw [e, List.nodup_append]
      refine ⟨h.nodup, by simp, ?_⟩
      intro a ha b hb' hab
      rw [List.mem_singleton.1 hb'] at hab
      exact hn (hab ▸ ha)
  · intro id hid
    rw [add_registry]
    rcases (mem_add_order g l).1 hid with hid | rfl
    · obtain ⟨g₁, h₁, hb₁⟩ := h.listed hid
      obtain ⟨g₂, h₂, ho₂⟩ := grows.globals h₁
      exact ⟨g₂, h₂, (Global.isBuiltin_of_outline ho₂).trans hb₁⟩
    · exact ⟨g, by simp [Registry.update], hb⟩
  · intro id hid
    rcases add_listings g l with ⟨_, e, ea⟩ | ⟨_, e, ea⟩
    · rw [e] at hid; rw [ea]; exact h.added hid
    · rw [e] at hid; rw [ea]
      rcases List.mem_append.1 hid with hid | hid
      · exact List.mem_append_left _ (h.added hid)
      · exact List.mem_append_right _ hid

theorem moves_add (hg : l.registry.globals.get? g.id = some g') (ho : g.outline = g'.outline)
    (ht : g'.form.isComposite = false → g = g') : Moves l (l.add g) where
  registry := by rw [add_registry]; exact Registry.grows_update hg ho
  typed {id g₁} h₁ hf := by
    rw [add_registry]
    simp only [Registry.update, Table.get?_insert]
    split
    · rename_i he
      subst he
      rw [hg] at h₁; cases h₁
      rw [ht hf]
    · exact h₁
  incomplete h := by simpa using h
  defining h := by simpa using h
  listings := by
    rcases add_listings g l with ⟨_, e, ea⟩ | ⟨hn, e, ea⟩
    · exact ⟨[], [], by simp [e, ea]⟩
    · exact ⟨[g.id], [g.id], ea, e, fun _ h => h, by simpa using hn⟩

theorem succeeds_add (hg : l.registry.globals.get? g.id = some g') (ho : g.outline = g'.outline) :
    Succeeds l (l.add g) where
  registry := by rw [add_registry]; exact Registry.grows_update hg ho
  poisoned := by rw [add_registry]; rfl
  diagnostics := by simp
  listings := by
    rcases add_listings g l with ⟨_, e, ea⟩ | ⟨_, e, ea⟩
    · exact ⟨[], by simp [e, ea]⟩
    · exact ⟨[g.id], ea, e⟩
  underway {id} h := by
    rw [mem_add_order, add_defining]
    exact h.imp_left .inl

end add

def tables (l : Listing) : IdTable (List Member) × IdTable EnumItems × IdSet :=
  (l.members, l.enumItems, l.irregular)

/-- What the withdrawal of some identities does: those that are listed leave the list, and all
of them but the incomplete ones are poisoned. -/
structure Withdrawn (ids : List Int) (l l' : Listing) : Prop where
  globals : l'.registry.globals = l.registry.globals
  table : l'.registry.ids = l.registry.ids
  builtins : l'.registry.builtins = l.registry.builtins
  recast : l'.registry.recast = l.registry.recast
  poisoned : ∀ {id}, id ∈ l'.registry.poisoned ↔
    id ∈ l.registry.poisoned ∨ id ∈ ids ∧ id ∈ l.order ∧ id ∉ l.incomplete
  order : l'.order = l.order.filter (fun id => decide (id ∉ ids))
  added : l'.added = l.added
  tables : l'.tables = l.tables
  incomplete : l'.incomplete = l.incomplete
  defining : l'.defining = l.defining

theorem Sound.remove {u : SourceUnit} {l : Listing} (h : l.Sound u) (id : Int) :
    (l.remove id).Sound u where
  registry := h.registry
  nodup := h.nodup.erase _
  listed hm := h.listed (List.mem_of_mem_erase hm)
  added hm := h.added (List.mem_of_mem_erase hm)

theorem Sound.poison {u : SourceUnit} {l : Listing} (h : l.Sound u) (id : Int) :
    (l.poison id).Sound u :=
  ⟨h.registry.poison id, h.nodup, h.listed, h.added⟩

theorem Sound.skip {u : SourceUnit} {l : Listing} (h : l.Sound u) (g : Global) (m : String) :
    (l.skip g m).Sound u :=
  ((h.poison g.id).remove g.id).congr rfl rfl rfl

theorem remove_order {l : Listing} (h : l.order.Nodup) (id : Int) :
    (l.remove id).order = l.order.filter (fun i => decide (i ∉ [id])) := by
  change l.order.erase id = _
  rw [h.erase_eq_filter]
  apply List.filter_congr
  intro i _
  by_cases hi : i = id <;> simp [hi]

theorem Withdrawn.cons {id : Int} {rest : List Int} {l l₁ l' : Listing}
    (h : Withdrawn [id] l l₁) (h' : Withdrawn rest l₁ l') : Withdrawn (id :: rest) l l' where
  globals := h'.globals.trans h.globals
  table := h'.table.trans h.table
  builtins := h'.builtins.trans h.builtins
  recast := h'.recast.trans h.recast
  poisoned {i} := by
    rw [h'.poisoned, h.poisoned, h.order, h.incomplete]
    simp only [List.mem_cons, List.mem_filter, decide_eq_true_eq, List.not_mem_nil, or_false]
    grind
  order := by
    rw [h'.order, h.order, List.filter_filter]
    apply List.filter_congr
    intro i _
    by_cases hi : i = id <;> simp [hi]
  added := h'.added.trans h.added
  tables := h'.tables.trans h.tables
  incomplete := h'.incomplete.trans h.incomplete
  defining := h'.defining.trans h.defining

theorem withdrawn_unlisted {l : Listing} {id : Int} (h : id ∉ l.order) : Withdrawn [id] l l where
  globals := rfl
  table := rfl
  builtins := rfl
  recast := rfl
  poisoned := by simp only [List.mem_singleton]; grind
  order := by
    refine (List.filter_eq_self.2 fun i hi => ?_).symm
    have : i ≠ id := fun e => h (e ▸ hi)
    simpa using this
  added := rfl
  tables := rfl
  incomplete := rfl
  defining := rfl

theorem withdrawn_remove {l : Listing} {id : Int} (hn : l.order.Nodup) (hi : id ∈ l.incomplete) :
    Withdrawn [id] l (l.remove id) where
  globals := rfl
  table := rfl
  builtins := rfl
  recast := rfl
  poisoned := by simp only [remove, List.mem_singleton]; grind
  order := remove_order hn id
  added := rfl
  tables := rfl
  incomplete := rfl
  defining := rfl

theorem withdrawn_skip {l : Listing} {g : Global} (m : String) (hn : l.order.Nodup)
    (hl : g.id ∈ l.order) (hi : g.id ∉ l.incomplete) : Withdrawn [g.id] l (l.skip g m) where
  globals := rfl
  table := rfl
  builtins := rfl
  recast := rfl
  poisoned := by
    simp only [skip, diagnose, note, remove, poison, Registry.poison, IdSet.mem_insert,
      List.mem_singleton]
    grind
  order := remove_order hn g.id
  added := rfl
  tables := rfl
  incomplete := rfl
  defining := rfl

/-- Withdrawing takes away one listed identity after another and never fails. -/
theorem withdraw_ok {u : SourceUnit} (owner : Global) (ids : List Int) {l : Listing}
    (h : l.Sound u) : ∃ l', withdraw owner ids l = (.ok (), l') ∧ Withdrawn ids l l' := by
  induction ids generalizing l with
  | nil =>
    exact ⟨l, rfl, rfl, rfl, rfl, rfl, by simp, (List.filter_eq_self.2 (by simp)).symm, rfl, rfl, rfl,
      rfl⟩
  | cons id rest ih =>
    by_cases hl : id ∈ l.order
    · obtain ⟨g, hg, -⟩ := h.listed hl
      obtain rfl : g.id = id := h.registry.own hg
      by_cases hi : g.id ∈ l.incomplete
      · obtain ⟨l', hrun, hw⟩ := ih (h.remove g.id)
        refine ⟨l', ?_, (withdrawn_remove h.nodup hi).cons hw⟩
        simpa [withdraw, Step.bind_run, Step.read, Step.modify, isListed_eq, globalAt, hl, hg, hi]
          using hrun
      · obtain ⟨l', hrun, hw⟩ := ih (h.skip g s!"declared inside skipped {owner.name.display}")
        refine ⟨l', ?_, (withdrawn_skip _ h.nodup hl hi).cons hw⟩
        simpa [withdraw, Step.bind_run, Step.read, Step.modify, isListed_eq, globalAt, hl, hg, hi]
          using hrun
    · obtain ⟨l', hrun, hw⟩ := ih h
      refine ⟨l', ?_, (withdrawn_unlisted hl).cons hw⟩
      simpa [withdraw, Step.bind_run, Step.read, isListed_eq, hl] using hrun

end Listing

end DeclAtlas
