import DeclAtlas.Proofs.Declared

/-! The steps of the walk. A declaration is extracted, or skipped for a fault of its own; what was
listed before stays listed or is poisoned, and a declaration that has to answer for itself ends up
bound elsewhere, listed or poisoned. -/

namespace DeclAtlas

namespace Listing

variable {u : SourceUnit} {c : CursorId} {l l' l'' : Listing} {g g₁ : Global} {t : CType}

def withRecast (recast : IdTable CType) (l : Listing) : Listing :=
  { l with registry := { l.registry with recast := recast } }

theorem addTyped_eq (own : g.isBuiltin = false) (t : CType) (l : Listing) :
    ∃ recast g', l.addTyped g t = (l.withRecast recast).add g' ∧ g'.outline = g.outline := by
  obtain ⟨name, form⟩ := g
  unfold addTyped
  cases form with
  | composite | enum => exact ⟨_, _, rfl, rfl⟩
  | typedef | var | function => exact ⟨l.registry.recast, _, rfl, rfl⟩
  | builtin => cases own

theorem Sound.withRecast (hs : l.Sound u) (recast : IdTable CType) :
    (l.withRecast recast).Sound u :=
  ⟨hs.registry.congr rfl rfl rfl, hs.nodup, hs.listed, hs.added⟩

theorem sound_addTyped (t : CType) (hs : l.Sound u) (known : l.registry.globalOf? u c = some g₁)
    (ho : g.outline = g₁.outline) (own : g.isBuiltin = false) : (l.addTyped g t).Sound u := by
  obtain ⟨recast, g', he, ho'⟩ := addTyped_eq own t l
  rw [he]
  refine (hs.withRecast recast).add ?_ (ho'.trans ho) ?_
  · rw [Global.id_of_outline (ho'.trans ho)]
    exact (hs.registry.globalOf?_eq_some.1 known).2
  · rw [Global.isBuiltin_of_outline ho', own]

theorem succeeds_addTyped (t : CType) (hs : l.Sound u)
    (known : l.registry.globalOf? u c = some g₁) (ho : g.outline = g₁.outline)
    (own : g.isBuiltin = false) : Succeeds l (l.addTyped g t) := by
  obtain ⟨recast, g', he, ho'⟩ := addTyped_eq own t l
  rw [he]
  have hg' : (l.withRecast recast).registry.globals.get? g'.id = some g₁ := by
    rw [Global.id_of_outline (ho'.trans ho)]
    exact (hs.registry.globalOf?_eq_some.1 known).2
  have h := succeeds_add hg' (ho'.trans ho)
  exact ⟨⟨h.registry.builtins, h.registry.ids, h.registry.globals, h.registry.poisoned⟩,
    h.poisoned, h.diagnostics, h.listings, h.underway⟩

@[simp] theorem addTyped_incomplete (own : g.isBuiltin = false) :
    (l.addTyped g t).incomplete = l.incomplete := by
  obtain ⟨recast, g', he, -⟩ := addTyped_eq own t l
  rw [he, add_incomplete]; rfl

@[simp] theorem addTyped_defining (own : g.isBuiltin = false) :
    (l.addTyped g t).defining = l.defining := by
  obtain ⟨recast, g', he, -⟩ := addTyped_eq own t l
  rw [he, add_defining]; rfl

@[simp] theorem addTyped_members (own : g.isBuiltin = false) :
    (l.addTyped g t).members = l.members := by
  obtain ⟨recast, g', he, -⟩ := addTyped_eq own t l
  rw [he, add_members]; rfl

theorem mem_addTyped_order (own : g.isBuiltin = false) {id : Int} :
    id ∈ (l.addTyped g t).order ↔ id ∈ l.order ∨ id = g.id := by
  obtain ⟨recast, g', he, ho⟩ := addTyped_eq own t l
  rw [he, mem_add_order, Global.id_of_outline ho]; rfl

/-- What each step of the walk keeps. -/
structure Advances (u : SourceUnit) (l l' : Listing) : Prop where
  sound : l'.Sound u
  registry : l.registry.Grows l'.registry
  kept : ∀ {id}, id ∈ l.order → id ∈ l'.order ∨ id ∈ l'.registry.poisoned
  defining : ∀ {id}, id ∈ l'.defining → id ∈ l.defining

theorem Advances.trans (h : Advances u l l') (h' : Advances u l' l'') : Advances u l l'' where
  sound := h'.sound
  registry := h.registry.trans h'.registry
  kept hid := by
    rcases h.kept hid with h | h
    · exact h'.kept h
    · exact .inr (h'.registry.poisoned h)
  defining hd := h.defining (h'.defining hd)

/-- A declaration that is bound elsewhere, skipped or listed. -/
def Answered (u : SourceUnit) (l : Listing) (c : CursorId) : Prop :=
  ∃ g, l.registry.globalOf? u c = some g ∧
    (g.isBuiltin = true ∨ g.id ∈ l.registry.poisoned ∨ g.id ∈ l.order)

theorem Answered.kept (h : l.Answered u c) (grows : l.registry.Grows l'.registry)
    (kept : ∀ {id}, id ∈ l.order → id ∈ l'.order ∨ id ∈ l'.registry.poisoned) :
    l'.Answered u c := by
  obtain ⟨g, hg, h⟩ := h
  obtain ⟨g', hg', ho⟩ := grows.globalOf? hg
  refine ⟨g', hg', ?_⟩
  rw [Global.isBuiltin_of_outline ho, Global.id_of_outline ho]
  rcases h with h | h | h
  · exact .inl h
  · exact .inr (.inl (grows.poisoned h))
  · exact .inr (kept h).symm

theorem Fulfilled.answered (h : l.Fulfilled u c) : l.Answered u c := by
  obtain ⟨g, hg, h⟩ := h
  exact ⟨g, hg, h.imp_right .inr⟩

/-- The listing after a declaration was skipped: it is reported, and if it is registered, it is
poisoned and leaves the list. -/
def skipped (u : SourceUnit) (c : CursorId) (e : Fault) (l : Listing) : Listing :=
  let l := match l.registry.idOf? u c with
    | some id => (l.poison id).remove id
    | none => l
  l.diagnose ⟨"warning", u.spellingOf c, some (u.locationOf c), e.message⟩

theorem skipped_eq {id : Int} (h : l.registry.idOf? u c = some id) (e : Fault) :
    l.skipped u c e = ((l.poison id).remove id).diagnose
      ⟨"warning", u.spellingOf c, some (u.locationOf c), e.message⟩ := by
  simp [skipped, h]

theorem skipCursor_run {id : Int} (hs : l.Sound u) (known : l.registry.idOf? u c = some id)
    (e : Fault) : skipCursor u c e l = (.ok (), l.skipped u c e) := by
  obtain ⟨g, hg, -⟩ := hs.registry.exists_global known
  obtain rfl := hs.registry.own hg
  rw [skipped_eq known]
  simp [skipCursor, Step.bind_run, Step.read, Registry.contains, known, lookup, globalAt, hg,
    Step.modify]

theorem skipped_kept {id i : Int} {e : Fault} (h : l.registry.idOf? u c = some id)
    (hi : i ∈ l.order) :
    i ∈ (l.skipped u c e).order ∨ i ∈ (l.skipped u c e).registry.poisoned := by
  rw [skipped_eq h]
  by_cases he : i = id
  · exact .inr (IdSet.mem_insert.2 (.inl he))
  · exact .inl ((List.mem_erase_of_ne he).2 hi)

end Listing

/-- One step of the walk. -/
inductive Extracted (u : SourceUnit) (c : CursorId) (l : Listing) : Listing → Prop where
  | declared {l'} (run : visitDeclaration u u.recursion c l = (.ok (), l'))
      (declared : Declared u c l l') : Extracted u c l l'
  | skipped {l₁ e id} (run : visitDeclaration u u.recursion c l = (.error e, l₁))
      (own : e.isLocal = true) (visit : Visit u (u.Near c) l (some e) l₁)
      (known : l₁.registry.idOf? u c = some id) : Extracted u c l (l₁.skipped u c e)

theorem visitOne_extracted {u : SourceUnit} {c : CursorId} {l l' : Listing} (hs : l.Sound u)
    (h : visitOne u c l = (.ok (), l')) : Extracted u c l l' := by
  have hd := declares_visitDeclaration u.recursion_faithful hs c
  unfold Declares at hd
  unfold visitOne Step.handling at h
  rcases hrun : visitDeclaration u u.recursion c l with ⟨e | ⟨⟩, l₁⟩ <;> rw [hrun] at h hd
  · unfold skipOnFault at h
    by_cases he : e.isLocal = true
    · obtain ⟨id, hid⟩ := hd.2 he
      simp only [he, if_true, Listing.skipCursor_run (hd.1.frame hs).1 hid] at h
      cases h
      exact .skipped hrun he hd.1 hid
    · simp only [he] at h
      cases h
  · cases h
    exact .declared hrun hd

section steps

open Listing

variable {u : SourceUnit} {c : CursorId} {l l' : Listing}

theorem Listing.Proceeds.advances (h : l.Proceeds u l') : l.Advances u l' :=
  ⟨h.sound, h.moves.registry, fun hid => .inl (h.moves.mem_order hid), h.moves.defining⟩

theorem Declared.advances (h : Declared u c l l') (hs : l.Sound u) : l.Advances u l' := by
  cases h with
  | visited visit _ => exact (visit.proceeds hs).advances
  | @typed l₁ g g₁ t visit _ _ known outline own _ =>
    have hp := visit.proceeds hs
    have hadd := succeeds_addTyped t hp.sound known outline own
    refine hp.advances.trans ⟨sound_addTyped t hp.sound known outline own, hadd.registry,
      fun hid => .inl (hadd.mem_order hid), ?_⟩
    rw [addTyped_defining own]
    exact fun h => h

theorem Extracted.advances (h : Extracted u c l l') (hs : l.Sound u) : l.Advances u l' := by
  cases h with
  | declared _ declared => exact declared.advances hs
  | @skipped l₁ e id _ _ visit known =>
    obtain ⟨hs₁, hm, -⟩ := visit.frame hs
    refine ⟨?_, ?_, fun hi => skipped_kept known (hm.mem_order hi), ?_⟩ <;>
      rw [skipped_eq known]
    · exact ((hs₁.poison id).remove id).congr rfl rfl rfl
    · exact hm.registry.trans (Registry.grows_poison _ id)
    · exact hm.defining

theorem Extracted.answered (h : Extracted u c l l') (hs : l.Sound u) (hb : u.IsBinding c) :
    l'.Answered u c := by
  cases h with
  | declared _ declared =>
    cases declared with
    | visited _ answered => exact (answered hb).answered
    | @typed l₁ g g₁ t visit _ _ known outline own _ =>
      have hp := visit.proceeds hs
      have hadd := succeeds_addTyped t hp.sound known outline own
      obtain ⟨g', hg', ho⟩ := hadd.registry.globalOf? known
      refine ⟨g', hg', .inr (.inr ((mem_addTyped_order own).2 (.inr ?_)))⟩
      exact Global.id_of_outline (ho.trans outline.symm)
  | @skipped l₁ e id _ _ visit known =>
    have hs₁ := (visit.frame hs).1
    obtain ⟨g, hg, rfl⟩ := hs₁.registry.exists_global known
    rw [skipped_eq known]
    refine ⟨g, hs₁.registry.globalOf?_eq_some.2 ⟨known, hg⟩, .inr (.inl ?_)⟩
    simp [diagnose, note, remove, poison, Registry.poison]

theorem Walked.advances {cs : List CursorId} (h : Walked u cs l l') (hs : l.Sound u) :
    l.Advances u l' := by
  have start : l.Advances u l := ⟨hs, .refl _, .inl, fun h => h⟩
  exact h.induct (fun _ ha hstep => ha.trans ((visitOne_extracted ha.sound hstep).advances ha.sound))
    start

theorem Walked.keeps {P : Listing → Prop} {cs : List CursorId} (h : Walked u cs l l')
    (hs : l.Sound u) (hstep : ∀ {c l l'}, l.Sound u → P l → Extracted u c l l' → P l') (hl : P l) :
    P l' := by
  refine (h.induct (P := fun l => l.Sound u ∧ P l) (fun _ hl step => ?_) ⟨hs, hl⟩).2
  have extracted := visitOne_extracted hl.1 step
  exact ⟨(extracted.advances hl.1).sound, hstep hl.1 hl.2 extracted⟩

theorem Walked.answered {cs : List CursorId} (h : Walked u cs l l') (hs : l.Sound u)
    (hc : c ∈ cs) (hb : u.IsBinding c) : l'.Answered u c := by
  obtain ⟨pre, post, rfl⟩ := List.append_of_mem hc
  obtain ⟨l₁, h₁, h₂⟩ := h.split
  obtain - | ⟨step, rest⟩ := h₂
  have hs₁ := (h₁.advances hs).sound
  have hx := visitOne_extracted hs₁ step
  have ha := rest.advances (hx.advances hs₁).sound
  exact (hx.answered hs₁ hb).kept ha.registry ha.kept

end steps

end DeclAtlas
