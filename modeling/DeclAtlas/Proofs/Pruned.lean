import DeclAtlas.Extraction.Pruning
import DeclAtlas.Proofs.Listed

/-! Pruning. It only takes listed declarations away, each of which is poisoned and reported, and
when it is done no listed declaration refers to a poisoned one. -/

namespace DeclAtlas

namespace Listing

variable {u : SourceUnit} {l l₁ l' l'' : Listing}

/-- What pruning does to a listing, as far as it has gone. -/
structure Pruned (l l' : Listing) : Prop where
  globals : l'.registry.globals = l.registry.globals
  table : l'.registry.ids = l.registry.ids
  builtins : l'.registry.builtins = l.registry.builtins
  recast : l'.registry.recast = l.registry.recast
  tables : l'.tables = l.tables
  added : l'.added = l.added
  incomplete : l'.incomplete = l.incomplete
  order : l'.order.Sublist l.order
  poisoned : ∀ {id}, id ∈ l'.registry.poisoned ↔
    id ∈ l.registry.poisoned ∨ id ∈ l.order ∧ id ∉ l'.order
  reported : ∀ {name}, name ∈ l'.diagnostics.map (·.name) ↔ name ∈ l.diagnostics.map (·.name) ∨
    ∃ id g, (id ∈ l.order ∧ id ∉ l'.order) ∧ l.registry.globals.get? id = some g ∧
      g.name.display = name
  blamed : ∀ {id g}, id ∈ l.order → id ∉ l'.order → l.registry.globals.get? id = some g →
    ∃ i ∈ l.typeRefs g ++ l.memberRefs g, i ∈ l'.registry.poisoned

theorem Pruned.refl (l : Listing) : Pruned l l :=
  ⟨rfl, rfl, rfl, rfl, rfl, rfl, rfl, .refl _, by simp, by simp, fun h h' => absurd h h'⟩

theorem Pruned.members (h : Pruned l l') : l'.members = l.members := congrArg Prod.fst h.tables

theorem Pruned.refs (h : Pruned l l') (g : Global) :
    l'.typeRefs g ++ l'.memberRefs g = l.typeRefs g ++ l.memberRefs g := by
  rw [typeRefs, typeRefs, memberRefs, memberRefs, h.recast, h.members]

theorem Pruned.trans (h : Pruned l l') (h' : Pruned l' l'') : Pruned l l'' where
  globals := h'.globals.trans h.globals
  table := h'.table.trans h.table
  builtins := h'.builtins.trans h.builtins
  recast := h'.recast.trans h.recast
  tables := h'.tables.trans h.tables
  added := h'.added.trans h.added
  incomplete := h'.incomplete.trans h.incomplete
  order := h'.order.trans h.order
  poisoned {id} := by
    have sub : id ∈ l'.order → id ∈ l.order := fun hm => h.order.subset hm
    have sub' : id ∈ l''.order → id ∈ l'.order := fun hm => h'.order.subset hm
    rw [h'.poisoned, h.poisoned]
    grind
  reported {name} := by
    have sub {id} (hm : id ∈ l'.order) : id ∈ l.order := h.order.subset hm
    have sub' {id} (hm : id ∈ l''.order) : id ∈ l'.order := h'.order.subset hm
    rw [h'.reported, h.reported, h.globals]
    constructor
    · rintro ((hn | ⟨id, g, ⟨hl, hl'⟩, hg⟩) | ⟨id, g, ⟨hl, hl'⟩, hg⟩)
      · exact .inl hn
      · exact .inr ⟨id, g, ⟨hl, fun hm => hl' (sub' hm)⟩, hg⟩
      · exact .inr ⟨id, g, ⟨sub hl, hl'⟩, hg⟩
    · rintro (hn | ⟨id, g, ⟨hl, hl'⟩, hg⟩)
      · exact .inl (.inl hn)
      · by_cases hm : id ∈ l'.order
        · exact .inr ⟨id, g, ⟨hm, hl'⟩, hg⟩
        · exact .inl (.inr ⟨id, g, ⟨hl, hm⟩, hg⟩)
  blamed {id g} hl hl'' hg := by
    by_cases hm : id ∈ l'.order
    · obtain ⟨i, hi, hp⟩ := h'.blamed hm hl'' (h.globals ▸ hg)
      exact ⟨i, h.refs g ▸ hi, hp⟩
    · obtain ⟨i, hi, hp⟩ := h.blamed hl hm hg
      exact ⟨i, hi, h'.poisoned.2 (.inl hp)⟩

theorem Pruned.sound (h : Pruned l l') (hs : l.Sound u) : l'.Sound u where
  registry := hs.registry.congr h.globals h.table h.builtins
  nodup := hs.nodup.sublist h.order
  listed hid := h.globals ▸ hs.listed (h.order.subset hid)
  added hid := h.added ▸ hs.added (h.order.subset hid)

theorem pruned_skip {g : Global} {i : Int} (hn : l.order.Nodup) (hl : g.id ∈ l.order)
    (hg : l.registry.globals.get? g.id = some g) (hi : i ∈ l.typeRefs g ++ l.memberRefs g)
    (hp : i ∈ l.registry.poisoned) (m : String) : Pruned l (l.skip g m) := by
  have gone {id : Int} : id ∈ (l.skip g m).order ↔ id ≠ g.id ∧ id ∈ l.order := hn.mem_erase_iff
  refine ⟨rfl, rfl, rfl, rfl, rfl, rfl, rfl, List.erase_sublist, fun {id} => ?_, fun {name} => ?_,
    fun {id d} hid hnot hd => ⟨i, ?_, IdSet.mem_insert.2 (.inr hp)⟩⟩
  · rw [gone]
    simp only [skip, diagnose, note, remove, poison, Registry.poison, IdSet.mem_insert]
    grind
  · have names : (l.skip g m).diagnostics.map (·.name) =
        l.diagnostics.map (·.name) ++ [g.name.display] := by
      simp [skip, diagnose, note, remove, poison]
    rw [names, List.mem_append, List.mem_singleton]
    refine or_congr_right ⟨?_, ?_⟩
    · rintro rfl
      exact ⟨g.id, g, ⟨hl, fun h => (gone.1 h).1 rfl⟩, hg, rfl⟩
    · rintro ⟨id, d, ⟨hid, hnot⟩, hd, rfl⟩
      obtain rfl : id = g.id := Decidable.byContradiction fun hne => hnot (gone.2 ⟨hne, hid⟩)
      rw [hg] at hd
      cases hd
      rfl
  · obtain rfl : id = g.id := Decidable.byContradiction fun hne => hnot (gone.2 ⟨hne, hid⟩)
    rw [hg] at hd
    cases hd
    exact hi

theorem mem_of_brokenRef? {g : Global} {i : Int} (h : l.brokenRef? g = some i) :
    i ∈ l.typeRefs g ++ l.memberRefs g ∧ i ∈ l.registry.poisoned := by
  obtain ⟨hi, hp⟩ := List.mem_filter.1 (List.min?_mem h)
  exact ⟨hi, of_decide_eq_true hp⟩

theorem brokenRef?_eq_none_iff {g : Global} :
    l.brokenRef? g = none ↔ ∀ i ∈ l.typeRefs g ++ l.memberRefs g, i ∉ l.registry.poisoned := by
  rw [brokenRef?, List.min?_eq_none_iff, List.filter_eq_nil_iff]
  simp [Registry.isPoisoned]

theorem pruneOne_ok {id : Int} {changed : Bool} (hs : l.Sound u) (hl : id ∈ l.order)
    (h : pruneOne id l = (.ok changed, l')) :
    (changed = false ∧ l' = l ∧
      ∀ {g}, l.registry.globals.get? id = some g → l.brokenRef? g = none) ∨
    (changed = true ∧ Pruned l l' ∧ l'.order = l.order.erase id) := by
  obtain ⟨g, hg, -⟩ := hs.listed hl
  obtain rfl := hs.registry.own hg
  simp only [pruneOne, Step.bind_run, globalAt, hg, Step.read] at h
  cases hb : l.brokenRef? g with
  | none =>
    simp only [hb] at h
    cases h
    refine .inl ⟨rfl, rfl, fun hg' => ?_⟩
    rw [hg] at hg'; cases hg'
    exact hb
  | some ref =>
    simp only [hb, Step.bind_run, globalAt] at h
    cases hr : l.registry.globals.get? ref <;> simp only [hr] at h <;> cases h
    obtain ⟨hi, hp⟩ := mem_of_brokenRef? hb
    exact .inr ⟨rfl, pruned_skip hs.nodup hl hg hi hp _, rfl⟩

/-- A pass over some listed identities; it shortens the list, or it changes nothing because nothing
was wrong. -/
theorem pruneEach_ok {ids : List Int} {changed : Bool} (hs : l.Sound u) (hn : ids.Nodup)
    (hl : ∀ id ∈ ids, id ∈ l.order) (h : pruneEach ids l = (.ok changed, l')) :
    Pruned l l' ∧ (changed = true → l'.order.length < l.order.length) ∧ (changed = false →
      l' = l ∧ ∀ id ∈ ids, ∀ {g}, l.registry.globals.get? id = some g → l.brokenRef? g = none) := by
  induction ids generalizing l changed with
  | nil =>
    cases h
    exact ⟨.refl _, fun changed => (by cases changed), fun _ => ⟨rfl, by simp⟩⟩
  | cons id ids ih =>
    obtain ⟨hid, hn⟩ := List.nodup_cons.1 hn
    have hmem := hl id (List.mem_cons_self ..)
    obtain ⟨first, l₁, hone, run⟩ := Step.bind_eq_ok h
    obtain ⟨others, l₂, heach, last⟩ := Step.bind_eq_ok run
    cases last
    rcases pruneOne_ok hs hmem hone with ⟨rfl, rfl, hb⟩ | ⟨rfl, hp, ho⟩
    · obtain ⟨hp, shorter, hrest⟩ := ih hs hn (fun i hi => hl i (List.mem_cons_of_mem _ hi)) heach
      refine ⟨hp, shorter, fun hsame => ?_⟩
      obtain ⟨he, hrest⟩ := hrest hsame
      refine ⟨he, fun i hi => ?_⟩
      rcases List.mem_cons.1 hi with rfl | hi
      · exact hb
      · exact hrest i hi
    · have hl₁ : ∀ i ∈ ids, i ∈ l₁.order := by
        intro i hi
        have hne : i ≠ id := fun e => hid (e ▸ hi)
        rw [ho]
        exact (List.mem_erase_of_ne hne).2 (hl i (List.mem_cons_of_mem _ hi))
      obtain ⟨hp', -⟩ := ih (hp.sound hs) hn hl₁ heach
      refine ⟨hp.trans hp', fun _ => ?_, fun same => (by cases same)⟩
      have h₁ := hp'.order.length_le
      rw [ho, List.length_erase_of_mem hmem] at h₁
      have := List.length_pos_of_mem hmem
      omega

theorem pruneRounds_ok {n : Nat} (hs : l.Sound u) (h : pruneRounds n l = (.ok (), l')) :
    Pruned l l' ∧ ∀ id ∈ l'.order, ∀ {g}, l'.registry.globals.get? id = some g →
      l'.brokenRef? g = none := by
  induction n generalizing l with
  | zero => cases h
  | succ n ih =>
    obtain ⟨ids, l₀, reads, run⟩ := Step.bind_eq_ok h
    cases reads
    obtain ⟨changed, l₁, heach, run⟩ := Step.bind_eq_ok run
    obtain ⟨hp, -, hfix⟩ := pruneEach_ok hs hs.nodup (fun _ h => h) heach
    cases changed with
    | false =>
      cases run
      obtain ⟨rfl, hb⟩ := hfix rfl
      exact ⟨hp, hb⟩
    | true =>
      obtain ⟨hp', hb⟩ := ih (hp.sound hs) run
      exact ⟨hp.trans hp', hb⟩

theorem prune_ok (hs : l.Sound u) (h : prune l = (.ok (), l')) :
    Pruned l l' ∧ ∀ id ∈ l'.order, ∀ {g}, l'.registry.globals.get? id = some g →
      l'.brokenRef? g = none :=
  pruneRounds_ok hs h

end Listing

end DeclAtlas
