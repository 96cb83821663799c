import DeclAtlas.Proofs.Concluded
import DeclAtlas.Proofs.Exactness

/-! One identity for each declaration. In every state of an extraction, identities and canonical
cursors correspond one to one; an identity is never given up or handed on, and what is registered
under it stays the same declaration to the end of the run. -/

namespace DeclAtlas

open Listing

/-- The identities are the numbers below the size of the registry. The cursor table holds one
canonical cursor for each of them, and nothing else. -/
structure Registry.Indexed (u : SourceUnit) (r : Registry) : Prop where
  numbered : ∀ i, (∃ g, r.globals.get? i = some g) ↔ 0 ≤ i ∧ i < r.size
  own : ∀ i g, r.globals.get? i = some g → g.name.id = i
  onto : ∀ i : Int, 0 ≤ i → i < r.size →
    ∃ k, r.ids.get? k = some i ∧ ∀ k', r.ids.get? k' = some i → k' = k
  keys : ∀ k i, r.ids.get? k = some i → (∃ c, u.canonical c = k) ∧ 0 ≤ i ∧ i < r.size

section indexed

variable {u : SourceUnit} {l : Listing} {c d : CursorId}

theorem Listing.Grounded.indexed (h : l.Grounded u) : l.registry.Indexed u where
  numbered := h.sound.registry.held
  own _ _ hg := h.sound.registry.own hg
  onto i h0 h1 := by
    obtain ⟨g, hg⟩ := (h.sound.registry.held i).2 ⟨h0, h1⟩
    obtain ⟨c, hc⟩ := h.rooted hg
    exact ⟨u.canonical c, hc, fun k' hk' => h.sound.registry.single hk' hc⟩
  keys k i hk := by
    obtain ⟨g, _, _, hg, _⟩ := h.sound.registry.born hk
    exact ⟨h.keyed hk, (h.sound.registry.held i).1 ⟨g, hg⟩⟩

theorem lookup_of_contains (hs : l.Sound u) (h : l.registry.contains u c = true) :
    ∃ g, lookup u c l = (.ok g, l) ∧ l.registry.globalOf? u c = some g := by
  obtain ⟨i, hi⟩ := Option.isSome_iff_exists.1 h
  obtain ⟨g, hg, rfl⟩ := hs.registry.exists_global hi
  have known := hs.registry.globalOf?_eq_some.2 ⟨hi, hg⟩
  exact ⟨g, lookup_of_known hs known, known⟩

theorem same_iff_canonical_eq {g g' : Global} (hs : l.Sound u)
    (hg : l.registry.globalOf? u c = some g) (hg' : l.registry.globalOf? u d = some g') :
    (g.same g' = true ↔ u.canonical c = u.canonical d) ∧
      (g = g' ↔ u.canonical c = u.canonical d) := by
  have equal (h : u.canonical c = u.canonical d) : g = g' := by
    unfold Registry.globalOf? Registry.idOf? at hg hg'
    rw [h, hg'] at hg
    exact (Option.some.inj hg).symm
  have canonical (h : g.id = g'.id) : u.canonical c = u.canonical d := by
    have hd := (hs.registry.globalOf?_eq_some.1 hg').1
    rw [← h] at hd
    exact hs.registry.canonical_eq (hs.registry.globalOf?_eq_some.1 hg).1 hd
  refine ⟨⟨fun h => canonical (by simpa [Global.same] using h), fun h => ?_⟩,
    ⟨fun h => canonical (congrArg Global.id h), equal⟩⟩
  simp [Global.same, equal h]

end indexed

/-- Conversions, definitions and steps of the walk, to any depth, lead from a state of an
extraction to another. -/
structure Continues (u : SourceUnit) (l : Listing) : Prop where
  convert : ∀ n t c, Passes u l (u.convertWithin n t c l).2
  define : ∀ n c, l.Defines u (fun _ => True) c → Passes u l (u.defineWithin n c l).2
  visit : ∀ n c p, Passes u l (visitTop u (u.recursionWithin n) c p l).2
  conclude : Passes u l (u.conclude l).2

theorem Runs.passes {α : Type} {u : SourceUnit} {S : CursorId → Prop} {l : Listing}
    {x : Step Fault Listing α} {Q : α → Listing → Prop} (h : Runs u S l x Q) (hs : l.Sound u) :
    Passes u l (x l).2 := by
  rcases hrun : x l with ⟨e | a, l'⟩
  · exact (h.error hrun).passes hs
  · exact (h.ok hrun).1.passes hs

theorem Listing.Grounded.continues {u : SourceUnit} {l : Listing} (h : l.Grounded u) :
    Continues u l where
  convert n t c :=
    ((u.recursionWithin_faithful n).convert (S := fun _ => True) t c h.sound).passes h.sound
  define n c place := ((u.recursionWithin_faithful n).define c h.sound place).passes h.sound
  visit n c p := passes_visitTop (u.recursionWithin_faithful n) h.sound c p
  conclude := by
    obtain ⟨g, l', hrun, hl'⟩ := u.conclude_passes h
    rw [hrun]
    exact hl'

/-- In every state that a run passes through, identities and canonical cursors correspond one to
one, and two registered cursors are looked up as equal globals exactly if they have the same
canonical cursor. From then on the registry only grows: identities stay with their cursors, and of
a global nothing but the type, the constness and the layout changes. A lookup that fails changes
nothing. All parts of an extraction lead from such states to such states. -/
theorem one_identity_per_canonical_cursor {u : SourceUnit} {b : List BuiltinEntry} {l : Listing}
    (h : Passes u (.ofBuiltins (.ofEntries b)) l) :
    l.registry.Indexed u ∧
    (∀ c d, l.registry.contains u c = true → l.registry.contains u d = true →
      ∃ g g', lookup u c l = (.ok g, l) ∧ lookup u d l = (.ok g', l) ∧
        (g.same g' = true ↔ u.canonical c = u.canonical d) ∧
        (g = g' ↔ u.canonical c = u.canonical d)) ∧
    (∀ l', Passes u l l' → l.registry.Grows l'.registry) ∧
    (∀ c e l', lookup u c l = (.error e, l') → l' = l) ∧
    Continues u l ∧ ∀ n m, Passes u (.ofBuiltins (.ofEntries b)) (u.extractWithin n m b).2 := by
  have hl := (h.grounded (grounded_start u b)).1
  refine ⟨hl.indexed, fun c d hc hd => ?_, fun l' hl' => (hl'.grounded hl).2,
    fun c e l' hrun => lookup_error hrun, hl.continues, fun n m => u.passes_extractWithin n m b⟩
  obtain ⟨g, hrun, hg⟩ := lookup_of_contains hl.sound hc
  obtain ⟨g', hrun', hg'⟩ := lookup_of_contains hl.sound hd
  exact ⟨g, g', hrun, hrun', same_iff_canonical_eq hl.sound hg hg'⟩

/-- Both declarations of `v` are looked up as one global, and `T` as another. -/
theorem redeclared_variable_has_one_identity : ∃ l g g' t,
    Passes redeclaringUnit (.ofBuiltins (.ofEntries [])) l ∧
    lookup redeclaringUnit (.node 1) l = (.ok g, l) ∧
    lookup redeclaringUnit (.node 2) l = (.ok g', l) ∧
    lookup redeclaringUnit (.node 4) l = (.ok t, l) ∧ g = g' ∧ g ≠ t := by
  have h := redeclaringUnit.passes_extractWithin redeclaringUnit.recursionBound
    redeclaringUnit.depthBound []
  rw [← SourceUnit.extract_eq_extractWithin] at h
  obtain ⟨-, looked, -⟩ := one_identity_per_canonical_cursor h
  obtain ⟨g, g', hg, hg', -, same⟩ :=
    looked (.node 1) (.node 2) (by decide +kernel) (by decide +kernel)
  obtain ⟨g₁, t, hg₁, ht, -, differ⟩ :=
    looked (.node 1) (.node 4) (by decide +kernel) (by decide +kernel)
  obtain rfl : g = g₁ := by rw [hg] at hg₁; cases hg₁; rfl
  exact ⟨_, g, g', t, h, hg, hg', ht, same.2 rfl, fun he => absurd (differ.1 he) (by decide)⟩

end DeclAtlas
