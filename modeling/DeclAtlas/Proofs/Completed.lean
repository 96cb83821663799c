import DeclAtlas.Extraction.Run
import DeclAtlas.Proofs.Extracted
import DeclAtlas.Proofs.Pruned

/-! Whole extractions that complete: the walk, the pruning, and the graph that is read off the
list in the end. -/

namespace DeclAtlas

/-- An extraction that completes: it walks from the builtins to `walked`, and prunes what is
listed there down to `l`, from which the graph is read off. -/
structure Completed (u : SourceUnit) (b : List BuiltinEntry) (walked l : Listing) (g : Graph) :
    Prop where
  walk : Walked u u.topLevel (.ofBuiltins (.ofEntries b)) walked
  reached : ∀ {c}, u.Reached SourceUnit.root c → u.isImplicit c = false →
    u.kind c ≠ .unexposedDecl → c ∈ u.topLevel
  pruned : walked.Pruned l
  unbroken : ∀ id ∈ l.order, ∀ {d}, l.registry.globals.get? id = some d → l.brokenRef? d = none
  listed : g.declarations.map Global.id = l.order
  global : ∀ {d}, d ∈ g.declarations → l.registry.globals.get? d.id = some d
  graph : g = l.graph g.declarations

namespace Listing

variable {u : SourceUnit}

theorem globalsAt_ok {ids : List Int} {l l' : Listing} {ds : List Global} (hs : l.Sound u)
    (h : globalsAt ids l = (.ok ds, l')) :
    l' = l ∧ ds.map Global.id = ids ∧ ∀ d ∈ ds, l.registry.globals.get? d.id = some d := by
  induction ids generalizing ds with
  | nil => cases h; simp
  | cons id ids ih =>
    rw [globalsAt, Step.bind_run, globalAt] at h
    cases hg : l.registry.globals.get? id with
    | none => simp only [hg] at h; cases h
    | some g =>
      obtain rfl := hs.registry.own hg
      simp only [hg, Step.bind_run] at h
      rcases hrest : globalsAt ids l with ⟨e | ds', l₁⟩ <;> rw [hrest] at h <;> cases h
      obtain ⟨rfl, hids, hds⟩ := ih hrest
      refine ⟨rfl, by rw [List.map_cons, hids], fun d hd => ?_⟩
      rcases List.mem_cons.1 hd with rfl | hd
      · exact hg
      · exact hds d hd

end Listing

namespace SourceUnit

variable {u : SourceUnit} {b : List BuiltinEntry} {g : Graph} {l : Listing}

theorem sound_start (u : SourceUnit) (b : List BuiltinEntry) :
    (Listing.ofBuiltins (.ofEntries b)).Sound u :=
  Listing.sound_ofBuiltins u _

/-- Whether an extraction completes with a graph and a listing that `p` accepts. -/
def yields (u : SourceUnit) (b : List BuiltinEntry) (p : Graph → Listing → Bool) : Bool :=
  match u.extract b with
  | (.ok g, l) => p g l
  | (.error _, _) => false

theorem exists_of_yields {p : Graph → Listing → Bool} (h : u.yields b p = true) :
    ∃ g l, u.extract b = (.ok g, l) ∧ p g l = true := by
  unfold yields at h
  split at h
  · exact ⟨_, _, ‹_›, h⟩
  · cases h

/-- An extraction that returns a graph is a walk followed by a pruning. -/
theorem extract_completed (h : u.extract b = (.ok g, l)) : ∃ walked, Completed u b walked l g := by
  unfold extract extraction gatherTop at h
  simp only [Step.bind_run, Step.read, Step.modify] at h
  rcases hwalk : u.walk (visitTop u u.recursion) root (.ofBuiltins (.ofEntries b)) with
    ⟨e | ⟨⟩, walked⟩ <;> rw [hwalk] at h
  · cases h
  dsimp only at h
  rcases hprune : Listing.prune walked with ⟨e | ⟨⟩, l₁⟩ <;> rw [hprune] at h
  · cases h
  dsimp only at h
  obtain ⟨hw, hreached⟩ := walk_ok hwalk
  have hs := (hw.advances (sound_start u b)).sound
  obtain ⟨hp, hb⟩ := Listing.prune_ok hs hprune
  rcases hds : Listing.globalsAt l₁.order l₁ with ⟨e | ds, l₂⟩ <;> rw [hds] at h <;> cases h
  obtain ⟨rfl, hids, hget⟩ := Listing.globalsAt_ok (hp.sound hs) hds
  exact ⟨walked, hw, hreached, ⟨hp.globals, hp.table, hp.builtins, hp.recast, hp.tables,
    hp.added, hp.incomplete, hp.order, hp.poisoned, hp.reported, hp.blamed⟩, fun id hid d hd => hb id hid hd,
    hids, fun hd => hget _ hd, rfl⟩

end SourceUnit

namespace Completed

variable {u : SourceUnit} {b : List BuiltinEntry} {walked l : Listing} {g : Graph}

theorem members (h : Completed u b walked l g) {id : Int} (hid : id ∈ l.order) :
    g.members.get? id = l.members.get? id := by
  rw [h.graph]
  exact Table.get?_filterKeys (Listing.isListed_of_mem hid) _

theorem enumItems (h : Completed u b walked l g) {id : Int} (hid : id ∈ l.order) :
    g.enumItems.get? id = l.enumItems.get? id := by
  rw [h.graph]
  exact Table.get?_filterKeys (Listing.isListed_of_mem hid) _

theorem diagnostics (h : Completed u b walked l g) : g.diagnostics = l.diagnostics := by
  rw [h.graph]
  rfl

theorem sound_walked (h : Completed u b walked l g) : walked.Sound u :=
  (h.walk.advances (SourceUnit.sound_start u b)).sound

theorem answered_top (h : Completed u b walked l g) {c : CursorId} (hr : u.Reached SourceUnit.root c)
    (hi : u.isImplicit c = false) (hb : u.IsBinding c) : walked.Answered u c := by
  have hk : u.kind c ≠ .unexposedDecl := by
    intro hk
    simp [SourceUnit.IsBinding, hk] at hb
  exact h.walk.answered (SourceUnit.sound_start u b) (h.reached hr hi hk) hb

theorem sound (h : Completed u b walked l g) : l.Sound u := h.pruned.sound h.sound_walked

theorem grows_pruned (h : Completed u b walked l g) : walked.registry.Grows l.registry :=
  ⟨h.pruned.builtins, fun hc => h.pruned.table ▸ hc, fun hg => ⟨_, h.pruned.globals ▸ hg, rfl⟩,
    fun hp => h.pruned.poisoned.2 (.inl hp)⟩

theorem kept_pruned (h : Completed u b walked l g) {id : Int} (hid : id ∈ walked.order) :
    id ∈ l.order ∨ id ∈ l.registry.poisoned := by
  by_cases hl : id ∈ l.order
  · exact .inl hl
  · exact .inr (h.pruned.poisoned.2 (.inr ⟨hid, hl⟩))

theorem mem_declarations {d : Global} (h : Completed u b walked l g) :
    d ∈ g.declarations ↔ d.id ∈ l.order ∧ l.registry.globals.get? d.id = some d := by
  constructor
  · intro hd
    exact ⟨h.listed ▸ List.mem_map_of_mem hd, h.global hd⟩
  · rintro ⟨hid, hget⟩
    obtain ⟨d', hd', he⟩ := List.mem_map.1 (h.listed ▸ hid)
    have hget' := h.global hd'
    rw [he, hget] at hget'
    cases hget'
    exact hd'

theorem own_of_mem (h : Completed u b walked l g) {d : Global} (hd : d ∈ g.declarations) :
    d.isBuiltin = false := by
  obtain ⟨hid, hget⟩ := h.mem_declarations.1 hd
  obtain ⟨d', hget', own⟩ := h.sound.listed hid
  rw [hget] at hget'
  cases hget'
  exact own

theorem filter_same (h : Completed u b walked l g) {d : Global} (hd : d ∈ g.declarations) :
    g.declarations.filter (·.same d) = [d] := by
  have hnodup : (g.declarations.map Global.id).Nodup := h.listed ▸ h.sound.nodup
  obtain ⟨pre, post, he⟩ := List.append_of_mem hd
  rw [he, List.map_append, List.map_cons, List.nodup_append, List.nodup_cons] at hnodup
  obtain ⟨-, ⟨hpost, -⟩, hpre⟩ := hnodup
  have none_of {ds : List Global} (hn : d.id ∉ ds.map Global.id) :
      ds.filter (·.same d) = [] := by
    refine List.filter_eq_nil_iff.2 fun d' hd' hsame => hn ?_
    rw [← show d'.id = d.id by simpa [Global.same] using hsame]
    exact List.mem_map_of_mem hd'
  have hpre' : d.id ∉ pre.map Global.id := fun hm => hpre _ hm _ (List.mem_cons_self ..) rfl
  rw [he, List.filter_append, List.filter_cons, none_of hpre', none_of hpost]
  simp [Global.same]

end Completed

end DeclAtlas
