import DeclAtlas.Proofs.Depth
import DeclAtlas.Proofs.Extracted
import DeclAtlas.Proofs.Reported

/-! The states that an extraction passes through, in the middle of a visit as well as after a
failure. Each change that is made to a listing is one step of `Passes`; a global that is listed
may be an old copy, looked up before other visits ran. What holds along these steps holds in every
state of every run, since every part of an extraction only passes on. -/

namespace DeclAtlas

/-- A global as it may be listed again: with another type, constness or layout. -/
inductive Global.Revised (g : Global) : Global → Prop where
  | same : Revised g g
  | typed {g'} (h : Revised g g') (t : CType) : Revised g (g'.withType t)
  | qualified {g'} (h : Revised g g') (isConst : Bool) : Revised g (g'.withConst isConst)
  | laidOut {g'} (h : Revised g g') (layout : Layout) : Revised g (g'.withLayout layout)

namespace Global

variable {g g' : Global}

theorem Revised.outline (h : g.Revised g') (own : g.isBuiltin = false) :
    g'.outline = g.outline := by
  induction h with
  | same => rfl
  | typed _ t ih => exact (outline_withType ((isBuiltin_of_outline ih).trans own) t).trans ih
  | qualified _ b ih => exact Eq.trans (by simp [Global.outline, withConst]) ih
  | laidOut _ y ih => exact (outline_withLayout _ y).trans ih

theorem revised_of_outline (h : g'.outline = g.outline) : g.Revised g' := by
  obtain ⟨name, form⟩ := g
  obtain ⟨name', form'⟩ := g'
  obtain ⟨rfl, hf⟩ := outline_eq.1 h
  cases form <;> cases form' <;> cases hf
  case composite y _ _ y' => exact .laidOut .same y'
  case enum => exact .same
  case typedef t' => exact .typed .same t'
  case var t' b' => exact .qualified (.typed .same t') b'
  case function t' => exact .typed .same t'
  case builtin => exact .same

end Global

open Listing

/-- A run leads from one listing to another. -/
inductive Passes (u : SourceUnit) : Listing → Listing → Prop where
  | here {l} : Passes u l l
  | aside {l m m'} (h : Passes u l m) (registry : m'.registry = m.registry)
      (order : m'.order = m.order) (added : m'.added = m.added) : Passes u l m'
  | looked {l m m'} {c : CursorId} {result : Except Fault Global} (h : Passes u l m)
      (run : lookup u c m = (result, m')) : Passes u l m'
  | listed {l m m₁ m₂} {c : CursorId} {g g' : Global} (h : Passes u l m)
      (look : lookup u c m = (.ok g, m₁)) (own : g.isBuiltin = false) (between : Passes u m₁ m₂)
      (revised : g.Revised g') : Passes u l (m₂.add g')
  | recast {l m} (h : Passes u l m) (recast : IdTable CType) : Passes u l (m.withRecast recast)
  | poisoned {l m} {id : Int} {g : Global} (h : Passes u l m)
      (known : m.registry.globals.get? id = some g) : Passes u l (m.poison id)
  | removed {l m} (h : Passes u l m) (id : Int) : Passes u l (m.remove id)

theorem Passes.trans {u : SourceUnit} {l m l' : Listing} (h : Passes u l m) (h' : Passes u m l') :
    Passes u l l' := by
  induction h' with
  | here => exact h
  | aside _ registry order added ih => exact .aside (ih h) registry order added
  | looked _ run ih => exact .looked (ih h) run
  | listed _ look own between revised ih _ => exact .listed (ih h) look own between revised
  | recast _ recast ih => exact .recast (ih h) recast
  | poisoned _ known ih => exact .poisoned (ih h) known
  | removed _ id ih => exact .removed (ih h) id

theorem Passes.after_aside {u : SourceUnit} {l m l' : Listing} (h : Passes u m l')
    (registry : m.registry = l.registry) (order : m.order = l.order) (added : m.added = l.added) :
    Passes u l l' :=
  Passes.trans (.aside .here registry order added) h

namespace Listing

variable {u : SourceUnit} {c : CursorId} {l l' l₁ l₂ l₃ : Listing} {g g' : Global} {id : Int}

/-- A sound listing in which every identity stands for a canonical cursor, and every key of the
cursor table is one; only registered identities are poisoned. -/
structure Grounded (u : SourceUnit) (l : Listing) : Prop where
  sound : l.Sound u
  rooted : ∀ {id g}, l.registry.globals.get? id = some g → ∃ c, l.registry.idOf? u c = some id
  keyed : ∀ {k id}, l.registry.ids.get? k = some id → ∃ c, u.canonical c = k
  poisoned : ∀ {id}, id ∈ l.registry.poisoned → ∃ g, l.registry.globals.get? id = some g

theorem grounded_start (u : SourceUnit) (b : List BuiltinEntry) :
    (ofBuiltins (.ofEntries b)).Grounded u where
  sound := sound_ofBuiltins u _
  rooted h := by cases h
  keyed h := by cases h
  poisoned h := by cases h

theorem Grounded.congr (h : l.Grounded u) (hr : l'.registry = l.registry)
    (ho : l'.order = l.order) (ha : l'.added = l.added) : l'.Grounded u where
  sound := h.sound.congr hr ho ha
  rooted hg := by rw [hr] at hg ⊢; exact h.rooted hg
  keyed hk := by rw [hr] at hk; exact h.keyed hk
  poisoned hp := by rw [hr] at hp ⊢; exact h.poisoned hp

theorem Grounded.withRecast (h : l.Grounded u) (recast : IdTable CType) :
    (l.withRecast recast).Grounded u :=
  ⟨h.sound.withRecast recast, h.rooted, h.keyed, h.poisoned⟩

theorem Grounded.remove (h : l.Grounded u) (id : Int) : (l.remove id).Grounded u :=
  ⟨h.sound.remove id, h.rooted, h.keyed, h.poisoned⟩

theorem Grounded.poison (h : l.Grounded u) (known : l.registry.globals.get? id = some g) :
    (l.poison id).Grounded u where
  sound := h.sound.poison id
  rooted := h.rooted
  keyed := h.keyed
  poisoned hp := by
    rcases IdSet.mem_insert.1 hp with rfl | hp
    · exact ⟨g, known⟩
    · exact h.poisoned hp

theorem Grounded.lookup (h : l.Grounded u) (look : lookup u c l = (.ok g, l₁)) :
    l₁.Grounded u := by
  have hs := (proceeds_lookup h.sound look).sound
  have grows := (proceeds_lookup h.sound look).succeeds.registry
  unfold Listing.lookup at look
  split at look
  · unfold globalAt at look
    split at look <;> cases look
    exact h
  · split at look <;> cases look
    rename_i hn
    refine ⟨hs, fun {id g'} hg' => ?_, fun {k id} hk => ?_, fun hp => ?_⟩
    · simp only [Registry.register, Table.get?_insert] at hg'
      split at hg'
      · rename_i he
        exact ⟨c, by simp [Registry.idOf?, Registry.register, he]⟩
      · obtain ⟨d, hd⟩ := h.rooted hg'
        exact ⟨d, grows.idOf? hd⟩
    · simp only [Registry.register, Table.get?_insert] at hk
      split at hk
      · exact ⟨c, by rename_i he; exact he.symm⟩
      · exact h.keyed hk
    · obtain ⟨g', hg'⟩ := h.poisoned hp
      obtain ⟨g'', hg'', -⟩ := grows.globals hg'
      exact ⟨g'', hg''⟩

theorem Grounded.add (h : l.Grounded u) (hg : l.registry.globals.get? g.id = some g')
    (ho : g.outline = g'.outline) (own : g.isBuiltin = false) : (l.add g).Grounded u := by
  have grows := (succeeds_add hg ho).registry
  refine ⟨h.sound.add hg ho own, fun {id g₁} h₁ => ?_, fun hk => ?_, fun hp => ?_⟩
  · rw [add_registry] at h₁
    simp only [Registry.update, Table.get?_insert] at h₁
    split at h₁
    · rename_i he
      obtain ⟨d, hd⟩ := h.rooted hg
      exact ⟨d, he ▸ grows.idOf? hd⟩
    · obtain ⟨d, hd⟩ := h.rooted h₁
      exact ⟨d, grows.idOf? hd⟩
  · rw [add_registry] at hk
    exact h.keyed hk
  · rw [add_registry] at hp
    obtain ⟨g₁, h₁⟩ := h.poisoned hp
    obtain ⟨g₂, h₂, -⟩ := grows.globals h₁
    exact ⟨g₂, h₂⟩

theorem lookup_of_known (h : l.Sound u) (known : l.registry.globalOf? u c = some g) :
    Listing.lookup u c l = (.ok g, l) := by
  obtain ⟨hid, hg⟩ := h.registry.globalOf?_eq_some.1 known
  simp only [Listing.lookup, hid, globalAt, hg]

end Listing

section passes

variable {u : SourceUnit} {c : CursorId} {l l' l₁ l₂ l₃ : Listing} {g g' : Global}

/-- Along a run listings stay grounded, and the registry only grows. -/
theorem Passes.grounded (h : Passes u l l') (hl : l.Grounded u) :
    l'.Grounded u ∧ l.registry.Grows l'.registry := by
  induction h with
  | here => exact ⟨hl, .refl _⟩
  | aside _ registry order added ih =>
    obtain ⟨hm, grows⟩ := ih hl
    exact ⟨hm.congr registry order added, registry ▸ grows⟩
  | @looked _ _ _ _ result _ run ih =>
    obtain ⟨hm, grows⟩ := ih hl
    cases result with
    | error e => rw [lookup_error run]; exact ⟨hm, grows⟩
    | ok g => exact ⟨hm.lookup run, grows.trans (proceeds_lookup hm.sound run).succeeds.registry⟩
  | @listed _ _ m₁ m₂ _ g g' _ look own _ revised ih ihb =>
    obtain ⟨hm, grows⟩ := ih hl
    obtain ⟨hm₂, later⟩ := ihb (hm.lookup look)
    -- the copy is old, but what stays for good is the same in it and in the registry
    obtain ⟨g₂, hg₂, ho⟩ := later.globals (known_of_lookup hm.sound look).2
    have ho' := revised.outline own
    have hg' : m₂.registry.globals.get? g'.id = some g₂ := by rwa [Global.id_of_outline ho']
    have outline : g'.outline = g₂.outline := ho'.trans ho.symm
    refine ⟨hm₂.add hg' outline ((Global.isBuiltin_of_outline ho').trans own), ?_⟩
    exact ((grows.trans (proceeds_lookup hm.sound look).succeeds.registry).trans later).trans
      (succeeds_add hg' outline).registry
  | recast _ recast ih =>
    obtain ⟨hm, grows⟩ := ih hl
    exact ⟨hm.withRecast recast, ⟨grows.builtins, grows.ids, grows.globals, grows.poisoned⟩⟩
  | poisoned _ known ih =>
    obtain ⟨hm, grows⟩ := ih hl
    exact ⟨hm.poison known, grows.trans (Registry.grows_poison _ _)⟩
  | removed _ id ih =>
    obtain ⟨hm, grows⟩ := ih hl
    exact ⟨hm.remove id, grows⟩

theorem passes_add_of_known (hs : l.Sound u) (known : l.registry.globalOf? u c = some g)
    (own : g.isBuiltin = false) (between : Passes u l l₁) (revised : g.Revised g') :
    Passes u l (l₁.add g') :=
  .listed .here (lookup_of_known hs known) own between revised

theorem passes_skip (g : Global) (message : String)
    (known : l.registry.globals.get? g.id = some g') : Passes u l (l.skip g message) :=
  .aside (.removed (.poisoned .here known) g.id) rfl rfl rfl

theorem passes_withdrawOne (hs : l.Sound u) (owner : Global) (id : Int) :
    Passes u l (l.withdrawOne owner id) := by
  unfold withdrawOne
  split
  · split
    · exact .removed .here id
    · split
      · rename_i g hg
        exact passes_skip g _ (by rw [hs.registry.own hg]; exact hg)
      · exact .here
  · exact .here

theorem passes_withdraw (hs : l.Sound u) (owner : Global) (ids : List Int) :
    Passes u l (ids.foldl (withdrawOne owner) l) := by
  induction ids generalizing l with
  | nil => exact .here
  | cons id rest ih => exact (passes_withdrawOne hs owner id).trans (ih (hs.withdrawOne owner id))

theorem passes_abandon {mark : Nat} {e e' : Fault} (hs : l₂.Sound u)
    (known : l₂.registry.globals.get? g.id = some g')
    (given : abandon mark g e l₂ = (.error e', l₃)) : Passes u l₂ l₃ := by
  cases he : e.isLocal with
  | false => rw [(abandon_error hs given).2.2 he]; exact .here
  | true =>
    rw [abandon_local he (withdrawSince_eq_foldl mark g (hs.poison g.id))] at given
    cases given
    exact (Passes.poisoned .here known).trans (passes_withdraw (hs.poison g.id) g _)

theorem Visit.passes {S : CursorId → Prop} {o : Option Fault} (h : Visit u S l o l')
    (hs : l.Sound u) : Passes u l l' := by
  induction h with
  | done | halt => exact .here
  | noted n _ ih => exact (ih (hs.congr rfl rfl rfl)).after_aside rfl rfl rfl
  | looked look _ ih => exact (Passes.looked .here look).trans (ih (proceeds_lookup hs look).sound)
  | undeclarable => exact .aside .here rfl rfl rfl
  | @incomplete _ l _ _ d g place undefined known tag unlisted _ ih =>
    refine Passes.trans ?_ (ih (proceeds_enterIncomplete hs known tag).sound)
    unfold enterIncomplete
    split <;>
      exact passes_add_of_known hs known (Form.isBuiltin_of_isTag tag) (.aside .here rfl rfl rfl)
        .same
  | @enumerated _ _ _ _ _ _ g _ place look form _ ih =>
    have own : g.isBuiltin = false := Form.isBuiltin_of_isTag (by rw [form]; rfl)
    refine Passes.trans ?_ (ih (proceeds_enterEnum hs look form).sound)
    exact .listed .here look own (.aside .here rfl rfl rfl) .same
  | @recorded _ _ l₁ l₂ _ _ c g ms place look form inside _ _ ihin ih =>
    have own : g.isBuiltin = false := Form.isBuiltin_of_isTag (Form.isTag_of_isComposite form)
    have hs₁ := (proceeds_lookup hs look).sound.startDefining g.id
    have between : Passes u l₁ ((l₂.setMembers g.id ms (Member.irregular ms)).stopDefining g.id) :=
      .aside ((ihin hs₁).after_aside rfl rfl rfl) rfl rfl rfl
    exact (Passes.listed .here look own between (.laidOut .same (u.layoutOf c))).trans
      (ih (proceeds_enterRecord ms hs look form (inside.proceeds hs₁)).sound)
  | @failed _ _ l₁ l₂ _ _ g _ _ place look tag inside given ihin =>
    have hs₁ := (proceeds_lookup hs look).sound.startDefining g.id
    obtain ⟨hs₂, hm, -⟩ := inside.frame hs₁
    obtain ⟨g', known, -⟩ := hm.registry.globals (known_of_lookup hs look).2
    have begun : Passes u l₁ l₂ := (ihin hs₁).after_aside rfl rfl rfl
    exact .aside (((Passes.looked .here look).trans begun).trans (passes_abandon hs₂ known given))
      rfl rfl rfl

theorem Declared.passes (h : Declared u c l l') (hs : l.Sound u) : Passes u l l' := by
  cases h with
  | visited visit _ => exact visit.passes hs
  | @typed l₁ g g₁ t visit _ _ known outline own _ =>
    obtain ⟨recast, g', he, ho⟩ := addTyped_eq own t l₁
    have own₁ := (Global.isBuiltin_of_outline outline).symm.trans own
    rw [he]
    exact (visit.passes hs).trans (passes_add_of_known (visit.proceeds hs).sound known own₁
      (.recast .here recast) (Global.revised_of_outline (ho.trans outline)))

theorem passes_skipped {id : Int} (hs : l.Sound u) (known : l.registry.idOf? u c = some id)
    (e : Fault) : Passes u l (l.skipped u c e) := by
  obtain ⟨g, hg, -⟩ := hs.registry.exists_global known
  rw [skipped_eq known]
  exact .aside (.removed (.poisoned .here hg) id) rfl rfl rfl

end passes

/-- Everything that a step of the walk can do. It passes a cursor over, or extracts the declaration
there, or skips it for a fault of its own; other faults end the walk. -/
inductive Stepped (u : SourceUnit) (r : Recursion) (c : CursorId) (l : Listing) :
    Except Fault Advance → Listing → Prop where
  | passed (advance : Advance) : Stepped u r c l (.ok advance) l
  | declared {l'} (declared : Declared u c l l') : Stepped u r c l (.ok .beside) l'
  | skipped {l₁ e id} (run : visitDeclaration u r c l = (.error e, l₁)) (own : e.isLocal = true)
      (visit : Visit u (u.Near c) l (some e) l₁) (known : l₁.registry.idOf? u c = some id) :
      Stepped u r c l (.ok .beside) (l₁.skipped u c e)
  | ended {l' e} (run : visitDeclaration u r c l = (.error e, l')) (fatal : e.isLocal = false)
      (visit : Visit u (u.Near c) l (some e) l') : Stepped u r c l (.error e) l'

section steps

variable {u : SourceUnit} {c : CursorId} {l l' : Listing}

theorem visitTop_stepped {r : Recursion} {n : Nat} (hr : r.Faithful u n) (hs : l.Sound u)
    {p : CursorId} {result : Except Fault Advance} (run : visitTop u r c p l = (result, l')) :
    Stepped u r c l result l' := by
  unfold visitTop at run
  split at run
  · cases run
    exact .passed _
  split at run
  · cases run
    exact .passed _
  have hd := declares_visitDeclaration hr hs c
  unfold Declares at hd
  simp only [Step.bind_run, Step.handling] at run
  rcases hrun : visitDeclaration u r c l with ⟨e | ⟨⟩, l₁⟩ <;> rw [hrun] at hd run
  · cases he : e.isLocal with
    | false =>
      simp only [skipOnFault, he] at run
      cases run
      exact .ended hrun he hd.1
    | true =>
      obtain ⟨id, known⟩ := hd.2 he
      simp only [skipOnFault, he, if_true, skipCursor_run (hd.1.frame hs).1 known] at run
      cases run
      exact .skipped hrun he hd.1 known
  · cases run
    exact .declared hd

theorem passes_visitTop {r : Recursion} {n : Nat} (hr : r.Faithful u n) (hs : l.Sound u)
    (c p : CursorId) : Passes u l (visitTop u r c p l).2 := by
  rcases hrun : visitTop u r c p l with ⟨result, l'⟩
  cases visitTop_stepped hr hs hrun with
  | passed => exact .here
  | declared declared => exact declared.passes hs
  | skipped _ _ visit known =>
    exact (visit.passes hs).trans (passes_skipped (visit.frame hs).1 known _)
  | ended _ _ visit => exact visit.passes hs

end steps

end DeclAtlas
