import DeclAtlas.Proofs.Concluded
import DeclAtlas.Proofs.Linked
import DeclAtlas.Proofs.Saved
import DeclAtlas.Proofs.Unreported

/-! Units extracted again with their own snapshot. A global keeps the shape of the canonical cursor
that it was registered from, so its entry in the snapshot stands in for that cursor when the unit
comes up again. If nothing was skipped, every declaration of the top level is bound in this way, and
the second extraction lists nothing and reports nothing. -/

namespace DeclAtlas

open Listing

section shapes

variable {u : SourceUnit} {r : Registry} {c : CursorId} {g : Global}

theorem Registry.Sound.shape?_eq (h : r.Sound u) (hg : r.globalOf? u c = some g)
    (own : g.isBuiltin = false) : g.shape? = some (u.shapeOf (u.canonical c)) := by
  obtain ⟨hid, hget⟩ := h.globalOf?_eq_some.1 hg
  rw [Global.shape?, h.cursorKind?_eq hg own, h.location?_eq hg own, h.text_eq hid hget]
  rfl

/-- The global `d` was registered for the canonical cursor of `c`, and for no other. -/
def Registry.StandsFor (r : Registry) (u : SourceUnit) (d : Global) (c : CursorId) : Prop :=
  r.globalOf? u c = some d ∧ ∀ k, r.ids.get? k = some d.id → k = u.canonical c

end shapes

section first

variable {u : SourceUnit} {b : List BuiltinEntry} {walked l : Listing} {g : Graph} {c : CursorId}

theorem SourceUnit.grounded_of_extract (h : u.extract b = (.ok g, l)) : l.Grounded u := by
  have passes := u.passes_extractWithin u.recursionBound u.depthBound b
  rw [← extract_eq_extractWithin, h] at passes
  exact (passes.grounded (grounded_start u b)).1

theorem SourceUnit.walk_of_extract (h : u.extract b = (.ok g, l)) : ∃ walked,
    u.walk (visitTop u u.recursion) root (.ofBuiltins (.ofEntries b)) = (.ok (), walked) := by
  unfold extract extraction gatherTop at h
  simp only [Step.bind_run] at h
  rcases hrun : u.walk (visitTop u u.recursion) root (.ofBuiltins (.ofEntries b)) with
    ⟨e | ⟨⟩, walked⟩
  · rw [hrun] at h
    cases h
  · exact ⟨walked, rfl⟩

theorem SourceUnit.shape_of_listed (h : u.extract b = (.ok g, l)) {d : Global}
    (hd : d ∈ g.declarations) :
    ∃ c, l.registry.StandsFor u d c ∧ d.shape? = some (u.shapeOf (u.canonical c)) := by
  obtain ⟨walked, completed⟩ := extract_completed h
  have grounded := u.grounded_of_extract h
  have known := completed.global hd
  obtain ⟨c, hc⟩ := grounded.rooted known
  have registered := grounded.sound.registry.globalOf?_eq_some.2 ⟨hc, known⟩
  exact ⟨c, ⟨registered, fun k hk => grounded.sound.registry.single hk hc⟩,
    grounded.sound.registry.shape?_eq registered (completed.own_of_mem hd)⟩

theorem Completed.unpoisoned_of_quiet (h : Completed u b walked l g) (quiet : g.diagnostics = [])
    (id : Int) : id ∉ l.registry.poisoned := by
  have silent {name : String} : ¬u.Announced b l name := by
    rw [← h.reported_iff, quiet]
    simp
  intro poisoned
  rcases h.pruned.poisoned.1 poisoned with poisoned | ⟨listed, gone⟩
  · obtain ⟨pre, c, post, l₁, l₂, he, hw, step, before, after⟩ :=
      h.walk.exists_step (P := fun l => id ∈ l.registry.poisoned) (fun hm => by cases hm) poisoned
    obtain ⟨e, l₃, run, own, -⟩ :=
      fails_of_poisons (hw.advances (SourceUnit.sound_start u b)).sound step before after
    exact silent (.failed ⟨pre, post, e, he, hw, run, own⟩)
  · obtain ⟨d, hd, -⟩ := h.sound_walked.listed listed
    exact silent (.pruned h.walk listed gone (h.pruned.globals ▸ hd))

theorem Completed.listed_of_isBinding (h : Completed u b walked l g) (quiet : g.diagnostics = [])
    (hc : c ∈ u.topLevel) (hb : u.IsBinding c) :
    ∃ d, l.registry.globalOf? u c = some d ∧ (d.isBuiltin = true ∨ d ∈ g.declarations) := by
  have answered := h.walk.answered (SourceUnit.sound_start u b) hc hb
  obtain ⟨d, hd, external | poisoned | listed⟩ := answered.kept h.grows_pruned h.kept_pruned
  · exact ⟨d, hd, .inl external⟩
  · exact absurd poisoned (h.unpoisoned_of_quiet quiet d.id)
  · exact ⟨d, hd, .inr (h.mem_declarations.2
      ⟨listed, (h.sound.registry.globalOf?_eq_some.1 hd).2⟩)⟩

end first

section second

variable {u : SourceUnit} {b : Builtins} {l : Listing} {c : CursorId}

/-- The builtins have a name for the declaration of a cursor. -/
def Builtins.Binds (b : Builtins) (u : SourceUnit) (c : CursorId) : Prop :=
  ∃ external, b.resolve? u (u.canonical c) = some external

/-- Nothing is reported, and whatever is registered is bound elsewhere. -/
structure Listing.Idle (u : SourceUnit) (b : Builtins) (l : Listing) : Prop where
  sound : l.Sound u
  builtins : l.registry.builtins = b
  external : ∀ {id g}, l.registry.globals.get? id = some g → g.isBuiltin = true
  quiet : l.diagnostics = []

namespace Listing.Idle

theorem start (u : SourceUnit) (b : Builtins) : (ofBuiltins b).Idle u b :=
  ⟨sound_ofBuiltins u b, rfl, fun h => (by cases h), rfl⟩

theorem order_eq (h : l.Idle u b) : l.order = [] := by
  refine List.eq_nil_iff_forall_not_mem.2 fun id hid => ?_
  obtain ⟨g, hg, own⟩ := h.sound.listed hid
  rw [h.external hg] at own
  cases own

theorem note (h : l.Idle u b) (n : Note) : (l.note n).Idle u b :=
  ⟨h.sound.congr rfl rfl rfl, h.builtins, h.external, h.quiet⟩

theorem lookup (h : l.Idle u b) (bound : b.Binds u c) :
    ∃ g l', Listing.lookup u c l = (.ok g, l') ∧ g.isBuiltin = true ∧ l'.Idle u b := by
  cases hid : l.registry.idOf? u c with
  | some id =>
    obtain ⟨g, hg, rfl⟩ := h.sound.registry.exists_global hid
    have known := h.sound.registry.globalOf?_eq_some.2 ⟨hid, hg⟩
    exact ⟨g, l, lookup_of_known h.sound known, h.external hg, h⟩
  | none =>
    obtain ⟨external, resolved⟩ := bound
    let g : Global :=
      ⟨⟨u.declSpelling (u.canonical c), l.registry.size⟩, .builtin (.named external true none)⟩
    let notes := [Note.usingBuiltin external (u.spellingOf (u.canonical c))]
    have new : l.registry.newGlobal u (u.canonical c) l.registry.size = .ok (g, notes) := by
      simp only [Registry.newGlobal, h.builtins, resolved, g, notes]
    have run : Listing.lookup u c l = (.ok g,
        { l with registry := l.registry.register (u.canonical c) g, notes := l.notes ++ notes }) := by
      simp only [Listing.lookup, hid, new]
    refine ⟨g, _, run, rfl, (proceeds_lookup h.sound run).sound, h.builtins, fun hg => ?_, h.quiet⟩
    simp only [Registry.register, Table.get?_insert] at hg
    split at hg
    · cases hg
      rfl
    · exact h.external hg

end Listing.Idle

/-- The step goes through and leaves the listing idle. -/
def Rests {α : Type} (u : SourceUnit) (b : Builtins) (l : Listing) (x : Step Fault Listing α) :
    Prop :=
  ∃ a l', x l = (.ok a, l') ∧ l'.Idle u b

theorem Rests.bind_pure {α β : Type} {x : Step Fault Listing α} (h : Rests u b l x) (f : α → β) :
    Rests u b l (do return f (← x)) := by
  obtain ⟨a, l', run, idle⟩ := h
  exact ⟨f a, l', by rw [Step.bind_run, run]; rfl, idle⟩

theorem Rests.linked {x : Step Fault Listing Unit} (idle : l.Idle u b)
    (h : (u.cursor c).linkage.isBindable = true → Rests u b l x) :
    Rests u b l (do if (← checkLinkage u c) then x) := by
  by_cases hb : (u.cursor c).linkage.isBindable = true
  · simpa only [checkLinkage, if_pos hb, pure_bind, if_true] using h hb
  · refine ⟨(), _, ?_, idle.note (.dropping (u.cursor c).spelling (u.cursor c).linkage.name)⟩
    simp only [checkLinkage, if_neg hb, Step.bind_run, Step.modify, Step.pure_run,
      Bool.false_eq_true, if_false]

namespace Listing.Idle

theorem rests_lookup {α : Type} {k : Global → Step Fault Listing α} (h : l.Idle u b)
    (bound : b.Binds u c) (stop : ∀ g l, g.isBuiltin = true → ∃ a, k g l = (.ok a, l)) :
    Rests u b l (Listing.lookup u c >>= k) := by
  obtain ⟨g, l', run, external, idle⟩ := h.lookup bound
  obtain ⟨a, ha⟩ := stop g l' external
  exact ⟨a, l', by rw [Step.bind_run, run, ← ha], idle⟩

theorem rests_visitFunction (h : l.Idle u b)
    (bound : (u.cursor c).linkage.isBindable = true → b.Binds u c) (r : Recursion) :
    Rests u b l (visitFunction u r c) :=
  .linked h fun hb => h.rests_lookup (bound hb) fun g l external => ⟨(), by simp [external]⟩

theorem rests_visitVar (h : l.Idle u b)
    (bound : (u.cursor c).linkage.isBindable = true → b.Binds u c) (r : Recursion) :
    Rests u b l (visitVar u r c) :=
  .linked h fun hb => h.rests_lookup (bound hb) fun g l external => ⟨(), by simp [external]⟩

theorem rests_visitTypedef (h : l.Idle u b) (bound : b.Binds u c) (r : Recursion) :
    Rests u b l (visitTypedef u r c) :=
  h.rests_lookup bound fun g l external => ⟨(), by simp [external]⟩

theorem rests_declareIncomplete (h : l.Idle u b) (bound : b.Binds u c) :
    Rests u b l (declareIncomplete u c) :=
  h.rests_lookup bound fun g l external => ⟨g, by simp [external, Step.bind_run, Step.read]⟩

theorem rests_defineTag (h : l.Idle u b) (bound : b.Binds u c) (r : Recursion) :
    Rests u b l (defineTag u r c) :=
  h.rests_lookup bound fun g l external => ⟨g, by simp [external]⟩

theorem rests_define (h : l.Idle u b) (bound : b.Binds u c) :
    Rests u b l (u.recursion.define c) := by
  unfold SourceUnit.recursion SourceUnit.recursionWithin SourceUnit.recursionBound
  dsimp only
  rw [SourceUnit.defineWithin]
  exact h.rests_defineTag bound _

theorem rests_declare (h : l.Idle u b)
    (bound : u.definition? c = none ∨ u.definition? c = some c → b.Binds u c) :
    Rests u b l (declare u u.recursion c) := by
  unfold declare
  cases hd : u.definition? c with
  | none => exact (h.rests_declareIncomplete (bound (.inl hd))).bind_pure some
  | some d =>
    by_cases he : d = c
    · simp only [he, if_true]
      exact (h.rests_define (bound (.inr (he ▸ hd)))).bind_pure some
    · exact ⟨none, l, by simp only [he, if_false, Step.pure_run], h⟩

theorem rests_visitDeclaration (h : l.Idle u b) (bound : u.IsBinding c → b.Binds u c) :
    Rests u b l (visitDeclaration u u.recursion c) := by
  unfold visitDeclaration
  cases hk : u.kind c <;> dsimp only
  case structDecl | unionDecl | enumDecl =>
    have tag : (u.kind c).isTag = true := by rw [hk]; rfl
    exact (h.rests_declare fun hd => bound ((isBinding_of_isTag tag).2 hd)).bind_pure fun _ => ()
  case functionDecl =>
    exact h.rests_visitFunction (fun hb => bound ((isBinding_of_isLinked (.inl hk)).2 hb)) _
  case varDecl =>
    exact h.rests_visitVar (fun hb => bound ((isBinding_of_isLinked (.inr hk)).2 hb)) _
  case typedefDecl => exact h.rests_visitTypedef (bound (by simp [SourceUnit.IsBinding, hk])) _
  all_goals exact ⟨(), l, rfl, h⟩

theorem visitOne (h : l.Idle u b) (bound : u.IsBinding c → b.Binds u c) :
    ∃ l', DeclAtlas.visitOne u c l = (.ok (), l') ∧ l'.Idle u b := by
  obtain ⟨_, l', run, idle⟩ := h.rests_visitDeclaration bound
  exact ⟨l', by rw [DeclAtlas.visitOne, Step.handling, run], idle⟩

theorem prune_eq (h : l.Idle u b) : prune l = (.ok (), l) := by
  simp only [prune, pruneRounds, pruneEach, Step.bind_run, Step.read, h.order_eq, List.length_nil,
    Step.pure_run, Bool.false_eq_true, if_false]

theorem graph_eq (h : l.Idle u b) : l.graph [] = {} := by
  have unlisted (id : Int) : l.isListed id = false := by simp [isListed_eq, h.order_eq]
  simp only [graph, h.quiet, Table.filterKeys_eq_empty unlisted, IdSet.filter_eq_empty unlisted]

end Listing.Idle

/-- If the builtins have a name for everything at the top level that has to answer for itself, and the
walk is not cut off, the extraction gives an empty graph. -/
theorem SourceUnit.extract_of_binds {entries : List BuiltinEntry} {l₀ l₁ : Listing}
    (walk : u.walk (visitTop u u.recursion) root l₀ = (.ok (), l₁))
    (bound : ∀ c ∈ u.topLevel, u.IsBinding c → (Builtins.ofEntries entries).Binds u c) :
    ∃ l, u.extract entries = (.ok {}, l) := by
  obtain ⟨l, run, idle⟩ := walk_of_steps walk (fun c hc l hl => Idle.visitOne hl (bound c hc))
    (Idle.start u (.ofEntries entries))
  refine ⟨l.note (.extracted 0 0 u.spelling), ?_⟩
  simp only [extract, extraction, gatherTop, Step.bind_run, run, idle.prune_eq, Step.read,
    idle.order_eq, globalsAt, Step.pure_run, idle.graph_eq, Step.modify, List.length_nil]

end second

theorem Snapshot.binds_of_mem {u : SourceUnit} {c : CursorId} {ds : List Global} {d : Global}
    (hd : d ∈ ds) (own : d.isBuiltin = false) (shape : d.shape? = some (u.shapeOf (u.canonical c)))
    (qualifier : String) :
    (Builtins.ofEntries ((ofGlobals ds).builtins qualifier)).Binds u c := by
  have kept : (⟨d, d.bindingName⟩ : SnapshotEntry) ∈ (ofGlobals ds).entries :=
    List.mem_map.2 ⟨d, List.mem_filter.2 ⟨hd, by simp [own]⟩, rfl⟩
  have entry : (⟨u.shapeOf (u.canonical c), qualify qualifier d.bindingName⟩ : BuiltinEntry) ∈
      (ofGlobals ds).builtins qualifier :=
    List.mem_filterMap.2 ⟨_, kept, by simp [shape]⟩
  exact Table.mem_keys.1 (Table.mem_keys_ofList.2
    (List.mem_map.2 ⟨_, List.mem_map_of_mem entry, rfl⟩))

/-- The snapshot of an extraction without reports has a name for everything at the top level that has
to answer for itself. -/
theorem SourceUnit.binds_own_snapshot {u : SourceUnit} {g : Graph} {l : Listing}
    (h : u.extract [] = (.ok g, l)) (quiet : g.diagnostics = []) (qualifier : String) {c : CursorId}
    (hc : c ∈ u.topLevel) (hb : u.IsBinding c) :
    (Builtins.ofEntries ((Snapshot.ofGlobals g.declarations).builtins qualifier)).Binds u c := by
  obtain ⟨walked, completed⟩ := extract_completed h
  have sound := completed.sound.registry
  obtain ⟨d, known, external | listed⟩ := completed.listed_of_isBinding quiet hc hb
  · -- there were no builtins to stand for anything
    obtain ⟨t, ht⟩ := Form.exists_of_isBuiltin external
    obtain ⟨name, resolved, -⟩ := sound.external_of_builtin known ht
    rw [completed.builtins] at resolved
    cases resolved
  · have own := completed.own_of_mem listed
    exact Snapshot.binds_of_mem listed own (sound.shape?_eq known own) qualifier

/-- In an extraction without builtins every listed global has the shape of the one canonical cursor
that it was registered from. If nothing is reported, the entries of the snapshot of what is listed,
under any qualifier, bind the whole unit: extracted with them it gives an empty graph. These are the
entries that are loaded from where the snapshot was saved. -/
theorem snapshot_covers_unit {u : SourceUnit} {g : Graph} {l : Listing}
    (h : u.extract [] = (.ok g, l)) :
    (∀ d ∈ g.declarations, ∃ c, l.registry.StandsFor u d c ∧
      d.shape? = some (u.shapeOf (u.canonical c))) ∧
    (g.diagnostics = [] → ∀ qualifier, ∃ l',
      u.extract ((Snapshot.ofGlobals g.declarations).builtins qualifier) =
        (.ok { declarations := [], diagnostics := [] }, l')) ∧
    ∀ t t' directory p, (Snapshot.ofGlobals g.declarations).save t directory p = .ok t' →
      (∀ n ∈ (Snapshot.ofGlobals g.declarations).toJson.integers, Json.Short n) →
      ∀ qualifier, Snapshot.load t' directory p qualifier =
        .ok ((Snapshot.ofGlobals g.declarations).builtins qualifier) := by
  obtain ⟨walked, walk⟩ := u.walk_of_extract h
  refine ⟨fun d hd => u.shape_of_listed h hd, fun quiet qualifier => ?_, ?_⟩
  · exact u.extract_of_binds walk fun c hc hb => u.binds_own_snapshot h quiet qualifier hc hb
  · intro t t' directory p saved short
    exact Snapshot.load_of_save saved rfl short

/-- Here `struct S` is declared before it is defined and has an unnamed struct as a member, `struct Q`
is never defined, `z` points to a struct that the compiler provides, and `w` cannot be bound. -/
def sharedUnit : SourceUnit where
  spelling := "test.c"
  cursors := #[
    { kind := .other "TRANSLATION_UNIT", spelling := "test.c",
      children := [.node 1, .node 3, .node 4, .node 5, .node 11, .node 12, .node 13] },
    { kind := .structDecl, spelling := "__tag", definition := some (.node 1), type := .node 0,
      children := [.node 2], usr := "c:@S@__tag" },
    { kind := .fieldDecl, spelling := "p", type := .node 1, offset := 0 },
    { kind := .structDecl, spelling := "S", file := some "test.c", line := 1, column := 8,
      definition := some (.node 5), type := .node 2, usr := "c:@S@S" },
    { kind := .typedefDecl, spelling := "T", file := some "test.c", line := 2, column := 18,
      underlying := .node 3 },
    { kind := .structDecl, spelling := "S", file := some "test.c", line := 3, column := 8,
      canonical := some (.node 3), definition := some (.node 5), type := .node 2,
      children := [.node 6, .node 8, .node 9, .node 10], usr := "c:@S@S" },
    { kind := .structDecl, file := some "test.c", line := 3, column := 12,
      definition := some (.node 6), type := .node 4, children := [.node 7],
      anonymous := true, usr := "c:@S@S@Sa" },
    { kind := .fieldDecl, spelling := "x", file := some "test.c", line := 3, column := 25,
      type := .node 1, offset := 0 },
    { kind := .fieldDecl, spelling := "i", file := some "test.c", line := 3, column := 30,
      type := .node 4, offset := 0 },
    { kind := .structDecl, spelling := "Q", file := some "test.c", line := 3, column := 40,
      type := .node 5, usr := "c:@S@Q" },
    { kind := .fieldDecl, spelling := "q", file := some "test.c", line := 3, column := 43,
      type := .node 6, offset := 64 },
    { kind := .varDecl, spelling := "v", file := some "test.c", line := 4, column := 10,
      type := .node 7, linkage := .external },
    { kind := .varDecl, spelling := "w", file := some "test.c", line := 5, column := 12,
      type := .node 1, linkage := .internal },
    { kind := .varDecl, spelling := "z", file := some "test.c", line := 6, column := 22,
      type := .node 8, linkage := .external }]
  types := #[
    { kind := .record, spelling := "struct __tag", decl := .node 1, size := 4, align := 4 },
    { kind := .int, spelling := "int" },
    { kind := .record, spelling := "struct S", decl := .node 5, size := 16, align := 8 },
    { kind := .elaborated, spelling := "struct S", named := .node 2 },
    { kind := .record, spelling := "struct S::(unnamed)", decl := .node 6, size := 4, align := 4 },
    { kind := .record, spelling := "struct Q", decl := .node 9 },
    { kind := .pointer, spelling := "struct Q *", pointee := .node 5 },
    { kind := .typedef, spelling := "T", decl := .node 4 },
    { kind := .pointer, spelling := "struct __tag *", pointee := .node 0 }]

section sharing

open SourceUnit

theorem sharedUnit_yields : sharedUnit.yields [] fun g _ =>
    decide (g.declarations.map (fun d => d.name.text) = ["T", "", "Q", "S", "v", "__tag", "z"]) &&
      g.diagnostics.isEmpty && (Snapshot.ofGlobals g.declarations).fits &&
      (Snapshot.ofGlobals g.declarations).toJson.integers.all fun n =>
        decide ((Nat.toDigits 10 n.natAbs).length ≤ Json.digitLimit) := by
  decide +kernel

/-- Seven declarations are listed. Loaded from the file that their snapshot is saved to, they leave
nothing of the unit to bind. -/
theorem shared_declarations_bound_once : ∃ g l t l', sharedUnit.extract [] = (.ok g, l) ∧
    g.declarations.map (fun d => d.name.text) = ["T", "", "Q", "S", "v", "__tag", "z"] ∧
    (Snapshot.ofGlobals g.declarations).save {} [] ⟨1, ["globals.json"]⟩ = .ok t ∧
    ∃ entries, Snapshot.load t [] ⟨1, ["globals.json"]⟩ "shared" = .ok entries ∧
      sharedUnit.extract entries = (.ok { declarations := [], diagnostics := [] }, l') := by
  obtain ⟨g, l, h, hp⟩ := exists_of_yields sharedUnit_yields
  simp only [Bool.and_eq_true, decide_eq_true_eq, List.isEmpty_iff, List.all_eq_true] at hp
  obtain ⟨⟨⟨names, quiet⟩, fits⟩, short⟩ := hp
  obtain ⟨-, covers, loads⟩ := snapshot_covers_unit h
  obtain ⟨t, saved⟩ : ∃ t, (Snapshot.ofGlobals g.declarations).save {} []
      ⟨1, ["globals.json"]⟩ = .ok t := by
    rw [Snapshot.save, if_pos fits]
    exact ⟨_, rfl⟩
  obtain ⟨l', again⟩ := covers quiet "shared"
  exact ⟨g, l, t, l', h, names, saved, _, loads _ t _ _ saved short "shared", again⟩

end sharing

end DeclAtlas
