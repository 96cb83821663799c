import DeclAtlas.Proofs.Reported
import DeclAtlas.Proofs.Skipping

/-! Skipped declarations that nothing reports. Reports are made of declarations of the top level
that fail, of what their visits listed and took back, and of what is pruned. A record or enum whose
own definition fails while another declaration is visited was never listed: it is poisoned, and
its failure is reported under the name of that other declaration only. -/

namespace DeclAtlas

open Listing

/-- The names under which an extraction that ends with `l` reports something. -/
inductive SourceUnit.Announced (u : SourceUnit) (b : List BuiltinEntry) (l : Listing) :
    String → Prop where
  | failed {c l₁ l₂} (h : u.Fails b c l₁ l₂) : Announced u b l (u.spellingOf c)
  | withdrawn {c l₁ l₂ id d} (h : u.Fails b c l₁ l₂) (retracted : Retracts l₁ l₂ id)
      (known : l.registry.globals.get? id = some d) : Announced u b l d.name.display
  | pruned {walked id d} (walk : Walked u u.topLevel (.ofBuiltins (.ofEntries b)) walked)
      (listed : id ∈ walked.order) (gone : id ∉ l.order)
      (known : l.registry.globals.get? id = some d) : Announced u b l d.name.display

theorem Registry.Grows.name_eq {r r' : Registry} (h : r.Grows r') {id : Int} {g g' : Global}
    (hg : r.globals.get? id = some g) (hg' : r'.globals.get? id = some g') : g'.name = g.name := by
  obtain ⟨g'', hg'', ho⟩ := h.globals hg
  rw [hg'] at hg''
  cases hg''
  exact (Global.outline_eq.1 ho).1

theorem Registry.Sound.text_eq {u : SourceUnit} {r : Registry} (h : r.Sound u) {c : CursorId}
    {id : Int} {g : Global} (hid : r.idOf? u c = some id) (hg : r.globals.get? id = some g) :
    g.name.text = u.declSpelling (u.canonical c) := by
  obtain ⟨g', g₀, notes, hget, hnew, ho⟩ := h.born hid
  rw [hg] at hget
  cases hget
  rw [(Global.outline_eq.1 ho).1]
  unfold newGlobal at hnew
  split at hnew
  · cases hnew
    rfl
  · cases hf : u.formOf (u.canonical c) with
    | error e => rw [hf] at hnew; cases hnew
    | ok f => rw [hf] at hnew; cases hnew; rfl

theorem Name.display_of_ne {n : Name} (h : n.text ≠ "") : n.display = n.text := by
  rw [display, if_neg h]

theorem SourceUnit.spellingOf_of_declSpelling {u : SourceUnit} {c : CursorId}
    (h : u.declSpelling c ≠ "") : u.declSpelling c = u.spellingOf c := by
  unfold declSpelling at h ⊢
  split at h
  · exact absurd rfl h
  · rename_i ha
    rw [if_neg ha]

section steps

variable {u : SourceUnit} {c : CursorId} {cs : List CursorId} {l l₁ l' : Listing} {name : String}

theorem Declared.diagnostics_eq (h : Declared u c l l') (hs : l.Sound u) :
    l'.diagnostics = l.diagnostics := by
  cases h with
  | visited visit _ => exact (visit.proceeds hs).succeeds.diagnostics
  | @typed _ _ _ t visit _ _ known outline own _ =>
    have hp := visit.proceeds hs
    exact (succeeds_addTyped t hp.sound known outline own).diagnostics.trans
      hp.succeeds.diagnostics

/-- What a failing step of the walk reports: its own declaration, and what its visit retracted. -/
theorem reported_of_fails {e : Fault} (hs : l.Sound u) (step : visitOne u c l = (.ok (), l'))
    (run : visitDeclaration u u.recursion c l = (.error e, l₁)) :
    name ∈ l'.diagnostics.map (·.name) ↔ name ∈ l.diagnostics.map (·.name) ∨
      name = u.spellingOf c ∨
      ∃ id d, Retracts l l₁ id ∧ l'.registry.globals.get? id = some d ∧ d.name.display = name := by
  cases visitOne_extracted hs step with
  | declared run' _ => rw [run] at run'; cases run'
  | @skipped l₂ e' i run' _ visit known =>
    rw [run] at run'
    cases run'
    obtain ⟨gs, hknown, hmem, hnames⟩ := visit.tells hs
    rw [skipped_eq known]
    have names : (((l₁.poison i).remove i).diagnose
        ⟨"warning", u.spellingOf c, some (u.locationOf c), e.message⟩).diagnostics.map (·.name) =
          l₁.diagnostics.map (·.name) ++ [u.spellingOf c] := by
      simp [diagnose, note, remove, poison]
    rw [names, hnames, List.mem_append, List.mem_append, List.mem_singleton, or_assoc]
    refine or_congr_right ?_
    rw [or_comm]
    refine or_congr_right ⟨fun h => ?_, ?_⟩
    · obtain ⟨d, hd, rfl⟩ := List.mem_map.1 h
      exact ⟨d.id, d, (hmem d.id).1 (List.mem_map_of_mem hd), hknown d hd, rfl⟩
    · rintro ⟨id, d, retracted, hd, rfl⟩
      obtain ⟨d', hd', rfl⟩ := List.mem_map.1 ((hmem id).2 retracted)
      obtain rfl := Option.some.inj ((hknown d' hd').symm.trans hd)
      exact List.mem_map_of_mem hd'

theorem fails_of_reports (hs : l.Sound u) (step : visitOne u c l = (.ok (), l'))
    (before : name ∉ l.diagnostics.map (·.name)) (after : name ∈ l'.diagnostics.map (·.name)) :
    ∃ e l₁, visitDeclaration u u.recursion c l = (.error e, l₁) ∧ e.isLocal = true := by
  cases visitOne_extracted hs step with
  | declared _ declared => exact absurd (declared.diagnostics_eq hs ▸ after) before
  | skipped run own _ _ => exact ⟨_, _, run, own⟩

theorem visitOne_keeps_reports (hs : l.Sound u) (step : visitOne u c l = (.ok (), l'))
    (h : name ∈ l.diagnostics.map (·.name)) : name ∈ l'.diagnostics.map (·.name) := by
  rcases run : visitDeclaration u u.recursion c l with ⟨e | _, l₁⟩
  · exact (reported_of_fails hs step run).2 (.inl h)
  · cases visitOne_extracted hs step with
    | declared _ declared => rwa [declared.diagnostics_eq hs]
    | skipped run' => rw [run] at run'; cases run'

theorem Walked.keeps_reports (h : Walked u cs l l') (hs : l.Sound u)
    (hn : name ∈ l.diagnostics.map (·.name)) : name ∈ l'.diagnostics.map (·.name) := by
  have keep := h.induct (P := fun l => l.Sound u ∧ name ∈ l.diagnostics.map (·.name))
    (fun _ hl step => ⟨((visitOne_extracted hl.1 step).advances hl.1).sound,
      visitOne_keeps_reports hl.1 step hl.2⟩) ⟨hs, hn⟩
  exact keep.2

end steps

section completed

variable {u : SourceUnit} {b : List BuiltinEntry} {walked l : Listing} {g : Graph} {name : String}

theorem Completed.announced_of_walked (h : Completed u b walked l g)
    (hn : name ∈ walked.diagnostics.map (·.name)) : u.Announced b l name := by
  obtain ⟨pre, c, post, l₁, l₂, he, hw, step, before, after⟩ :=
    h.walk.exists_step (P := fun l => name ∈ l.diagnostics.map (·.name)) (by simp [ofBuiltins]) hn
  have hs₁ := (hw.advances (SourceUnit.sound_start u b)).sound
  obtain ⟨e, l₃, run, own⟩ := fails_of_reports hs₁ step before after
  have fails : u.Fails b c l₁ l₃ := ⟨pre, post, e, he, hw, run, own⟩
  obtain ⟨l₂', step', grows⟩ := h.step he hw
  rw [step] at step'
  cases step'
  rcases ((reported_of_fails hs₁ step run).1 after).resolve_left before with
    rfl | ⟨id, d, retracted, hd, rfl⟩
  · exact .failed fails
  · obtain ⟨d', hd', ho⟩ := grows.globals hd
    rw [← (Global.outline_eq.1 ho).1]
    exact .withdrawn fails retracted hd'

theorem Completed.reported_of_announced (h : Completed u b walked l g)
    (hn : u.Announced b l name) : name ∈ l.diagnostics.map (·.name) := by
  have start := SourceUnit.sound_start u b
  cases hn with
  | @failed c l₁ l₂ fails =>
    obtain ⟨pre, post, e, he, hw, run, -⟩ := fails
    obtain ⟨l₃, step, hs₃, rest⟩ := h.step_rest he hw
    have reported := (reported_of_fails (hw.advances start).sound step run).2 (.inr (.inl rfl))
    exact h.pruned.reported.2 (.inl (rest.keeps_reports hs₃ reported))
  | @withdrawn c l₁ l₂ id d fails retracted known =>
    obtain ⟨pre, post, e, he, hw, run, -⟩ := fails
    obtain ⟨l₃, step, hs₃, rest⟩ := h.step_rest he hw
    have hs₁ := (hw.advances start).sound
    have grows := (rest.advances hs₃).registry.trans h.grows_pruned
    have held : ∃ d', l₃.registry.globals.get? id = some d' := by
      cases visitOne_extracted hs₁ step with
      | declared run' _ => rw [run] at run'; cases run'
      | skipped run' _ visit known' =>
        rw [run] at run'
        cases run'
        obtain ⟨gs, hknown, hmem, -⟩ := visit.tells hs₁
        obtain ⟨d', hd', rfl⟩ := List.mem_map.1 ((hmem id).2 retracted)
        rw [skipped_eq known']
        exact ⟨d', hknown d' hd'⟩
    obtain ⟨d', hd'⟩ := held
    rw [grows.name_eq hd' known]
    have reported := (reported_of_fails hs₁ step run).2 (.inr (.inr ⟨id, d', retracted, hd', rfl⟩))
    exact h.pruned.reported.2 (.inl (rest.keeps_reports hs₃ reported))
  | @pruned walked' id d walk listed gone known =>
    obtain rfl := walk.unique h.walk
    exact h.pruned.reported.2 (.inr ⟨id, d, ⟨listed, gone⟩, h.pruned.globals ▸ known, rfl⟩)

theorem Completed.reported_iff (h : Completed u b walked l g) :
    (∃ δ ∈ g.diagnostics, δ.name = name) ↔ u.Announced b l name := by
  rw [h.diagnostics, ← List.mem_map (f := fun δ : Diagnostic => δ.name)]
  refine ⟨fun hn => ?_, h.reported_of_announced⟩
  rcases h.pruned.reported.1 hn with hn | ⟨id, d, ⟨listed, gone⟩, hd, rfl⟩
  · exact h.announced_of_walked hn
  · exact .pruned h.walk listed gone (h.pruned.globals ▸ hd)

end completed

/-- A skipped declaration is reported exactly if its name is announced. One that is not is a record
or enum, and was poisoned without having been listed while another declaration failed. -/
theorem skipped_declaration_reported_iff {u : SourceUnit} {b : List BuiltinEntry} {g : Graph}
    {l : Listing} (h : u.extract b = (.ok g, l)) :
    ∀ d, l.registry.globals.get? d.id = some d → d.name.text ≠ "" →
      d.id ∈ l.registry.poisoned →
      ((∃ δ ∈ g.diagnostics, δ.name = d.name.text) ↔ u.Announced b l d.name.text) ∧
      ((∀ c ∈ u.topLevel, u.spellingOf c = u.spellingOf (u.canonical c)) →
        (¬∃ δ ∈ g.diagnostics, δ.name = d.name.text) →
        d.form.isTag = true ∧ ∃ c l₁ l₂, u.Fails b c l₁ l₂ ∧ l.registry.idOf? u c ≠ some d.id ∧
          d.id ∉ l₁.registry.poisoned ∧ d.id ∈ l₂.registry.poisoned ∧ ¬Retracts l₁ l₂ d.id) := by
  obtain ⟨walked, hc⟩ := SourceUnit.extract_completed h
  intro d hd named poisoned
  refine ⟨hc.reported_iff, fun spelled silent => ?_⟩
  rw [hc.reported_iff] at silent
  have shown := Name.display_of_ne named
  -- what is pruned is reported, so the walk poisoned it
  have poisoned' : d.id ∈ walked.registry.poisoned := by
    refine (hc.pruned.poisoned.1 poisoned).resolve_right fun pruned => silent ?_
    rw [← shown]
    exact .pruned hc.walk pruned.1 pruned.2 hd
  obtain ⟨pre, c, post, l₁, l₂, he, hw, step, before, after⟩ :=
    hc.walk.exists_step (P := fun l => d.id ∈ l.registry.poisoned) (fun h => by cases h) poisoned'
  have hs₁ := (hw.advances (SourceUnit.sound_start u b)).sound
  obtain ⟨e, l₃, run, own, hid⟩ := fails_of_poisons hs₁ step before after
  have fails : u.Fails b c l₁ l₃ := ⟨pre, post, e, he, hw, run, own⟩
  obtain ⟨l₂', step', grows⟩ := hc.step he hw
  rw [step] at step'
  cases step'
  -- a declaration of the top level that fails is reported as it is spelled
  have other : l.registry.idOf? u c ≠ some d.id := by
    intro hidc
    have text := hc.sound.registry.text_eq hidc hd
    rw [SourceUnit.spellingOf_of_declSpelling (text ▸ named),
      ← spelled c (by rw [he]; simp)] at text
    exact silent (text ▸ .failed fails)
  rcases hid with hid | ⟨⟨d', hd', tag⟩, hid⟩
  · exact absurd (grows.idOf? hid) other
  · obtain ⟨d'', hd'', ho⟩ := grows.globals hd'
    rw [hd] at hd''
    cases hd''
    refine ⟨(Global.isTag_of_outline ho).trans tag, c, l₁, l₃, fails, other, before, hid,
      fun retracted => silent ?_⟩
    rw [← shown]
    exact .withdrawn fails retracted hd

/-- Here `struct O` holds the definition of `struct D`, whose field has a type that cannot be
represented, and a field of that type. -/
def buriedUnit : SourceUnit where
  spelling := "test.c"
  cursors := #[
    { kind := .other "TRANSLATION_UNIT", spelling := "test.c", children := [.node 1] },
    { kind := .structDecl, spelling := "O", file := some "test.c", line := 1, column := 8,
      definition := some (.node 1), type := .node 0, children := [.node 2, .node 4],
      usr := "c:@S@O" },
    { kind := .structDecl, spelling := "D", file := some "test.c", line := 1, column := 19,
      definition := some (.node 2), type := .node 1, children := [.node 3], usr := "c:@S@O@S@D" },
    { kind := .fieldDecl, spelling := "x", file := some "test.c", line := 1, column := 32,
      type := .node 2, offset := 0 },
    { kind := .fieldDecl, spelling := "d", file := some "test.c", line := 1, column := 37,
      type := .node 1, offset := 0 }]
  types := #[
    { kind := .record, spelling := "struct O", decl := .node 1, size := 16, align := 16 },
    { kind := .record, spelling := "struct D", decl := .node 2, size := 16, align := 16 },
    { kind := .int128, spelling := "__int128" }]

theorem buriedUnit_silent : ∃ g l d, buriedUnit.extract [] = (.ok g, l) ∧
    l.registry.globals.get? d.id = some d ∧ d.name.text = "D" ∧ d.id ∈ l.registry.poisoned ∧
    ¬∃ δ ∈ g.diagnostics, δ.name = d.name.text := by
  have yields : buriedUnit.yields [] fun g l => (l.registry.globals.get? 1).any fun d =>
      d.id = 1 ∧ d.name.text = "D" ∧ l.registry.isPoisoned 1 ∧
        ∀ δ ∈ g.diagnostics, δ.name ≠ "D" := by decide +kernel
  obtain ⟨g, l, h, hp⟩ := SourceUnit.exists_of_yields yields
  obtain ⟨d, hd, hp⟩ := (Option.any_eq_true _ _).1 hp
  obtain ⟨hid, text, poisoned, silent⟩ := of_decide_eq_true hp
  refine ⟨g, l, d, h, hid ▸ hd, text, hid ▸ of_decide_eq_true poisoned, ?_⟩
  rintro ⟨δ, hδ, hn⟩
  exact silent δ hδ (hn.trans text)

/-- The definition of `struct D` is skipped, and no report names it. -/
theorem nested_failure_unreported : ∃ g l d, buriedUnit.extract [] = (.ok g, l) ∧
    l.registry.globals.get? d.id = some d ∧ d.name.text ≠ "" ∧ d.id ∈ l.registry.poisoned ∧
    ¬∃ δ ∈ g.diagnostics, δ.name = d.name.text := by
  obtain ⟨g, l, d, h, hd, text, hp, silent⟩ := buriedUnit_silent
  exact ⟨g, l, d, h, hd, by rw [text]; decide, hp, silent⟩

/-- It is poisoned while another declaration of the top level fails. -/
theorem nested_failure_poisoned : ∃ g l d, buriedUnit.extract [] = (.ok g, l) ∧
    l.registry.globals.get? d.id = some d ∧ d.name.text ≠ "" ∧ d.id ∈ l.registry.poisoned ∧
    ¬buriedUnit.Announced [] l d.name.text ∧ d.form.isTag = true ∧
    ∃ c l₁ l₂, buriedUnit.Fails [] c l₁ l₂ ∧ l.registry.idOf? buriedUnit c ≠ some d.id ∧
      d.id ∉ l₁.registry.poisoned ∧ d.id ∈ l₂.registry.poisoned ∧ ¬Retracts l₁ l₂ d.id := by
  obtain ⟨g, l, d, h, hd, text, hp, silent⟩ := buriedUnit_silent
  have named : d.name.text ≠ "" := by rw [text]; decide
  obtain ⟨reported, unlisted⟩ := skipped_declaration_reported_iff h d hd named hp
  exact ⟨g, l, d, h, hd, named, hp, fun ha => silent (reported.2 ha),
    unlisted (by decide +kernel) silent⟩

end DeclAtlas
