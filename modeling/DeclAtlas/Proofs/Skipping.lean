import DeclAtlas.Proofs.Completed

/-! Skipped declarations that are in the graph all the same. Poison is never lifted and never
asked about when a declaration is listed, so a declaration can be skipped and then listed by a
later redeclaration. It is said here exactly which declarations of the graph are poisoned: those
of which one declaration failed, and records and enums that a failure poisoned on its way. -/

namespace DeclAtlas

/-- The walk comes to `c` with the listing `l₁`, and extracting it fails for a reason of its own. -/
def SourceUnit.Fails (u : SourceUnit) (b : List BuiltinEntry) (c : CursorId) (l₁ l₂ : Listing) :
    Prop :=
  ∃ pre post e, u.topLevel = pre ++ c :: post ∧ Walked u pre (.ofBuiltins (.ofEntries b)) l₁ ∧
    visitDeclaration u u.recursion c l₁ = (.error e, l₂) ∧ e.isLocal = true

section steps

open Listing

variable {u : SourceUnit} {c : CursorId} {cs : List CursorId} {l l₁ l₂ l' : Listing} {id : Int}

theorem Walked.unique (h : Walked u cs l l₁) (h' : Walked u cs l l₂) : l₁ = l₂ := by
  induction h with
  | nil => cases h'; rfl
  | cons step _ ih =>
    obtain - | ⟨step', rest'⟩ := h'
    rw [step] at step'
    cases step'
    exact ih rest'

theorem Walked.exists_step {P : Listing → Prop} (h : Walked u cs l l') (hl : ¬P l) (hl' : P l') :
    ∃ pre c post l₁ l₂, cs = pre ++ c :: post ∧ Walked u pre l l₁ ∧
      visitOne u c l₁ = (.ok (), l₂) ∧ ¬P l₁ ∧ P l₂ := by
  induction h with
  | nil => exact absurd hl' hl
  | @cons c cs l m _ step _ ih =>
    by_cases hm : P m
    · exact ⟨[], c, cs, l, m, rfl, .nil, step, hl, hm⟩
    · obtain ⟨pre, d, post, l₁, l₂, he, hw, h⟩ := ih hm hl'
      exact ⟨c :: pre, d, post, l₁, l₂, by rw [he, List.cons_append], .cons step hw, h⟩

theorem Declared.poisoned_eq (h : Declared u c l l') (hs : l.Sound u) :
    l'.registry.poisoned = l.registry.poisoned := by
  cases h with
  | visited visit _ => exact (visit.proceeds hs).succeeds.poisoned
  | @typed _ _ _ t visit _ _ known outline own _ =>
    have hp := visit.proceeds hs
    exact (succeeds_addTyped t hp.sound known outline own).poisoned.trans hp.succeeds.poisoned

theorem Visit.poisons_tags {S : CursorId → Prop} {o : Option Fault} (h : Visit u S l o l')
    (hs : l.Sound u) (hid : id ∈ l'.registry.poisoned) :
    id ∈ l.registry.poisoned ∨ l'.registry.HoldsTag id := by
  induction h with
  | done | halt | undeclarable => exact .inl hid
  | noted n rest ih => exact ih (hs.congr rfl rfl rfl) hid
  | looked look rest ih =>
    have hp := proceeds_lookup hs look
    exact hp.succeeds.poisoned ▸ ih hp.sound hid
  | incomplete place undefined known tag unlisted rest ih =>
    have hp := proceeds_enterIncomplete hs known tag
    exact hp.succeeds.poisoned ▸ ih hp.sound hid
  | enumerated place look form rest ih =>
    have hp := proceeds_enterEnum hs look form
    exact hp.succeeds.poisoned ▸ ih hp.sound hid
  | @recorded _ _ _ _ _ _ _ g ms place look form inside gathered rest ihin ih =>
    have hs₁ := (proceeds_lookup hs look).sound.startDefining g.id
    have hp := proceeds_enterRecord ms hs look form (inside.proceeds hs₁)
    exact hp.succeeds.poisoned ▸ ih hp.sound hid
  | @failed _ l l₁ l₂ l₃ _ g e _ place look tag inside given ihin =>
    have hl := proceeds_lookup hs look
    have hs₁ := hl.sound.startDefining g.id
    obtain ⟨hs₂, hm, -⟩ := inside.frame hs₁
    obtain ⟨-, hlocal, hother⟩ := abandon_error hs₂ given
    have grows := (reverts_abandon hs₂ given).grows
    have before (h : id ∈ l₂.registry.poisoned) :
        id ∈ l.registry.poisoned ∨ l₃.registry.HoldsTag id :=
      (ihin hs₁ h).imp (hl.succeeds.poisoned ▸ ·) grows.holdsTag
    cases he : e.isLocal with
    | false => exact before (hother he ▸ hid)
    | true =>
      rcases (hlocal he).poisoned.1 hid with hid | ⟨hnew, hlisted, -⟩
      · rcases IdSet.mem_insert.1 hid with rfl | hid
        · have held : l₁.registry.HoldsTag g.id := ⟨g, (known_of_lookup hs look).2, tag he⟩
          exact .inr (grows.holdsTag (hm.registry.holdsTag held))
        · exact before hid
      · -- what is withdrawn was listed by the visit inside
        obtain ⟨new, -, ha, -, -, hn⟩ := hm.listings
        rw [ha] at hnew
        have hnew : id ∈ new := by simpa [startDefining] using hnew
        exact .inr (grows.holdsTag ((inside.lists_tags hs₁ hlisted).resolve_left (hn id hnew)))

/-- A step that poisons a declaration fails; the declaration is its own, or a record or enum that
the visit poisoned. -/
theorem fails_of_poisons (hs : l.Sound u) (step : visitOne u c l = (.ok (), l'))
    (before : id ∉ l.registry.poisoned) (after : id ∈ l'.registry.poisoned) :
    ∃ e l₁, visitDeclaration u u.recursion c l = (.error e, l₁) ∧ e.isLocal = true ∧
      (l'.registry.idOf? u c = some id ∨
        l'.registry.HoldsTag id ∧ id ∈ l₁.registry.poisoned) := by
  cases visitOne_extracted hs step with
  | declared _ declared => exact absurd (declared.poisoned_eq hs ▸ after) before
  | @skipped l₁ e i run own visit known =>
    refine ⟨e, l₁, run, own, ?_⟩
    rw [skipped_eq known] at after ⊢
    rcases IdSet.mem_insert.1 after with rfl | after
    · exact .inl known
    · exact .inr ⟨(visit.poisons_tags hs after).resolve_left before, after⟩

theorem poisoned_of_fails {l₁ : Listing} {e : Fault} (hs : l.Sound u)
    (step : visitOne u c l = (.ok (), l'))
    (run : visitDeclaration u u.recursion c l = (.error e, l₁)) :
    (∃ i, l'.registry.idOf? u c = some i ∧ i ∈ l'.registry.poisoned) ∧
      ∀ {i}, i ∈ l₁.registry.poisoned → i ∈ l'.registry.poisoned := by
  cases visitOne_extracted hs step with
  | declared run' _ => rw [run] at run'; cases run'
  | skipped run' _ _ known =>
    rw [run] at run'
    cases run'
    rw [skipped_eq known]
    exact ⟨⟨_, known, IdSet.mem_insert.2 (.inl rfl)⟩, (Registry.grows_poison _ _).poisoned⟩

end steps

section completed

variable {u : SourceUnit} {b : List BuiltinEntry} {walked l l₁ : Listing} {g : Graph}
  {pre post : List CursorId} {c : CursorId}

theorem Completed.step_rest (h : Completed u b walked l g) (he : u.topLevel = pre ++ c :: post)
    (hw : Walked u pre (.ofBuiltins (.ofEntries b)) l₁) :
    ∃ l₂, visitOne u c l₁ = (.ok (), l₂) ∧ l₂.Sound u ∧ Walked u post l₂ walked := by
  obtain ⟨l₁', hw', hrest⟩ := (he ▸ h.walk).split
  obtain rfl := hw.unique hw'
  obtain - | ⟨step, rest⟩ := hrest
  have hs := (hw.advances (SourceUnit.sound_start u b)).sound
  exact ⟨_, step, ((visitOne_extracted hs step).advances hs).sound, rest⟩

theorem Completed.step (h : Completed u b walked l g) (he : u.topLevel = pre ++ c :: post)
    (hw : Walked u pre (.ofBuiltins (.ofEntries b)) l₁) :
    ∃ l₂, visitOne u c l₁ = (.ok (), l₂) ∧ l₂.registry.Grows l.registry := by
  obtain ⟨l₂, step, hs₂, rest⟩ := h.step_rest he hw
  exact ⟨l₂, step, (rest.advances hs₂).registry.trans h.grows_pruned⟩

end completed

/-- A declaration of the graph is poisoned exactly when one of its own declarations failed, or it
is a record or enum and the failure of some declaration poisoned it. -/
theorem poisoned_declaration_iff {u : SourceUnit} {b : List BuiltinEntry} {g : Graph} {l : Listing}
    (h : u.extract b = (.ok g, l)) :
    ∀ d ∈ g.declarations, d.id ∈ l.registry.poisoned ↔
      ∃ c l₁ l₂, u.Fails b c l₁ l₂ ∧ (l.registry.idOf? u c = some d.id ∨
        d.form.isTag = true ∧ d.id ∈ l₂.registry.poisoned) := by
  obtain ⟨walked, hc⟩ := SourceUnit.extract_completed h
  have start := SourceUnit.sound_start u b
  intro d hd
  obtain ⟨hl, hget⟩ := hc.mem_declarations.1 hd
  constructor
  · intro hp
    -- a declaration that pruning poisons is not listed any more
    have hp' : d.id ∈ walked.registry.poisoned :=
      (hc.pruned.poisoned.1 hp).resolve_right fun h => h.2 hl
    obtain ⟨pre, c, post, l₁, l₂, he, hw, step, before, after⟩ :=
      hc.walk.exists_step (P := fun l => d.id ∈ l.registry.poisoned) (fun h => by cases h) hp'
    have hs₁ := (hw.advances start).sound
    obtain ⟨e, l₃, run, own, hid⟩ := fails_of_poisons hs₁ step before after
    obtain ⟨l₂', step', grows⟩ := hc.step he hw
    rw [step] at step'
    cases step'
    refine ⟨c, l₁, l₃, ⟨pre, post, e, he, hw, run, own⟩, hid.imp grows.idOf? fun hid => ?_⟩
    obtain ⟨d', hd', ht⟩ := grows.holdsTag hid.1
    rw [hget] at hd'
    cases hd'
    exact ⟨ht, hid.2⟩
  · rintro ⟨c, l₁, l₂, ⟨pre, post, e, he, hw, run, own⟩, hid⟩
    obtain ⟨l₃, step, grows⟩ := hc.step he hw
    obtain ⟨⟨i, hi, hp⟩, hkeep⟩ := poisoned_of_fails (hw.advances start).sound step run
    rcases hid with hid | ⟨-, hid⟩
    · obtain rfl := Option.some.inj ((grows.idOf? hi).symm.trans hid)
      exact grows.poisoned hp
    · exact grows.poisoned (hkeep hid)

/-- Here `struct R` cannot be represented, and `enum E` in its text is skipped with it. The function
`f` is declared twice, first with a parameter of that enum and then with an unsigned one. -/
def redeclaredUnit : SourceUnit where
  spelling := "test.c"
  cursors := #[
    { kind := .other "TRANSLATION_UNIT", spelling := "test.c",
      children := [.node 1, .node 6, .node 8] },
    { kind := .structDecl, spelling := "R", file := some "test.c", line := 1, column := 8,
      definition := some (.node 1), type := .node 0, children := [.node 2, .node 4, .node 5],
      usr := "c:@S@R" },
    { kind := .enumDecl, spelling := "E", file := some "test.c", line := 1, column := 17,
      definition := some (.node 2), enumType := .node 1, children := [.node 3], usr := "c:@E@E" },
    { kind := .enumConstantDecl, spelling := "A", file := some "test.c", line := 1, column := 21 },
    { kind := .fieldDecl, spelling := "e", file := some "test.c", line := 1, column := 25,
      type := .node 2, offset := 0 },
    { kind := .fieldDecl, spelling := "x", file := some "test.c", line := 1, column := 37,
      type := .node 4, offset := 128 },
    { kind := .functionDecl, spelling := "f", file := some "test.c", line := 2, column := 6,
      type := .node 5, children := [.node 7], args := [.node 7], linkage := .external,
      usr := "c:@F@f" },
    { kind := .parmDecl, spelling := "e", file := some "test.c", line := 2, column := 15,
      type := .node 2 },
    { kind := .functionDecl, spelling := "f", file := some "test.c", line := 3, column := 6,
      canonical := some (.node 6), type := .node 6, children := [.node 9], args := [.node 9],
      linkage := .external, usr := "c:@F@f" },
    { kind := .parmDecl, spelling := "e", file := some "test.c", line := 3, column := 21,
      type := .node 1 }]
  types := #[
    { kind := .record, spelling := "struct R", decl := .node 1, size := 32, align := 16 },
    { kind := .uint, spelling := "unsigned int" },
    { kind := .elaborated, spelling := "enum E", named := .node 3, canonical := some (.node 3),
      decl := .node 2 },
    { kind := .enum, spelling := "enum E", decl := .node 2 },
    { kind := .int128, spelling := "__int128" },
    { kind := .functionProto, spelling := "void (enum E)", result := .node 7,
      params := [.node 2] },
    { kind := .functionProto, spelling := "void (unsigned int)", result := .node 7,
      params := [.node 1] },
    { kind := .void, spelling := "void" }]

theorem redeclaredUnit_yields : redeclaredUnit.yields [] fun g l =>
    g.declarations.any fun d => l.registry.isPoisoned d.id := by
  decide +kernel

/-- The function is skipped and stands in the graph. -/
theorem redeclared_function_listed_and_poisoned :
    ∃ g l, redeclaredUnit.extract [] = (.ok g, l) ∧
      ∃ d ∈ g.declarations, d.id ∈ l.registry.poisoned := by
  obtain ⟨g, l, h, hp⟩ := SourceUnit.exists_of_yields redeclaredUnit_yields
  obtain ⟨d, hd, hp⟩ := List.any_eq_true.1 hp
  exact ⟨g, l, h, d, hd, of_decide_eq_true hp⟩

/-- One of its declarations is to blame for it. -/
theorem redeclared_function_fails :
    ∃ g l, redeclaredUnit.extract [] = (.ok g, l) ∧ ∃ d ∈ g.declarations,
      ∃ c l₁ l₂, redeclaredUnit.Fails [] c l₁ l₂ ∧
        (l.registry.idOf? redeclaredUnit c = some d.id ∨
          d.form.isTag = true ∧ d.id ∈ l₂.registry.poisoned) := by
  obtain ⟨g, l, h, hp⟩ := SourceUnit.exists_of_yields redeclaredUnit_yields
  obtain ⟨d, hd, hp⟩ := List.any_eq_true.1 hp
  exact ⟨g, l, h, d, hd, (poisoned_declaration_iff h d hd).1 (of_decide_eq_true hp)⟩

end DeclAtlas
