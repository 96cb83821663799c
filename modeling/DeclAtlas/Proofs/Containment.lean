import DeclAtlas.Proofs.Concluded
import DeclAtlas.Proofs.Demand
import DeclAtlas.Proofs.Isolation

/-! No fault of a single declaration ends an extraction. Where the kinds that the front end reports
fit together, whatever is looked up can be registered, and whatever is declared or defined as a
record or enum is one; so the only faults are those that a declaration is skipped for, and the end
of the bounds on nesting. -/

namespace DeclAtlas

namespace SourceUnit

/-- Canonical cursors have the kind of the cursors they stand for, definitions that of the records
and enums they define, and record and enum types are declared by records and enums. -/
structure Consistent (u : SourceUnit) : Prop where
  canonical : ∀ {c}, u.isFound c = true → u.kind (u.canonical c) = u.kind c
  definition : ∀ {c k}, (u.kind c).isTag = true → u.definition? c = some k → u.kind k = u.kind c
  named : ∀ {d}, u.Named d → (u.kind d).isTag = true

variable {u : SourceUnit} {c : CursorId}

theorem consistent_iff : u.Consistent ↔
    (∀ c ∈ u.cursorIds, u.isFound c = true → u.kind (u.canonical c) = u.kind c) ∧
    (∀ c ∈ u.cursorIds, (u.kind c).isTag = true → ∀ k ∈ u.definition? c, u.kind k = u.kind c) ∧
    ∀ t ∈ u.typeIds, u.typeKind t = .record ∨ u.typeKind t = .enum →
      (u.kind (u.typeNode t).decl).isTag = true := by
  constructor
  · intro h
    exact ⟨fun c _ hc => h.canonical hc, fun c _ tag k hk => h.definition tag hk,
      fun t _ ht => h.named ⟨t, ht, rfl⟩⟩
  · rintro ⟨kinds, definitions, types⟩
    refine ⟨fun hc => kinds _ (mem_cursorIds hc) hc,
      fun tag hk => definitions _ (mem_cursorIds (isFound_of_isTag tag)) tag _ hk, ?_⟩
    rintro d ⟨t, ht, rfl⟩
    exact types t (mem_typeIds (by rcases ht with ht | ht <;> simp [ht])) ht

instance (u : SourceUnit) : Decidable u.Consistent := decidable_of_iff _ consistent_iff.symm

theorem formOf_of_isGlobal (h : (u.kind c).isGlobal = true) : ∃ f, u.formOf c = .ok f := by
  unfold formOf
  cases hk : u.kind c <;> rw [hk] at h <;> first | exact ⟨_, rfl⟩ | cases h

end SourceUnit

/-- A fault that one declaration is skipped for, or the end of the bounds. -/
def Fault.Expected (e : Fault) : Prop := e.isLocal = true ∨ e = .exhausted

abbrev Contained {α : Type} (l : Listing) (x : Step Fault Listing α) : Prop :=
  FailsWithin Fault.Expected l x

theorem lenient_expected (u : SourceUnit) : Lenient u Fault.Expected fun _ => True :=
  ⟨.inl, fun _ h => h⟩

/-- A recursion of which conversions, and definitions of records and enums, are contained. -/
structure Recursion.Contained (u : SourceUnit) (r : Recursion) : Prop where
  convert : ∀ {l} t c, l.Sound u → DeclAtlas.Contained l (r.convert t c)
  define : ∀ {l c}, l.Sound u → (u.kind c).isTag = true → DeclAtlas.Contained l (r.define c)

section lookup

open SourceUnit

variable {u : SourceUnit} {l l' : Listing} {c : CursorId} {g : Global}

theorem lookup_ok_of_isGlobal (hu : u.Consistent) (hs : l.Sound u)
    (hk : (u.kind c).isGlobal = true) : ∃ g l', Listing.lookup u c l = (.ok g, l') := by
  unfold Listing.lookup
  cases hid : l.registry.idOf? u c with
  | some id =>
    obtain ⟨g, hg, -⟩ := hs.registry.exists_global hid
    exact ⟨g, l, by simp only [Listing.globalAt, hg]⟩
  | none =>
    have hform : ∃ f, u.formOf (u.canonical c) = .ok f := by
      apply formOf_of_isGlobal
      rw [hu.canonical (isFound_of_isGlobal hk)]
      exact hk
    obtain ⟨f, hf⟩ := hform
    simp only [Registry.newGlobal, hf]
    cases l.registry.builtins.resolve? u (u.canonical c) with
    | some external => exact ⟨_, _, rfl⟩
    | none => exact ⟨_, _, rfl⟩

theorem contained_lookup (hu : u.Consistent) (hs : l.Sound u)
    (hk : (u.kind c).isGlobal = true) : Contained l (Listing.lookup u c) := by
  obtain ⟨g, l', h⟩ := lookup_ok_of_isGlobal hu hs hk
  exact .of_ok h

theorem isTag_eq_of_known (hu : u.Consistent) (hs : l.Sound u) (hk : (u.kind c).isGlobal = true)
    (hg : l.registry.globalOf? u c = some g) (own : g.isBuiltin = false) :
    g.form.isTag = (u.kind c).isTag := by
  have h := hs.registry.cursorKind?_eq hg own
  rw [hu.canonical (isFound_of_isGlobal hk)] at h
  exact Form.isTag_of_cursorKind? h

theorem contained_declareIncomplete (hu : u.Consistent) (hs : l.Sound u)
    (hk : (u.kind c).isTag = true) : Contained l (declareIncomplete u c) := by
  have hglobal := CursorKind.isGlobal_of_isTag hk
  refine .bind (S := fun _ => True) hs (runs_lookup c hs) (contained_lookup hu hs hglobal)
    fun g l₁ h₁ hg => ?_
  change Contained l₁ (if _ then _ else _)
  refine .ite (fun _ => .pure _) fun h => ?_
  have own : g.isBuiltin = false := by
    simp only [Bool.or_eq_true, not_or] at h
    simpa using h.1
  have tag := (isTag_eq_of_known hu h₁.sound hglobal hg own).trans hk
  unfold recordNoMembers
  cases hf : g.form <;> rw [hf] at tag <;> first | exact .of_ok rfl | cases tag

end lookup

section conversion

open SourceUnit

variable {u : SourceUnit} {r : Recursion} {n : Nat} {l : Listing}

theorem contained_materialize (hu : u.Consistent) (hc : r.Contained u) (hs : l.Sound u)
    {d : CursorId} (hd : (u.kind d).isTag = true) (g : Global) :
    Contained l (materialize u r d g) := by
  change Contained l (if _ then _ else _)
  refine .ite (fun _ => .pure _) fun _ => ?_
  cases hk : u.definition? d with
  | none => exact .map (contained_declareIncomplete hu hs hd) fun _ _ => .pure _
  | some k =>
    refine .ite (fun _ => .map (hc.define hs ?_) fun _ _ => .pure _) fun _ => .pure _
    rw [hu.definition hd hk]
    exact hd

theorem contained_declaredType (hu : u.Consistent) (hc : r.Contained u) (d : CursorId) :
    Complies u Fault.Expected (fun _ => True) (declaredType u r d) := by
  have global (hd : (u.kind d).isTypeDecl = true) := CursorKind.isGlobal_of_isTypeDecl hd
  refine complies_declaredType (lenient_expected u) d (fun hd l hs _ => ?_)
    (fun y _ l hs _ => hc.convert _ _ hs) fun {g l} hd hs _ hg tag => ?_
  · exact contained_lookup hu hs (global hd)
  · have own : g.isBuiltin = false := Form.isBuiltin_of_isTag tag
    refine contained_materialize hu hc hs ?_ g
    rw [← isTag_eq_of_known hu hs (global hd) hg own]
    exact tag

theorem contained_convertType (hu : u.Consistent) (hr : r.Faithful u n) (hc : r.Contained u)
    (hs : l.Sound u) (t : TypeId) (c : CursorId) : Contained l (convertType u r t c) :=
  complies_convertType hr (lenient_expected u) t c (fun _ _ _ hs _ => hc.convert _ _ hs)
    (fun d _ => contained_declaredType hu hc d) hs trivial

end conversion

section definition

open SourceUnit

variable {u : SourceUnit} {r : Recursion} {n : Nat} {l : Listing} {c : CursorId}

theorem contained_declare (hu : u.Consistent) (hc : r.Contained u) (hs : l.Sound u)
    (hk : (u.kind c).isTag = true) : Contained l (declare u r c) := by
  unfold declare
  cases u.definition? c with
  | none => exact .map (contained_declareIncomplete hu hs hk) fun _ _ => .pure _
  | some d => exact .ite (fun _ => .map (hc.define hs hk) fun _ _ => .pure _) fun _ => .pure _

theorem contained_defineTag (hu : u.Consistent) (hr : r.Faithful u n) (hc : r.Contained u)
    (hs : l.Sound u) (hk : (u.kind c).isTag = true) : Contained l (defineTag u r c) := by
  have hglobal := CursorKind.isGlobal_of_isTag hk
  refine failsWithin_defineTag hr hs (contained_lookup hu hs hglobal) fun {g l₁} look own => ?_
  have hp := Listing.proceeds_lookup hs look
  have known := hp.sound.registry.globalOf?_eq_some.2 (Listing.known_of_lookup hs look)
  have tag := (isTag_eq_of_known hu hp.sound hglobal known own).trans hk
  exact complies_visitDefinition hr (lenient_expected u) c (.inl tag) (fun _ _ => .inr rfl)
    (fun f _ _ l hs _ => hc.convert _ f hs) (fun j _ hj l hs _ => contained_declare hu hc hs hj)
    (hp.sound.startDefining g.id) trivial

end definition

namespace SourceUnit

variable {u : SourceUnit}

theorem recursionWithin_contained (hu : u.Consistent) (n : Nat) :
    (u.recursionWithin n).Contained u := by
  induction n with
  | zero => exact ⟨fun _ _ _ => .fail (.inr rfl), fun _ _ => .fail (.inr rfl)⟩
  | succ n ih =>
    have hr := u.recursionWithin_faithful n
    exact ⟨fun t c hs => contained_convertType hu hr ih hs t c,
      fun hs hk => contained_defineTag hu hr ih hs hk⟩

end SourceUnit

section walk

open SourceUnit

variable {u : SourceUnit} {r : Recursion} {n : Nat} {l : Listing} {c p : CursorId}

theorem contained_visitDeclaration (hu : u.Consistent) (hr : r.Faithful u n)
    (hc : r.Contained u) (hs : l.Sound u) (c : CursorId) :
    Contained l (visitDeclaration u r c) := by
  exact complies_visitDeclaration hr (lenient_expected u) c
    (fun hk l hs _ => contained_lookup hu hs (isGlobal_of_isTyped hk))
    (fun d named l hs _ => contained_declareIncomplete hu hs (hu.named named))
    (fun hk l hs _ => contained_declare hu hc hs hk) (fun y _ l hs _ => hc.convert _ _ hs) hs trivial

/-- A step of the walk fails only where it is cut off. -/
theorem exhausted_of_visitTop_error (hu : u.Consistent) (hs : l.Sound u) {e : Fault}
    (h : (visitTop u (u.recursionWithin n) c p l).1 = .error e) : e = .exhausted := by
  rcases hrun : visitTop u (u.recursionWithin n) c p l with ⟨result, l'⟩
  rw [hrun] at h
  obtain rfl : result = .error e := h
  cases visitTop_stepped (u.recursionWithin_faithful n) hs hrun with
  | ended run fatal =>
    have expected := contained_visitDeclaration hu (u.recursionWithin_faithful n)
      (recursionWithin_contained hu n) hs c _ _ run
    refine expected.resolve_left ?_
    rw [fatal]
    exact Bool.false_ne_true

end walk

namespace SourceUnit

open Listing

variable {u : SourceUnit}

theorem exhausted_of_walkWithin_error (hu : u.Consistent) (b : List BuiltinEntry) (n m : Nat)
    {e : Fault} (h : (u.walkWithin (visitTop u (u.recursionWithin n)) m root
      (.ofBuiltins (.ofEntries b))).1 = .error e) : e = .exhausted := by
  have step (c p : CursorId) : Step.Confined (fun l => l.Grounded u) (· = .exhausted)
      (visitTop u (u.recursionWithin n) c p) := by
    intro l hl
    have passes := passes_visitTop (u.recursionWithin_faithful n) hl.sound c p
    exact ⟨(passes.grounded hl).1, fun e he => exhausted_of_visitTop_error hu hl.sound he⟩
  exact (confined_walkWithin u step rfl m root _ (grounded_start u b)).2 e h

theorem extractWithin_ok (hu : u.Consistent) (b : List BuiltinEntry) {n m : Nat}
    (h : (u.extractWithin n m b).1 ≠ .error .exhausted) :
    ∃ g l, u.extractWithin n m b = (.ok g, l) := by
  have hw := u.passes_walkWithin n m (grounded_start u b)
  have cut (e : Fault) := exhausted_of_walkWithin_error hu b n m (e := e)
  rw [extractWithin, Step.bind_run] at h ⊢
  rcases hrun : u.walkWithin (visitTop u (u.recursionWithin n)) m root
    (.ofBuiltins (.ofEntries b)) with ⟨e | ended, walked⟩ <;> rw [hrun] at h hw cut
  · obtain rfl := cut e rfl
    exact absurd rfl h
  · obtain ⟨g, l, hend, -⟩ := u.conclude_passes (hw.grounded (grounded_start u b)).1
    exact ⟨g, l, hend⟩

end SourceUnit

/-- Where the kinds of a unit fit together, an extraction that is not cut off returns a graph:
within any bounds that suffice it returns the same one under all larger bounds, and no other fault
escapes however many declarations are skipped. -/
theorem extraction_returns {u : SourceUnit} (hu : u.Consistent) (b : List BuiltinEntry) :
    (∀ n m, (u.extractWithin n m b).1 ≠ .error .exhausted →
      ∃ g l, ∀ n' m', n ≤ n' → m ≤ m' → u.extractWithin n' m' b = (.ok g, l)) ∧
    ((u.extract b).1 ≠ .error .exhausted → ∃ g l, u.extract b = (.ok g, l)) := by
  refine ⟨fun n m h => ?_, fun h => ?_⟩
  · obtain ⟨g, l, hrun⟩ := SourceUnit.extractWithin_ok hu b h
    refine ⟨g, l, fun n' m' hn hm => ?_⟩
    rw [u.extractWithin_mono hn hm h, hrun]
  · rw [u.extract_eq_extractWithin] at h ⊢
    exact SourceUnit.extractWithin_ok hu b h

/-- Where `struct D` is skipped, and with it what the compiler provides and the variable that refers
to it, the extraction returns all the same. -/
theorem variadicUnit_returns : variadicUnit.Consistent ∧
    ∃ g l, variadicUnit.extract [] = (.ok g, l) := by
  have consistent : variadicUnit.Consistent := by decide +kernel
  have uncut : ((variadicUnit.extract []).1.casesOn (fun e => decide (e ≠ .exhausted))
      fun _ => true) = true := by decide +kernel
  refine ⟨consistent, (extraction_returns consistent []).2 fun h => ?_⟩
  rw [h] at uncut
  cases uncut

end DeclAtlas
