import DeclAtlas.Proofs.Coherence
import DeclAtlas.Proofs.Completed

/-! The graph holds what the top level declares. No interleaving of listing, poisoning,
withdrawing and pruning loses a declaration silently or lists it twice, and of functions,
variables and typedefs nothing is listed that the source does not offer. -/

namespace DeclAtlas

/-- A declaration of the source that the walk comes to and that has to answer for itself. -/
def SourceUnit.Candidate (u : SourceUnit) (c : CursorId) : Prop :=
  u.Reached SourceUnit.root c ∧ u.isImplicit c = false ∧ u.IsBinding c

namespace Listing

variable {u : SourceUnit} {cs : List CursorId} {l l' : Listing}

/-- Every listed identity that is no record or enum belongs to one of some declarations. -/
def Vouched (u : SourceUnit) (cs : List CursorId) (l : Listing) : Prop :=
  ∀ id ∈ l.order, l.registry.HoldsTag id ∨
    ∃ c ∈ cs, u.IsBinding c ∧ l.registry.idOf? u c = some id

theorem Vouched.of_grows (h : l.Vouched u cs) (grows : l.registry.Grows l'.registry)
    (listed : ∀ {id}, id ∈ l'.order → id ∈ l.order ∨ l'.registry.HoldsTag id) :
    l'.Vouched u cs := by
  intro id hid
  rcases listed hid with hid | ht
  · refine (h id hid).imp grows.holdsTag ?_
    rintro ⟨c, hc, hb, hid⟩
    exact ⟨c, hc, hb, grows.idOf? hid⟩
  · exact .inl ht

theorem Vouched.visit {S : CursorId → Prop} {o : Option Fault} (h : l.Vouched u cs)
    (hv : Visit u S l o l') (hs : l.Sound u) : l'.Vouched u cs :=
  h.of_grows (hv.frame hs).2.1.registry fun hid => hv.lists_tags hs hid

end Listing

section steps

open Listing

variable {u : SourceUnit} {cs : List CursorId} {c : CursorId} {l l' : Listing}

theorem Extracted.vouched (h : Extracted u c l l') (hs : l.Sound u) (hc : c ∈ cs)
    (hv : l.Vouched u cs) : l'.Vouched u cs := by
  cases h with
  | declared _ declared =>
    cases declared with
    | visited visit _ => exact hv.visit visit hs
    | @typed l₁ g g₁ t visit kind binding known outline own _ =>
      have hp := visit.proceeds hs
      have grows := (succeeds_addTyped t hp.sound known outline own).registry
      intro id hid
      rcases (mem_addTyped_order own).1 hid with hid | rfl
      · refine (hv.visit visit hs id hid).imp grows.holdsTag ?_
        rintro ⟨c, hc, hb, hid⟩
        exact ⟨c, hc, hb, grows.idOf? hid⟩
      · refine .inr ⟨c, hc, binding, grows.idOf? ?_⟩
        rw [Global.id_of_outline outline]
        exact (hp.sound.registry.globalOf?_eq_some.1 known).1
  | @skipped l₁ e id _ _ visit known =>
    rw [skipped_eq known]
    refine (hv.visit visit hs).of_grows (Registry.grows_poison _ _) fun hid => .inl ?_
    exact List.mem_of_mem_erase hid

theorem Walked.vouched (h : Walked u cs l l') (hs : l.Sound u) (hv : l.Vouched u cs) :
    l'.Vouched u cs := by
  have step : ∀ {c l l'}, c ∈ cs → l.Sound u ∧ l.Vouched u cs → visitOne u c l = (.ok (), l') →
      l'.Sound u ∧ l'.Vouched u cs := by
    intro c l l' hc ⟨hs, hv⟩ hstep
    have hx := visitOne_extracted hs hstep
    exact ⟨(hx.advances hs).sound, hx.vouched hs hc hv⟩
  exact (h.induct (P := fun l => l.Sound u ∧ l.Vouched u cs) step ⟨hs, hv⟩).2

end steps

namespace Completed

variable {u : SourceUnit} {b : List BuiltinEntry} {walked l : Listing} {g : Graph}

theorem answered (h : Completed u b walked l g) {c : CursorId} (hc : u.Candidate c) :
    l.Answered u c := by
  exact (h.answered_top hc.1 hc.2.1 hc.2.2).kept h.grows_pruned h.kept_pruned

end Completed

/-- Every candidate is bound elsewhere, or skipped, or stands in the graph exactly once; and where
canonical cursors have the kind of the cursors they stand for, every function, variable and
typedef of the graph is the global of a candidate of that kind. -/
theorem declarations_of_top_level {u : SourceUnit} {b : List BuiltinEntry} {g : Graph}
    {l : Listing} (h : u.extract b = (.ok g, l)) :
    (∀ c, u.Candidate c → ∃ d, l.registry.globalOf? u c = some d ∧
      (d.isBuiltin = true ∨ d.id ∈ l.registry.poisoned ∨
        g.declarations.filter (·.same d) = [d])) ∧
    ((∀ c, u.isFound c = true → u.kind (u.canonical c) = u.kind c) →
      ∀ d ∈ g.declarations, d.form.isTag = false →
        ∃ c, u.Candidate c ∧ d.form.cursorKind? = some (u.kind c) ∧
          l.registry.globalOf? u c = some d ∧ d.isBuiltin = false) := by
  obtain ⟨walked, hc⟩ := SourceUnit.extract_completed h
  refine ⟨fun c hcand => ?_, fun hkind d hd htag => ?_⟩
  · obtain ⟨d, hd, hd'⟩ := hc.answered hcand
    refine ⟨d, hd, hd'.imp_right (.imp_right fun hl => hc.filter_same (hc.mem_declarations.2 ?_))⟩
    exact ⟨hl, (hc.sound.registry.globalOf?_eq_some.1 hd).2⟩
  · obtain ⟨hl, hget⟩ := hc.mem_declarations.1 hd
    have vouched : walked.Vouched u u.topLevel :=
      hc.walk.vouched (SourceUnit.sound_start u b) fun _ h => by cases h
    have own : d.isBuiltin = false := by
      obtain ⟨d', hd', hb⟩ := hc.sound.listed hl
      rw [hget] at hd'; cases hd'
      exact hb
    rcases vouched d.id (hc.pruned.order.subset hl) with ht | ⟨c, hc', hb, hid⟩
    · obtain ⟨d', hd', ht⟩ := hc.grows_pruned.holdsTag ht
      rw [hget] at hd'; cases hd'
      rw [htag] at ht; cases ht
    · obtain ⟨hr, hi, -⟩ := SourceUnit.reached_of_mem_topWithin hc'
      have hd := hc.sound.registry.globalOf?_eq_some.2 ⟨hc.grows_pruned.idOf? hid, hget⟩
      have found : u.isFound c = true := by
        unfold SourceUnit.isFound
        unfold SourceUnit.IsBinding at hb
        cases hk : u.kind c <;> rw [hk] at hb <;> first | rfl | cases hb
      refine ⟨c, ⟨hr, hi, hb⟩, ?_, hd, own⟩
      rw [hc.sound.registry.cursorKind?_eq hd own, hkind c found]

/-- Here the variable `v` is declared twice, `w` is internal to the unit, and `T` is a typedef. -/
def redeclaringUnit : SourceUnit where
  spelling := "test.c"
  cursors := #[
    { kind := .other "TRANSLATION_UNIT", spelling := "test.c",
      children := [.node 1, .node 2, .node 3, .node 4] },
    { kind := .varDecl, spelling := "v", file := some "test.c", line := 1, column := 12,
      type := .node 0, linkage := .external },
    { kind := .varDecl, spelling := "v", file := some "test.c", line := 2, column := 12,
      canonical := some (.node 1), type := .node 0, linkage := .external },
    { kind := .varDecl, spelling := "w", file := some "test.c", line := 3, column := 12,
      type := .node 0, linkage := .internal },
    { kind := .typedefDecl, spelling := "T", file := some "test.c", line := 4, column := 13,
      underlying := .node 0 }]
  types := #[{ kind := .int, spelling := "int" }]

/-- The redeclared variable answers for itself, and what the graph holds is vouched for. -/
theorem redeclared_variable_listed_once : ∃ g l, redeclaringUnit.extract [] = (.ok g, l) ∧
    (∃ d, l.registry.globalOf? redeclaringUnit (.node 2) = some d ∧
      (d.isBuiltin = true ∨ d.id ∈ l.registry.poisoned ∨
        g.declarations.filter (·.same d) = [d])) ∧
    ∃ d ∈ g.declarations, ∃ c, redeclaringUnit.Candidate c ∧
      d.form.cursorKind? = some (redeclaringUnit.kind c) ∧
      l.registry.globalOf? redeclaringUnit c = some d ∧ d.isBuiltin = false := by
  have yields : redeclaringUnit.yields [] fun g _ =>
      g.declarations.any fun d => !d.form.isTag := by decide +kernel
  have coherent : redeclaringUnit.Coherent := by decide +kernel
  have candidate : redeclaringUnit.Candidate (.node 2) :=
    ⟨.child (by decide +kernel), by decide +kernel, .inl rfl⟩
  obtain ⟨g, l, h, hp⟩ := SourceUnit.exists_of_yields yields
  obtain ⟨d, hd, htag⟩ := List.any_eq_true.1 hp
  obtain ⟨answered, vouched⟩ := declarations_of_top_level h
  exact ⟨g, l, h, answered _ candidate, d, hd,
    vouched (fun _ hc => coherent.kind (.inl hc)) d hd (by simpa using htag)⟩

end DeclAtlas
