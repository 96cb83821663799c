import DeclAtlas.Proofs.Frame

/-! Steps as visits. `Runs` says of a step in a listing that whatever it does is a visit, and
what holds of its result; `FailsWithin` says which faults may stop it. The rules put the steps of
a sequence together. -/

namespace DeclAtlas

/-- What the step `x` does to `l` is a visit, and its result satisfies `Q`. -/
def Runs {α : Type} (u : SourceUnit) (S : CursorId → Prop) (l : Listing)
    (x : Step Fault Listing α) (Q : α → Listing → Prop) : Prop :=
  match x l with
  | (.ok a, l') => Visit u S l none l' ∧ Q a l'
  | (.error e, l') => Visit u S l (some e) l'

namespace Runs

variable {α β : Type} {u : SourceUnit} {S : CursorId → Prop} {l l₁ : Listing}
  {x y : Step Fault Listing α} {f : α → Step Fault Listing β}
  {Q R : α → Listing → Prop} {T : β → Listing → Prop}

theorem pure {a : α} (h : Q a l) : Runs u S l (Pure.pure a) Q := ⟨.done, h⟩

theorem fail (e : Fault) : Runs u S l (Step.fail e) Q := .halt e

theorem ok {a : α} {l' : Listing} (h : Runs u S l x Q) (hx : x l = (.ok a, l')) :
    Visit u S l none l' ∧ Q a l' := by
  unfold Runs at h; rw [hx] at h; exact h

theorem error {e : Fault} {l' : Listing} (h : Runs u S l x Q) (hx : x l = (.error e, l')) :
    Visit u S l (some e) l' := by
  unfold Runs at h; rw [hx] at h; exact h

theorem of_ok {a : α} {l' : Listing} (hx : x l = (.ok a, l')) (hv : Visit u S l none l')
    (hq : Q a l') : Runs u S l x Q := by
  unfold Runs; rw [hx]; exact ⟨hv, hq⟩

theorem of_error {e : Fault} {l' : Listing} (hx : x l = (.error e, l'))
    (hv : Visit u S l (some e) l') : Runs u S l x Q := by
  unfold Runs; rw [hx]; exact hv

theorem after (hv : Visit u S l none l₁) (hx : Runs u S l₁ y Q) (h : x l = y l₁) :
    Runs u S l x Q := by
  unfold Runs at hx ⊢
  rw [h]
  split <;> rename_i he <;> rw [he] at hx
  · exact ⟨hv.append rfl hx.1, hx.2⟩
  · exact hv.append rfl hx

theorem bind (hs : l.Sound u) (hx : Runs u S l x Q)
    (hf : ∀ a l', l.Proceeds u l' → Q a l' → Runs u S l' (f a) T) : Runs u S l (x >>= f) T := by
  rcases he : x l with ⟨e | a, l'⟩
  · exact .of_error (by rw [Step.bind_run, he]) (hx.error he)
  · obtain ⟨hv, hq⟩ := hx.ok he
    refine .after hv (hf a l' (hv.proceeds hs) hq) ?_
    rw [Step.bind_run, he]

theorem bind_read {k : Listing → α} (h : Runs u S l (f (k l)) T) :
    Runs u S l (Step.read k >>= f) T := h

theorem mono (hs : l.Sound u) (h : Runs u S l x Q)
    (hq : ∀ a l', l.Proceeds u l' → Q a l' → R a l') : Runs u S l x R := by
  rcases he : x l with ⟨e | a, l'⟩
  · exact .of_error he (h.error he)
  · obtain ⟨hv, hqa⟩ := h.ok he
    exact .of_ok he hv (hq a l' (hv.proceeds hs) hqa)

theorem map {k : α → β} (hs : l.Sound u) (h : Runs u S l x Q)
    (hq : ∀ a l', l.Proceeds u l' → Q a l' → T (k a) l') :
    Runs u S l (do let a ← x; Pure.pure (k a)) T :=
  h.bind hs fun a l' hp hqa => .pure (hq a l' hp hqa)

theorem ite {p : Prop} [Decidable p] (hx : p → Runs u S l x Q) (hy : ¬p → Runs u S l y Q) :
    Runs u S l (if p then x else y) Q := by
  split
  · exact hx ‹_›
  · exact hy ‹_›

end Runs

/-- In `l` the step `x` fails with faults in `E` only. -/
def FailsWithin {α : Type} (E : Fault → Prop) (l : Listing) (x : Step Fault Listing α) : Prop :=
  ∀ e l', x l = (.error e, l') → E e

namespace FailsWithin

variable {α β : Type} {E : Fault → Prop} {u : SourceUnit} {S : CursorId → Prop} {l : Listing}
  {x y : Step Fault Listing α} {f : α → Step Fault Listing β} {Q : α → Listing → Prop}

theorem of_ok {a : α} {l' : Listing} (h : x l = (.ok a, l')) : FailsWithin E l x := by
  intro e l'' he
  rw [h] at he
  cases he

theorem pure (a : α) : FailsWithin E l (Pure.pure a) := of_ok rfl

theorem fail {e : Fault} (h : E e) : FailsWithin E l (Step.fail e : Step Fault Listing α) := by
  intro e' l' he
  cases he
  exact h

/-- What follows fails within `E` where the first step may lead. -/
theorem bind (hs : l.Sound u) (runs : Runs u S l x Q) (hx : FailsWithin E l x)
    (hf : ∀ a l', l.Proceeds u l' → Q a l' → FailsWithin E l' (f a)) :
    FailsWithin E l (x >>= f) := by
  intro e l' h
  rw [Step.bind_run] at h
  rcases hrun : x l with ⟨e' | a, l₁⟩ <;> rw [hrun] at h
  · cases h
    exact hx e l' hrun
  · obtain ⟨hv, hq⟩ := runs.ok hrun
    exact hf a l₁ (hv.proceeds hs) hq e l' h

/-- What follows fails within `E` wherever it starts. -/
theorem map (hx : FailsWithin E l x) (hf : ∀ a l', FailsWithin E l' (f a)) :
    FailsWithin E l (x >>= f) := by
  intro e l' h
  rw [Step.bind_run] at h
  rcases hrun : x l with ⟨e' | a, l₁⟩ <;> rw [hrun] at h
  · cases h
    exact hx e l' hrun
  · exact hf a l₁ e l' h

theorem ite {p : Prop} [Decidable p] (hx : p → FailsWithin E l x) (hy : ¬p → FailsWithin E l y) :
    FailsWithin E l (if p then x else y) := by
  split
  · exact hx ‹_›
  · exact hy ‹_›

end FailsWithin

section stable

variable {u : SourceUnit} {l l' : Listing} {c : CursorId} {g : Global}

theorem Listing.Fulfilled.proceeds (hf : l.Fulfilled u c) (h : l.Proceeds u l') :
    l'.Fulfilled u c := by
  obtain ⟨g, hg, hl⟩ := hf
  obtain ⟨g', hg', ho⟩ := h.succeeds.registry.globalOf? hg
  refine ⟨g', hg', ?_⟩
  rw [Global.isBuiltin_of_outline ho, Global.id_of_outline ho]
  exact hl.imp_right h.succeeds.mem_order

theorem Listing.Anchored.proceeds {i : Int} (ha : l.Anchored u i) (h : l.Proceeds u l') :
    l'.Anchored u i := by
  obtain ⟨d, g, hd, hg, hi, hb, htag, hname⟩ := ha
  obtain ⟨g', hg', ho⟩ := h.succeeds.registry.globalOf? hg
  refine ⟨d, g', hd, hg', (Global.id_of_outline ho).trans hi,
    (Global.isBuiltin_of_outline ho).trans hb, ?_, ?_⟩ <;> rw [Global.isTag_of_outline ho]
  · intro ht
    rw [Global.id_of_outline ho]
    rcases htag ht with hl | hl | ⟨k, hk, hf⟩
    · exact .inl (h.succeeds.mem_order hl)
    · exact (h.succeeds.underway (.inr hl)).imp_right .inl
    · exact .inr (.inr ⟨k, hk, fun hi => (hf hi).proceeds h⟩)
  · exact hname

end stable

end DeclAtlas
