import DeclAtlas.Proofs.Frame

/-! What failures report. A withdrawal reports each declaration that it skips once, and nothing
else; so the reports of a whole visit are those of the declarations that it listed and took off
the list again. A definition that is given up is not among them. -/

namespace DeclAtlas

def Global.report (message : String) (g : Global) : Diagnostic :=
  { name := g.name.display, location := g.location?, message := message }

namespace Listing

variable {u : SourceUnit} {l m l' l₁ l₂ l₃ : Listing} {owner : Global} {id : Int}

/-- The reason given for what is skipped with its owner. -/
def withdrawalReason (owner : Global) : String := s!"declared inside skipped {owner.name.display}"

/-- The listing once one identity is withdrawn. -/
def withdrawOne (owner : Global) (l : Listing) (id : Int) : Listing :=
  if id ∈ l.order then
    if id ∈ l.incomplete then l.remove id
    else match l.registry.globals.get? id with
      | some g => l.skip g (withdrawalReason owner)
      | none => l
  else l

theorem withdrawOne_unlisted (h : id ∉ l.order) : l.withdrawOne owner id = l := by
  rw [withdrawOne, if_neg h]

theorem withdrawOne_incomplete (h : id ∈ l.order) (hi : id ∈ l.incomplete) :
    l.withdrawOne owner id = l.remove id := by
  rw [withdrawOne, if_pos h, if_pos hi]

theorem withdrawOne_skip {g : Global} (h : id ∈ l.order) (hi : id ∉ l.incomplete)
    (hg : l.registry.globals.get? id = some g) :
    l.withdrawOne owner id = l.skip g (withdrawalReason owner) := by
  rw [withdrawOne, if_pos h, if_neg hi, hg]

theorem Sound.withdrawOne (h : l.Sound u) (owner : Global) (id : Int) :
    (l.withdrawOne owner id).Sound u := by
  unfold Listing.withdrawOne
  split
  · split
    · exact h.remove id
    · split
      · exact h.skip _ _
      · exact h
  · exact h

theorem withdraw_eq_foldl (owner : Global) (ids : List Int) (h : l.Sound u) :
    withdraw owner ids l = (.ok (), ids.foldl (withdrawOne owner) l) := by
  induction ids generalizing l with
  | nil => rfl
  | cons id rest ih =>
    have step : withdraw owner (id :: rest) l = withdraw owner rest (l.withdrawOne owner id) := by
      by_cases hl : id ∈ l.order
      · obtain ⟨g, hg, -⟩ := h.listed hl
        obtain rfl := h.registry.own hg
        by_cases hi : g.id ∈ l.incomplete
        · rw [withdrawOne_incomplete hl hi]
          simp [withdraw, Step.bind_run, Step.read, Step.modify, isListed_eq, globalAt, hl, hg, hi]
        · rw [withdrawOne_skip hl hi hg]
          simp only [withdraw, Step.bind_run, Step.read, Step.modify, isListed_eq, globalAt, hl, hg,
            decide_true, if_true, hi, decide_false, Bool.false_eq_true, if_false]
          rfl
      · rw [withdrawOne_unlisted hl]
        simp [withdraw, Step.bind_run, Step.read, isListed_eq, hl]
    rw [step, ih (h.withdrawOne owner id), List.foldl_cons]

/-- A withdrawal reports every listed identity among `ids` that is not incomplete, each once. -/
theorem withdraw_reports (owner : Global) (ids : List Int) (h : l.Sound u) :
    ∃ gs : List Global, (gs.map Global.id).Nodup ∧
      (∀ g ∈ gs, l.registry.globals.get? g.id = some g) ∧
      (∀ id, id ∈ gs.map Global.id ↔ id ∈ ids ∧ id ∈ l.order ∧ id ∉ l.incomplete) ∧
      (ids.foldl (withdrawOne owner) l).diagnostics =
        l.diagnostics ++ gs.map (Global.report (withdrawalReason owner)) := by
  induction ids generalizing l with
  | nil => exact ⟨[], by simp, by simp, by simp, by simp⟩
  | cons id rest ih =>
    rw [List.foldl_cons]
    obtain ⟨gs, hnodup, hknown, hmem, hdiag⟩ := ih (h.withdrawOne owner id)
    by_cases hl : id ∈ l.order
    · obtain ⟨g, hg, -⟩ := h.listed hl
      obtain rfl := h.registry.own hg
      have gone {i : Int} : i ∈ l.order.erase g.id ↔ i ≠ g.id ∧ i ∈ l.order := h.nodup.mem_erase_iff
      by_cases hi : g.id ∈ l.incomplete
      · rw [withdrawOne_incomplete hl hi] at *
        refine ⟨gs, hnodup, hknown, fun i => ?_, hdiag⟩
        rw [hmem, List.mem_cons]
        change i ∈ rest ∧ i ∈ l.order.erase g.id ∧ i ∉ l.incomplete ↔ _
        rw [gone]
        grind
      · rw [withdrawOne_skip hl hi hg] at *
        change ∀ i, i ∈ gs.map Global.id ↔ i ∈ rest ∧ i ∈ l.order.erase g.id ∧ i ∉ l.incomplete
          at hmem
        refine ⟨g :: gs, ?_, fun g' hg' => ?_, fun i => ?_, ?_⟩
        · refine List.nodup_cons.2 ⟨fun hm => ?_, hnodup⟩
          exact (gone.1 ((hmem _).1 hm).2.1).1 rfl
        · rcases List.mem_cons.1 hg' with rfl | hg'
          · exact hg
          · exact hknown g' hg'
        · rw [List.map_cons, List.mem_cons, List.mem_cons, hmem, gone]
          grind
        · rw [hdiag, List.map_cons]
          change (l.diagnostics ++ [g.report _]) ++ _ = _
          rw [List.append_assoc]
          rfl
    · rw [withdrawOne_unlisted hl] at *
      refine ⟨gs, hnodup, hknown, fun i => ?_, hdiag⟩
      rw [hmem, List.mem_cons]
      grind

/-- What was listed since `l`, is not listed in `l'`, and is not incomplete either. -/
def Retracts (l l' : Listing) (id : Int) : Prop :=
  id ∈ l'.added.drop l.added.length ∧ id ∉ l'.order ∧ id ∉ l'.incomplete

/-- The reports made between two listings are those of the declarations retracted in between. -/
def Tells (l l' : Listing) : Prop :=
  ∃ gs : List Global, (∀ g ∈ gs, l'.registry.globals.get? g.id = some g) ∧
    (∀ id, id ∈ gs.map Global.id ↔ Retracts l l' id) ∧
    l'.diagnostics.map (·.name) = l.diagnostics.map (·.name) ++ gs.map (·.name.display)

theorem Succeeds.not_retracts (h : Succeeds l l') : ¬Retracts l l' id := by
  obtain ⟨new, ha, ho⟩ := h.listings
  rintro ⟨hnew, hl, -⟩
  rw [ha, List.drop_left] at hnew
  exact hl (ho ▸ List.mem_append_right _ hnew)

theorem Succeeds.tells (h : Succeeds l l') : Tells l l' :=
  ⟨[], by simp, fun _ => by simpa using h.not_retracts, by simp [h.diagnostics]⟩

theorem retracts_iff_of_succeeds (h : Succeeds l m) (hm : Moves m l') :
    Retracts l l' id ↔ Retracts m l' id := by
  obtain ⟨new, ha, ho⟩ := h.listings
  obtain ⟨new', -, ha', -⟩ := hm.listings
  have later : l'.added.drop l.added.length = new ++ new' := by
    rw [ha', ha, List.append_assoc, List.drop_left]
  have last : l'.added.drop m.added.length = new' := by rw [ha', List.drop_left]
  rw [Retracts, Retracts, later, last, List.mem_append]
  constructor
  · rintro ⟨hnew | hnew, hl, hi⟩
    · exact absurd (hm.mem_order (ho ▸ List.mem_append_right _ hnew)) hl
    · exact ⟨hnew, hl, hi⟩
  · rintro ⟨hnew, hl, hi⟩
    exact ⟨.inr hnew, hl, hi⟩

theorem Tells.after (h : Succeeds l m) (hm : Moves m l') (ht : Tells m l') : Tells l l' := by
  obtain ⟨gs, hknown, hmem, hnames⟩ := ht
  refine ⟨gs, hknown, fun id => ?_, by rw [hnames, h.diagnostics]⟩
  rw [hmem, retracts_iff_of_succeeds h hm]

theorem withdrawSince_eq_foldl (mark : Nat) (owner : Global) (h : l.Sound u) :
    withdrawSince mark owner l =
      (.ok (), (l.added.drop mark).foldl (withdrawOne owner) l) := by
  have hmark : l.addedSince mark = l.added.drop mark := by
    have : ¬(mark : Int) < 0 := by omega
    simp [addedSince, this]
  simp only [withdrawSince, Step.bind_run, Step.read, hmark, withdraw_eq_foldl owner _ h]

/-- A definition that is given up retracts all that its visit listed, and reports what the visit
had not reported itself. -/
theorem tells_abandon {g : Global} {e e' : Fault} (hs : l₂.Sound u)
    (hm : Moves (l₁.startDefining g.id) l₂) (ht : Tells (l₁.startDefining g.id) l₂)
    (given : abandon l₁.added.length g e l₂ = (.error e', l₃)) :
    Tells l₁ (l₃.stopDefining g.id) := by
  cases he : e.isLocal with
  | false =>
    obtain rfl := (abandon_error hs given).2.2 he
    exact ht
  | true =>
    have hw := (abandon_error hs given).2.1 he
    have horder : l₃.order = l₁.order := abandon_order hs hm given he
    have hrun := withdrawSince_eq_foldl l₁.added.length g (hs.poison g.id)
    rw [abandon_local he hrun] at given
    cases given
    obtain ⟨gs, hknown, hmem, hnames⟩ := ht
    obtain ⟨gs', -, hknown', hmem', hdiag⟩ :=
      withdraw_reports g (l₂.added.drop l₁.added.length) (hs.poison g.id)
    obtain ⟨new, -, ha, -, -, hnew⟩ := hm.listings
    refine ⟨gs ++ gs', fun d hd => ?_, fun id => ?_, ?_⟩
    · rw [show (Listing.stopDefining g.id _).registry.globals = l₂.registry.globals from hw.globals]
      rcases List.mem_append.1 hd with hd | hd
      · exact hknown d hd
      · exact hknown' d hd
    · -- nothing that was listed inside was listed before
      rw [List.map_append, List.mem_append, hmem, hmem']
      have hadded : (Listing.stopDefining g.id _).added = l₂.added := hw.added
      have hinc : (Listing.stopDefining g.id _).incomplete = l₂.incomplete := hw.incomplete
      have hlist : (Listing.stopDefining g.id _).order = l₁.order := horder
      rw [Retracts, Retracts, hadded, hinc, hlist]
      change id ∈ l₂.added.drop l₁.added.length ∧ id ∉ l₂.order ∧ id ∉ l₂.incomplete ∨
        id ∈ l₂.added.drop l₁.added.length ∧ id ∈ l₂.order ∧ id ∉ l₂.incomplete ↔ _
      have old : id ∈ l₂.added.drop l₁.added.length → id ∉ l₁.order := by
        rw [ha]
        intro h
        exact hnew id (by simpa [startDefining] using h)
      grind
    · change ((l₂.added.drop l₁.added.length).foldl (withdrawOne g) _).diagnostics.map _ = _
      rw [hdiag, List.map_append, List.map_append, ← List.append_assoc, List.map_map]
      exact congrArg (· ++ _) hnames

end Listing

open Listing in
/-- A visit reports what it retracts and nothing else. -/
theorem Visit.tells {u : SourceUnit} {S : CursorId → Prop} {l l' : Listing} {o : Option Fault}
    (h : Visit u S l o l') (hs : l.Sound u) : Tells l l' := by
  induction h with
  | done | halt => exact (Succeeds.refl _).tells
  | @noted _ l _ _ n rest ih =>
    have hp : Proceeds u l (l.note n) := proceeds_congr hs rfl rfl rfl rfl rfl fun h => h
    exact (ih hp.sound).after hp.succeeds (rest.frame hp.sound).2.1
  | looked look rest ih =>
    have hp := proceeds_lookup hs look
    exact (ih hp.sound).after hp.succeeds (rest.frame hp.sound).2.1
  | @undeclarable _ l id _ _ =>
    have none : ∀ i, ¬Retracts l (l.markIncomplete id) i := by
      rintro i ⟨hnew, -⟩
      simp [markIncomplete] at hnew
    exact ⟨[], by simp, fun i => by simpa using none i, by simp [markIncomplete]⟩
  | incomplete place undefined known tag unlisted rest ih =>
    have hp := proceeds_enterIncomplete hs known tag
    exact (ih hp.sound).after hp.succeeds (rest.frame hp.sound).2.1
  | enumerated place look form rest ih =>
    have hp := proceeds_enterEnum hs look form
    exact (ih hp.sound).after hp.succeeds (rest.frame hp.sound).2.1
  | @recorded _ _ _ _ _ _ _ g ms place look form inside gathered rest ihin ih =>
    have hs₁ := (proceeds_lookup hs look).sound.startDefining g.id
    have hp := proceeds_enterRecord ms hs look form (inside.proceeds hs₁)
    exact (ih hp.sound).after hp.succeeds (rest.frame hp.sound).2.1
  | @failed _ _ _ _ _ _ g _ _ place look tag inside given ihin =>
    have hp := proceeds_lookup hs look
    have hs₁ := hp.sound.startDefining g.id
    obtain ⟨hs₂, hm, -⟩ := inside.frame hs₁
    exact (tells_abandon hs₂ hm (ihin hs₁) given).after hp.succeeds (moves_abandon hs₂ hm given)

end DeclAtlas
