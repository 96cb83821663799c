import DeclAtlas.Extraction.TopLevel
import DeclAtlas.Proofs.Defined

/-! The walk over the top level as a run: one declaration after another is extracted or skipped.
The declarations are listed here in the order in which the walk comes to them, and it is said
what extracting one of them does. -/

namespace DeclAtlas

namespace SourceUnit

/-- The cursors below another that the walk comes to: the children, and what stands inside those
that the front end does not expose. -/
inductive Reached (u : SourceUnit) : CursorId → CursorId → Prop where
  | child {p c} (h : c ∈ u.children p) : Reached u p c
  | inside {p k c} (h : k ∈ u.children p) (source : u.isImplicit k = false)
      (hidden : u.kind k = .unexposedDecl) (rest : Reached u k c) : Reached u p c

/-- The declarations that the walk extracts, in order. -/
def topWithin (u : SourceUnit) : Nat → CursorId → List CursorId
  | 0, _ => []
  | depth + 1, p => (u.children p).flatMap fun c =>
    if u.isImplicit c then [] else if u.kind c = .unexposedDecl then u.topWithin depth c else [c]

def topLevel (u : SourceUnit) : List CursorId := u.topWithin u.depthBound root

theorem reached_of_mem_topWithin {u : SourceUnit} {n : Nat} {p c : CursorId}
    (h : c ∈ u.topWithin n p) :
    u.Reached p c ∧ u.isImplicit c = false ∧ u.kind c ≠ .unexposedDecl := by
  induction n generalizing p with
  | zero => cases h
  | succ n ih =>
    obtain ⟨k, hk, h⟩ := List.mem_flatMap.1 h
    split at h
    · cases h
    · rename_i hi
      have hi : u.isImplicit k = false := by simpa using hi
      split at h
      · rename_i hu
        obtain ⟨hr, h⟩ := ih h
        exact ⟨.inside hk hi hu hr, h⟩
      · rename_i hu
        rw [List.mem_singleton.1 h]
        exact ⟨.child hk, hi, hu⟩

end SourceUnit

def visitOne (u : SourceUnit) (c : CursorId) : Step Fault Listing Unit :=
  (visitDeclaration u u.recursion c).handling (skipOnFault u c)

/-- One declaration after another is extracted or skipped, and no fault ends the run. -/
inductive Walked (u : SourceUnit) : List CursorId → Listing → Listing → Prop where
  | nil {l} : Walked u [] l l
  | cons {c cs l l₁ l'} (step : visitOne u c l = (.ok (), l₁)) (rest : Walked u cs l₁ l') :
      Walked u (c :: cs) l l'

namespace Walked

variable {u : SourceUnit} {cs cs' : List CursorId} {l l₁ l' : Listing}

theorem append (h : Walked u cs l l₁) (h' : Walked u cs' l₁ l') : Walked u (cs ++ cs') l l' := by
  induction h with
  | nil => exact h'
  | cons step _ ih => exact .cons step (ih h')

theorem split (h : Walked u (cs ++ cs') l l') : ∃ l₁, Walked u cs l l₁ ∧ Walked u cs' l₁ l' := by
  induction cs generalizing l with
  | nil => exact ⟨l, .nil, h⟩
  | cons c cs ih =>
    obtain - | ⟨step, rest⟩ := h
    obtain ⟨l₁, h₁, h₂⟩ := ih rest
    exact ⟨l₁, .cons step h₁, h₂⟩

theorem induct {P : Listing → Prop} (h : Walked u cs l l')
    (hstep : ∀ {c l l'}, c ∈ cs → P l → visitOne u c l = (.ok (), l') → P l') (hl : P l) : P l' := by
  induction h with
  | nil => exact hl
  | cons step _ ih =>
    exact ih (fun hc => hstep (List.mem_cons_of_mem _ hc)) (hstep (List.mem_cons_self ..) hl step)

end Walked

namespace SourceUnit

variable {u : SourceUnit} {l l' : Listing} {p : CursorId}

section visitTop

variable {c : CursorId} (p : CursorId)

theorem visitTop_implicit (h : u.isImplicit c = true) :
    visitTop u u.recursion c p = pure .beside := by
  rw [visitTop, if_pos h]

theorem visitTop_hidden (h : ¬u.isImplicit c = true) (hk : u.kind c = .unexposedDecl) :
    visitTop u u.recursion c p = pure .below := by
  rw [visitTop, if_neg h, if_pos hk]

theorem visitTop_shown (h : ¬u.isImplicit c = true) (hk : u.kind c ≠ .unexposedDecl) :
    visitTop u u.recursion c p = (do visitOne u c; return .beside) := by
  rw [visitTop, if_neg h, if_neg hk]; rfl

end visitTop

theorem walkChildren_ok {descend : CursorId → Step Fault Listing Bool}
    {top : CursorId → List CursorId} {b : Bool}
    (hd : ∀ {k l b l'}, descend k l = (.ok b, l') → b = false ∧ Walked u (top k) l l')
    {cs : List CursorId}
    (h : walkChildren (visitTop u u.recursion) descend p cs l = (.ok b, l')) :
    b = false ∧
      Walked u (cs.flatMap fun c => if u.isImplicit c then []
        else if u.kind c = .unexposedDecl then top c else [c]) l l' ∧
      ∀ k ∈ cs, u.isImplicit k = false → u.kind k = .unexposedDecl →
        ∃ l₁ l₂, descend k l₁ = (.ok false, l₂) := by
  induction cs generalizing l with
  | nil => cases h; exact ⟨rfl, .nil, by simp⟩
  | cons c cs ih =>
    unfold walkChildren at h
    rw [List.flatMap_cons]
    by_cases hi : u.isImplicit c = true
    · rw [visitTop_implicit p hi] at h
      obtain ⟨hb, hw, hk⟩ := ih h
      refine ⟨hb, by simpa [hi] using hw, fun k hm hi' => ?_⟩
      rcases List.mem_cons.1 hm with rfl | hm
      · rw [hi] at hi'; cases hi'
      · exact hk k hm hi'
    by_cases hu : u.kind c = .unexposedDecl
    · rw [visitTop_hidden p hi hu, pure_bind] at h
      dsimp only at h
      rw [Step.bind_run] at h
      rcases hrun : descend c l with ⟨e | b', l₁⟩ <;> rw [hrun] at h
      · cases h
      · obtain ⟨rfl, hw₁⟩ := hd hrun
        obtain ⟨hb, hw, hk⟩ := ih h
        refine ⟨hb, by simpa [hi, hu] using hw₁.append hw, fun k hm hi' hu' => ?_⟩
        rcases List.mem_cons.1 hm with rfl | hm
        · exact ⟨l, l₁, hrun⟩
        · exact hk k hm hi' hu'
    · rw [visitTop_shown p hi hu, bind_assoc, Step.bind_run] at h
      rcases hrun : visitOne u c l with ⟨e | ⟨⟩, l₁⟩ <;> rw [hrun] at h
      · cases h
      · obtain ⟨hb, hw, hk⟩ := ih h
        refine ⟨hb, by simpa [hi, hu] using Walked.cons hrun hw, fun k hm hi' hu' => ?_⟩
        rcases List.mem_cons.1 hm with rfl | hm
        · exact absurd hu' hu
        · exact hk k hm hi' hu'

theorem walkWithin_ok {n : Nat} {b : Bool}
    (h : u.walkWithin (visitTop u u.recursion) n p l = (.ok b, l')) :
    b = false ∧ Walked u (u.topWithin n p) l l' := by
  induction n generalizing p l b l' with
  | zero => cases h
  | succ n ih =>
    obtain ⟨hb, hw, -⟩ := walkChildren_ok (fun h => ih h) h
    exact ⟨hb, hw⟩

theorem mem_topWithin_of_reached {c : CursorId} (hr : u.Reached p c)
    (hi : u.isImplicit c = false) (hk : u.kind c ≠ .unexposedDecl) {n : Nat} {b : Bool}
    (h : u.walkWithin (visitTop u u.recursion) n p l = (.ok b, l')) : c ∈ u.topWithin n p := by
  induction hr generalizing n l b l' with
  | child hc =>
    cases n with
    | zero => cases h
    | succ n => exact List.mem_flatMap.2 ⟨_, hc, by simp [hi, hk]⟩
  | inside hc source hidden _ ih =>
    cases n with
    | zero => cases h
    | succ n =>
      rw [walkWithin] at h
      obtain ⟨-, -, hd⟩ := walkChildren_ok (fun h => walkWithin_ok h) h
      obtain ⟨l₁, l₂, hrun⟩ := hd _ hc source hidden
      exact List.mem_flatMap.2 ⟨_, hc, by simpa [source, hidden] using ih hi hk hrun⟩

theorem walk_ok (h : u.walk (visitTop u u.recursion) root l = (.ok (), l')) :
    Walked u u.topLevel l l' ∧
      ∀ {c}, u.Reached root c → u.isImplicit c = false → u.kind c ≠ .unexposedDecl →
        c ∈ u.topLevel := by
  rw [walk, Step.bind_run] at h
  rcases hrun : u.walkWithin (visitTop u u.recursion) u.depthBound root l with ⟨e | b, l₁⟩ <;>
    rw [hrun] at h <;> cases h
  exact ⟨(walkWithin_ok hrun).2, fun hr hi hk => mem_topWithin_of_reached hr hi hk hrun⟩

section repeated

variable {P : Listing → Prop}

theorem walkChildren_of_steps {descend : CursorId → Step Fault Listing Bool} {cs : List CursorId}
    (below : ∀ c ∈ cs, u.isImplicit c = false → u.kind c = .unexposedDecl →
      ∀ l, P l → ∃ l', descend c l = (.ok false, l') ∧ P l')
    (beside : ∀ c ∈ cs, u.isImplicit c = false → u.kind c ≠ .unexposedDecl →
      ∀ l, P l → ∃ l', visitOne u c l = (.ok (), l') ∧ P l') (hl : P l) :
    ∃ l', walkChildren (visitTop u u.recursion) descend p cs l = (.ok false, l') ∧ P l' := by
  induction cs generalizing l with
  | nil => exact ⟨l, rfl, hl⟩
  | cons c cs ih =>
    replace ih {l : Listing} (hl : P l) := ih (fun k hk => below k (List.mem_cons_of_mem _ hk))
      (fun k hk => beside k (List.mem_cons_of_mem _ hk)) hl
    have first : c ∈ c :: cs := List.mem_cons_self ..
    unfold walkChildren
    by_cases hi : u.isImplicit c = true
    · rw [visitTop_implicit p hi]
      exact ih hl
    have source : u.isImplicit c = false := by simpa using hi
    by_cases hk : u.kind c = .unexposedDecl
    · rw [visitTop_hidden p hi hk, pure_bind]
      obtain ⟨l₁, run, hl₁⟩ := below c first source hk l hl
      simp only [Step.bind_run, run]
      exact ih hl₁
    · rw [visitTop_shown p hi hk]
      obtain ⟨l₁, run, hl₁⟩ := beside c first source hk l hl
      simp only [Step.bind_run, run]
      exact ih hl₁

/-- Where one walk is not cut off by its depth, another is not either: it completes if all of its
steps do. -/
theorem walkWithin_of_steps {n : Nat} {ended : Bool} {l₀ l₁ : Listing}
    (h : u.walkWithin (visitTop u u.recursion) n p l₀ = (.ok ended, l₁))
    (steps : ∀ c ∈ u.topWithin n p, ∀ l, P l → ∃ l', visitOne u c l = (.ok (), l') ∧ P l')
    (hl : P l) : ∃ l', u.walkWithin (visitTop u u.recursion) n p l = (.ok false, l') ∧ P l' := by
  induction n generalizing p l l₀ l₁ ended with
  | zero => cases h
  | succ n ih =>
    obtain ⟨-, -, deeper⟩ := walkChildren_ok (fun h => walkWithin_ok h) h
    refine walkChildren_of_steps (fun c hc hi hk l hl => ?_) (fun c hc hi hk => ?_) hl
    · obtain ⟨l₂, l₃, run⟩ := deeper c hc hi hk
      refine ih run (fun d hd => steps d ?_) hl
      exact List.mem_flatMap.2 ⟨c, hc, by simpa [hi, hk] using hd⟩
    · exact steps c (List.mem_flatMap.2 ⟨c, hc, by simp [hi, hk]⟩)

theorem walk_of_steps {l₀ l₁ : Listing}
    (h : u.walk (visitTop u u.recursion) root l₀ = (.ok (), l₁))
    (steps : ∀ c ∈ u.topLevel, ∀ l, P l → ∃ l', visitOne u c l = (.ok (), l') ∧ P l') (hl : P l) :
    ∃ l', u.walk (visitTop u u.recursion) root l = (.ok (), l') ∧ P l' := by
  rw [walk, Step.bind_run] at h
  rcases hrun : u.walkWithin (visitTop u u.recursion) u.depthBound root l₀ with ⟨e | ended, l₂⟩ <;>
    rw [hrun] at h <;> cases h
  obtain ⟨l', run, hl'⟩ := walkWithin_of_steps hrun steps hl
  exact ⟨l', by rw [walk, Step.bind_run, run]; rfl, hl'⟩

end repeated

end SourceUnit

end DeclAtlas
