import DeclAtlas.Proofs.Termination

/-! The walk as a fold. The cursors that a walk comes to stand in a list: the pre-order listing of
what is below its root, in which only the cursors are expanded that the walk was told to go below,
cut off after the first one at which it was told to end. The walk does to its state what going
through that list does, however deep it is when it ends. -/

namespace DeclAtlas

/-- What a walk is told at a cursor, given its parent and the state, and the state after it. -/
abbrev Guide (σ : Type) : Type := CursorId → CursorId → σ → Advance × σ

/-- A cursor that a walk comes to, with its parent and what the walk was told there. -/
structure Stop where
  child : CursorId
  parent : CursorId
  answer : Advance
  deriving DecidableEq

/-- The stops up to the first at which the walk was told to end. -/
def untilEnd : List Stop → List Stop
  | [] => []
  | v :: rest => if v.answer = .nowhere then [v] else v :: untilEnd rest

def ends (stops : List Stop) : Bool := stops.any fun v => decide (v.answer = .nowhere)

section stops

variable {v : Stop} {stops inner : List Stop}

theorem untilEnd_cons (h : v.answer ≠ .nowhere) : untilEnd (v :: stops) = v :: untilEnd stops := by
  rw [untilEnd, if_neg h]

theorem ends_cons (h : v.answer ≠ .nowhere) : ends (v :: stops) = ends stops := by
  simp [ends, h]

theorem ends_append (inner stops : List Stop) :
    ends (inner ++ stops) = (ends inner || ends stops) :=
  List.any_append ..

theorem untilEnd_append_of_ends (h : ends inner = true) :
    untilEnd (inner ++ stops) = untilEnd inner := by
  induction inner with
  | nil => cases h
  | cons v inner ih =>
    by_cases last : v.answer = .nowhere
    · rw [List.cons_append, untilEnd, untilEnd, if_pos last, if_pos last]
    · rw [List.cons_append, untilEnd_cons last, untilEnd_cons last, ih (ends_cons last ▸ h)]

theorem untilEnd_append (h : ends inner = false) :
    untilEnd (inner ++ stops) = untilEnd inner ++ untilEnd stops := by
  induction inner with
  | nil => rfl
  | cons v inner ih =>
    have last : v.answer ≠ .nowhere := by intro he; simp [ends, he] at h
    rw [List.cons_append, untilEnd_cons last, untilEnd_cons last, List.cons_append,
      ih (ends_cons last ▸ h)]

end stops

namespace Guide

variable {σ τ : Type} (f : Guide σ)

def step (c p : CursorId) : Step Fault σ Advance := fun s => (.ok (f c p s).1, (f c p s).2)

def after (s : σ) (stops : List Stop) : σ := stops.foldl (fun s v => (f v.child v.parent s).2) s

/-- At each of the stops, with the state after those before it, the walk is told what the stop
says. -/
def Answers (s : σ) : List Stop → Prop
  | [] => True
  | v :: rest => (f v.child v.parent s).1 = v.answer ∧ Answers (f v.child v.parent s).2 rest

/-- The same guide, which also keeps a record of the cursors and their parents. -/
def recording : Guide (σ × List (CursorId × CursorId)) := fun c p s =>
  ((f c p s.1).1, (f c p s.1).2, s.2 ++ [(c, p)])

end Guide

namespace SourceUnit

/-- A pre-order listing of some children of a cursor, in which those are expanded that the walk was
told to go below. -/
inductive PreOrder (u : SourceUnit) : CursorId → List CursorId → List Stop → Prop where
  | nil {p} : PreOrder u p [] []
  | flat {p c rest answer stops} (h : answer ≠ .below) (later : PreOrder u p rest stops) :
      PreOrder u p (c :: rest) (⟨c, p, answer⟩ :: stops)
  | deep {p c rest inner stops} (inside : PreOrder u c (u.children c) inner)
      (later : PreOrder u p rest stops) :
      PreOrder u p (c :: rest) (⟨c, p, .below⟩ :: (inner ++ stops))

end SourceUnit

section walk

open SourceUnit

variable {u : SourceUnit} {σ τ : Type} {f : Guide σ} {s : σ} {p c : CursorId}
  {cs : List CursorId} {n : Nat}

theorem Guide.after_append (f : Guide σ) (s : σ) (stops more : List Stop) :
    f.after s (stops ++ more) = f.after (f.after s stops) more :=
  List.foldl_append ..

theorem Guide.answers_append {stops more : List Stop} :
    f.Answers s (stops ++ more) ↔ f.Answers s stops ∧ f.Answers (f.after s stops) more := by
  induction stops generalizing s with
  | nil => simp [Answers, after]
  | cons v stops ih =>
    rw [List.cons_append, Answers, Answers, ih, and_assoc]
    rfl

/-- What is not visited can be listed without expanding anything. -/
theorem SourceUnit.preOrder_flat (p : CursorId) (cs : List CursorId) :
    u.PreOrder p cs (cs.map (⟨·, p, .beside⟩)) := by
  induction cs with
  | nil => exact .nil
  | cons c cs ih => exact .flat (by decide) ih

/-- A stretch of a walk goes through a listing up to the first stop at which it ends. -/
def Traverses (u : SourceUnit) (f : Guide σ) (x : Step Fault σ Bool) (p : CursorId)
    (cs : List CursorId) : Prop :=
  ∀ s, ∃ stops, u.PreOrder p cs stops ∧ f.Answers s (untilEnd stops) ∧
    x s = (.ok (ends stops), f.after s (untilEnd stops))

theorem traverses_walkChildren {descend : CursorId → Step Fault σ Bool}
    (inside : ∀ c ∈ cs, Traverses u f (descend c) c (u.children c)) :
    Traverses u f (walkChildren f.step descend p cs) p cs := by
  induction cs with
  | nil => exact fun s => ⟨[], .nil, trivial, rfl⟩
  | cons c cs ih =>
    replace ih := ih fun c hc => inside c (List.mem_cons_of_mem _ hc)
    intro s
    have told : f.step c p s = (.ok (f c p s).1, (f c p s).2) := rfl
    unfold walkChildren
    rw [Step.bind_run, told]
    dsimp only
    cases answer : (f c p s).1 with
    | nowhere =>
      have listing := (u.preOrder_flat p cs).flat (c := c) (by decide : Advance.nowhere ≠ .below)
      exact ⟨_, listing, ⟨answer, trivial⟩, rfl⟩
    | beside =>
      obtain ⟨stops, later, answers, run⟩ := ih (f c p s).2
      have listing := later.flat (c := c) (by decide : Advance.beside ≠ .below)
      exact ⟨_, listing, ⟨answer, answers⟩, run⟩
    | below =>
      obtain ⟨inner, listing, answers, run⟩ := inside c (List.mem_cons_self ..) (f c p s).2
      have goes : (Stop.mk c p .below).answer ≠ .nowhere := by intro h; cases h
      dsimp only
      rw [Step.bind_run, run]
      dsimp only
      cases ended : ends inner with
      | true =>
        refine ⟨_, .deep listing (preOrder_flat p cs), ?_, ?_⟩
        · rw [untilEnd_cons goes, untilEnd_append_of_ends ended]
          exact ⟨answer, answers⟩
        · rw [ends_cons goes, ends_append, ended, untilEnd_cons goes, untilEnd_append_of_ends ended]
          rfl
      | false =>
        obtain ⟨stops, later, answers', run'⟩ := ih (f.after (f c p s).2 (untilEnd inner))
        refine ⟨_, .deep listing later, ?_, ?_⟩
        · rw [untilEnd_cons goes, untilEnd_append ended]
          exact ⟨answer, Guide.answers_append.2 ⟨answers, answers'⟩⟩
        · rw [ends_cons goes, ends_append, ended, untilEnd_cons goes, untilEnd_append ended,
            Bool.false_or]
          exact run'.trans (by rw [← Guide.after_append]; rfl)

theorem traverses_walkWithin (f : Guide σ) (acyclic : ∀ c, u.Within p c → ¬u.Below c c)
    (enough : u.height p + 2 ≤ n) :
    Traverses u f (u.walkWithin f.step n p) p (u.children p) := by
  induction n generalizing p with
  | zero => omega
  | succ n ih =>
    refine traverses_walkChildren fun c hc => ?_
    by_cases hmem : c ∈ u.cursorIds
    · have lower := height_lt hc hmem (acyclic c (.inr (.child hc)))
      exact ih (fun d hd => acyclic d (.inr ((Below.child hc).within hd))) (by omega)
    · -- a cursor the unit does not have has no children to walk over
      obtain ⟨k, rfl⟩ : ∃ k, n = k + 1 := ⟨n - 1, by omega⟩
      rw [walkWithin, children_of_not_mem_cursorIds hmem]
      exact fun s => ⟨[], .nil, trivial, rfl⟩

theorem traverses_walk (f : Guide σ) (acyclic : ∀ c, u.Within p c → ¬u.Below c c) (s : σ) :
    ∃ stops, u.PreOrder p (u.children p) stops ∧ f.Answers s (untilEnd stops) ∧
      u.walk f.step p s = (.ok (), f.after s (untilEnd stops)) := by
  obtain ⟨stops, listing, answers, run⟩ :=
    traverses_walkWithin f acyclic (u.height_le_depthBound p) s
  exact ⟨stops, listing, answers, by rw [walk, Step.bind_run, run]; rfl⟩

end walk

/-- `y` does what `x` does, and something else beside it. -/
def Step.Carries {ε σ τ α : Type} (x : Step ε σ α) (y : Step ε (σ × τ) α) : Prop :=
  ∀ s t, x s = ((y (s, t)).1, (y (s, t)).2.1)

section recording

open SourceUnit Step

variable {u : SourceUnit} {σ τ α β : Type} {f : Guide σ} {p : CursorId} {cs : List CursorId}

theorem Step.Carries.bind {ε : Type} {x : Step ε σ α} {y : Step ε (σ × τ) α}
    {k : α → Step ε σ β} {k' : α → Step ε (σ × τ) β} (h : Carries x y)
    (hk : ∀ a, Carries (k a) (k' a)) : Carries (x >>= k) (y >>= k') := by
  intro s t
  rw [bind_run, bind_run, h s t]
  rcases y (s, t) with ⟨e | a, s', t'⟩
  · rfl
  · exact hk a s' t'

theorem carries_walkChildren {descend : CursorId → Step Fault σ Bool}
    {descend' : CursorId → Step Fault (σ × List (CursorId × CursorId)) Bool}
    (inside : ∀ c, Carries (descend c) (descend' c)) :
    Carries (walkChildren f.step descend p cs) (walkChildren f.recording.step descend' p cs) := by
  induction cs with
  | nil => exact fun s t => rfl
  | cons c cs ih =>
    unfold walkChildren
    refine .bind (fun s t => rfl) fun answer => ?_
    cases answer with
    | nowhere => exact fun s t => rfl
    | beside => exact ih
    | below =>
      refine (inside c).bind fun ended => ?_
      cases ended with
      | true => exact fun s t => rfl
      | false => exact ih

theorem carries_walk (f : Guide σ) (p : CursorId) :
    Carries (u.walk f.step p) (u.walk f.recording.step p) := by
  have within (n : Nat) (p : CursorId) :
      Carries (u.walkWithin f.step n p) (u.walkWithin f.recording.step n p) := by
    induction n generalizing p with
    | zero => exact fun s t => rfl
    | succ n ih => exact carries_walkChildren ih
  exact (within _ p).bind fun _ s t => rfl

theorem Guide.after_recording (s : σ) (seen : List (CursorId × CursorId)) (stops : List Stop) :
    f.recording.after (s, seen) stops =
      (f.after s stops, seen ++ stops.map fun v => (v.child, v.parent)) := by
  induction stops generalizing s seen with
  | nil => simp [after]
  | cons v stops ih =>
    simpa [after, recording] using ih (f v.child v.parent s).2 (seen ++ [(v.child, v.parent)])

theorem Guide.answers_recording {s : σ} {seen : List (CursorId × CursorId)} {stops : List Stop} :
    f.recording.Answers (s, seen) stops ↔ f.Answers s stops := by
  induction stops generalizing s seen with
  | nil => exact Iff.rfl
  | cons v stops ih => exact and_congr Iff.rfl ih

end recording

/-- A walk comes to the cursors of a pre-order listing, in which those are expanded that it is told
to go below, one after another up to the first at which it is told to end, and to no others. Its
state is that after these stops. What it is told may depend on the state. -/
theorem walk_visits_preorder {u : SourceUnit} {σ : Type} (f : Guide σ) (root : CursorId)
    (acyclic : ∀ c, u.Within root c → ¬u.Below c c) (s : σ) :
    ∃ listing, u.PreOrder root (u.children root) listing ∧
      f.Answers s (untilEnd listing) ∧
      u.walk f.step root s = (.ok (), f.after s (untilEnd listing)) ∧
      u.walk f.recording.step root (s, []) = (.ok (), f.after s (untilEnd listing),
        (untilEnd listing).map fun v => (v.child, v.parent)) := by
  obtain ⟨listing, preorder, answers, run⟩ := traverses_walk f.recording acyclic (s, [])
  rw [Guide.after_recording, List.nil_append] at run
  refine ⟨listing, preorder, Guide.answers_recording.1 answers, ?_, run⟩
  rw [carries_walk f root s [], run]

/-- Tells a walk to go below the first cursors that it comes to, and to end at the fourth. -/
def fourStops : Guide Nat := fun _ _ seen => (if seen = 3 then .nowhere else .below, seen + 1)

theorem walk_ends_inside : ∃ listing,
    mutualUnit.PreOrder SourceUnit.root (mutualUnit.children SourceUnit.root) listing ∧
    fourStops.Answers 0 (untilEnd listing) ∧
    mutualUnit.walk fourStops.step SourceUnit.root 0 = (.ok (), 4) ∧
    (untilEnd listing).map (fun v => (v.child, v.parent)) =
      [(.node 1, .node 0), (.node 2, .node 1), (.node 3, .node 2), (.node 4, .node 2)] := by
  have falls : ∀ c ∈ mutualUnit.cursorIds, ∀ d ∈ mutualUnit.children c,
      mutualUnit.level d < mutualUnit.level c := by decide +kernel
  obtain ⟨listing, preorder, answers, -, recorded⟩ := walk_visits_preorder fourStops
    SourceUnit.root (fun c _ cyclic => Nat.lt_irrefl _ (cyclic.place_lt falls)) 0
  refine ⟨listing, preorder, answers, rfl, ?_⟩
  have run : mutualUnit.walk fourStops.recording.step SourceUnit.root (0, []) = (.ok (), 4,
      [(.node 1, .node 0), (.node 2, .node 1), (.node 3, .node 2), (.node 4, .node 2)]) := rfl
  rw [recorded] at run
  exact congrArg (fun x => x.2.2) run

end DeclAtlas
