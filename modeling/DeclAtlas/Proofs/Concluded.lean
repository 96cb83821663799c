import DeclAtlas.Proofs.Passing
import DeclAtlas.Proofs.Pruned

/-! Whole runs. What every step of a walk keeps holds when the walk is over or is cut short, and
after a walk nothing fails any more: whatever pruning and the graph ask the registry for is
registered. -/

namespace DeclAtlas

namespace Step

variable {ε σ α β : Type}

/-- Whether it fails or not, `x` keeps `P`, and it fails only as `E` allows. -/
def Confined (P : σ → Prop) (E : ε → Prop) (x : Step ε σ α) : Prop :=
  ∀ s, P s → P (x s).2 ∧ ∀ e, (x s).1 = .error e → E e

namespace Confined

variable {P : σ → Prop} {E E' : ε → Prop} {x y : Step ε σ α} {f : α → Step ε σ β}

theorem pure (a : α) : Confined P E (Pure.pure a : Step ε σ α) :=
  fun _ h => ⟨h, fun _ he => by cases he⟩

theorem read (k : σ → α) : Confined P E (Step.read k : Step ε σ α) :=
  fun _ h => ⟨h, fun _ he => by cases he⟩

theorem modify {k : σ → σ} (h : ∀ s, P s → P (k s)) : Confined P E (Step.modify k : Step ε σ Unit) :=
  fun s hs => ⟨h s hs, fun _ he => by cases he⟩

theorem fail {e : ε} (h : E e) : Confined P E (Step.fail e : Step ε σ α) :=
  fun _ hs => ⟨hs, fun _ he => by cases he; exact h⟩

theorem bind (hx : Confined P E x) (hf : ∀ a, Confined P E (f a)) : Confined P E (x >>= f) := by
  intro s hs
  rw [bind_run]
  obtain ⟨hs', he⟩ := hx s hs
  rcases hrun : x s with ⟨e | a, s'⟩ <;> rw [hrun] at hs' he
  · exact ⟨hs', fun e' h => by cases h; exact he e rfl⟩
  · exact hf a s' hs'

theorem ite {p : Prop} [Decidable p] (hx : Confined P E x) (hy : Confined P E y) :
    Confined P E (if p then x else y) := by
  split
  · exact hx
  · exact hy

theorem handling {handle : ε → Step ε σ α} (hx : Confined P E' x)
    (hh : ∀ e, E' e → Confined P E (handle e)) : Confined P E (x.handling handle) := by
  intro s hs
  unfold Step.handling
  obtain ⟨hs', he⟩ := hx s hs
  rcases hrun : x s with ⟨e | a, s'⟩ <;> rw [hrun] at hs' he
  · exact hh e (he e rfl) s' hs'
  · exact ⟨hs', fun _ h => by cases h⟩

theorem andAlways {k : σ → σ} (hx : Confined P E x) (hk : ∀ s, P s → P (k s)) :
    Confined P E (x.andAlways k) :=
  fun s hs => ⟨hk _ (hx s hs).1, (hx s hs).2⟩

end Confined

end Step

open Step (Confined)

section walk

variable {σ : Type} {P : σ → Prop} {E : Fault → Prop} {step : CursorId → CursorId → Step Fault σ Advance}

theorem confined_walkChildren {descend : CursorId → Step Fault σ Bool} {cs : List CursorId}
    (hs : ∀ c p, Confined P E (step c p)) (hd : ∀ c ∈ cs, Confined P E (descend c))
    (p : CursorId) : Confined P E (SourceUnit.walkChildren step descend p cs) := by
  induction cs with
  | nil => exact .pure _
  | cons c rest ih =>
    replace ih := ih fun d hd' => hd d (List.mem_cons_of_mem _ hd')
    refine .bind (hs c p) fun a => ?_
    cases a with
    | nowhere => exact .pure _
    | beside => exact ih
    | below =>
      refine .bind (hd c (List.mem_cons_self ..)) fun ended => ?_
      split
      · exact .pure _
      · exact ih

theorem confined_walkWithin (u : SourceUnit) (hs : ∀ c p, Confined P E (step c p))
    (he : E .exhausted) (n : Nat) (p : CursorId) : Confined P E (u.walkWithin step n p) := by
  induction n generalizing p with
  | zero => exact .fail he
  | succ n ih => exact confined_walkChildren hs (fun c _ => ih c) p

end walk

namespace Listing

variable {u : SourceUnit} {l : Listing} {id : Int} {g : Global}

theorem pruneOne_passes (hl : l.Grounded u) (known : l.registry.globals.get? id = some g) :
    ∃ changed l', pruneOne id l = (.ok changed, l') ∧ Passes u l l' := by
  obtain rfl := hl.sound.registry.own known
  simp only [pruneOne, Step.bind_run, globalAt, known, Step.read]
  cases hb : l.brokenRef? g with
  | none => exact ⟨false, l, rfl, .here⟩
  | some ref =>
    have broken : ref ∈ l.registry.poisoned := by
      have := List.mem_filter.1 (List.min?_mem hb)
      exact of_decide_eq_true this.2
    obtain ⟨g', hg'⟩ := hl.poisoned broken
    simp only [hg', Step.bind_run, globalAt, Step.modify]
    exact ⟨true, _, rfl, passes_skip g _ known⟩

theorem pruneEach_passes {ids : List Int} (hl : l.Grounded u)
    (known : ∀ id ∈ ids, ∃ g, l.registry.globals.get? id = some g) :
    ∃ changed l', pruneEach ids l = (.ok changed, l') ∧ Passes u l l' := by
  induction ids generalizing l with
  | nil => exact ⟨false, l, rfl, .here⟩
  | cons id rest ih =>
    obtain ⟨g, hg⟩ := known id (List.mem_cons_self ..)
    obtain ⟨first, l₁, hone, h₁⟩ := pruneOne_passes hl hg
    obtain ⟨hl₁, grows⟩ := h₁.grounded hl
    have known₁ : ∀ i ∈ rest, ∃ g, l₁.registry.globals.get? i = some g := by
      intro i hi
      obtain ⟨g, hg⟩ := known i (List.mem_cons_of_mem _ hi)
      obtain ⟨g', hg', -⟩ := grows.globals hg
      exact ⟨g', hg'⟩
    obtain ⟨others, l', hrest, h'⟩ := ih hl₁ known₁
    refine ⟨first || others, l', ?_, h₁.trans h'⟩
    simp only [pruneEach, Step.bind_run, hone, hrest, Step.pure_run]

theorem Sound.exists_of_mem_order (h : l.Sound u) : ∀ id ∈ l.order,
    ∃ g, l.registry.globals.get? id = some g := by
  intro id hid
  obtain ⟨g, hg, -⟩ := h.listed hid
  exact ⟨g, hg⟩

theorem pruneRounds_passes {n : Nat} (hl : l.Grounded u) (enough : l.order.length < n) :
    ∃ l', pruneRounds n l = (.ok (), l') ∧ Passes u l l' := by
  induction n generalizing l with
  | zero => omega
  | succ n ih =>
    obtain ⟨changed, l₁, heach, h₁⟩ := pruneEach_passes hl hl.sound.exists_of_mem_order
    obtain ⟨-, shorter, -⟩ := pruneEach_ok hl.sound hl.sound.nodup (fun _ h => h) heach
    simp only [pruneRounds, Step.bind_run, Step.read, heach]
    cases changed with
    | false => exact ⟨l₁, rfl, h₁⟩
    | true =>
      have := shorter rfl
      obtain ⟨l', hrun, h'⟩ := ih (h₁.grounded hl).1 (by omega)
      exact ⟨l', hrun, h₁.trans h'⟩

theorem globalsAt_exists {ids : List Int}
    (known : ∀ id ∈ ids, ∃ g, l.registry.globals.get? id = some g) :
    ∃ ds, globalsAt ids l = (.ok ds, l) := by
  induction ids with
  | nil => exact ⟨[], rfl⟩
  | cons id rest ih =>
    obtain ⟨g, hg⟩ := known id (List.mem_cons_self ..)
    obtain ⟨ds, hds⟩ := ih fun i hi => known i (List.mem_cons_of_mem _ hi)
    exact ⟨g :: ds, by simp only [globalsAt, Step.bind_run, globalAt, hg, hds, Step.pure_run]⟩

end Listing

namespace SourceUnit

open Listing

variable (u : SourceUnit)

/-- What follows a walk does not fail. -/
theorem conclude_passes {l : Listing} (hl : l.Grounded u) :
    ∃ g l', u.conclude l = (.ok g, l') ∧ Passes u l l' := by
  obtain ⟨l₁, hprune, h₁⟩ := pruneRounds_passes hl (Nat.lt_succ_self l.order.length)
  obtain ⟨ds, hds⟩ := globalsAt_exists (h₁.grounded hl).1.sound.exists_of_mem_order
  simp only [conclude, prune, Step.bind_run, Step.read, hprune, hds, Step.modify]
  exact ⟨_, _, rfl, .aside h₁ rfl rfl rfl⟩

theorem passes_walkWithin (n m : Nat) {l : Listing} (hl : l.Grounded u) :
    Passes u l (u.walkWithin (visitTop u (u.recursionWithin n)) m root l).2 := by
  have step (c p : CursorId) : Confined (Passes u l) (fun _ => True)
      (visitTop u (u.recursionWithin n) c p) := fun l' hl' =>
    ⟨hl'.trans (passes_visitTop (u.recursionWithin_faithful n) (hl'.grounded hl).1.sound c p),
      fun _ _ => trivial⟩
  exact (confined_walkWithin u step trivial m root l .here).1

theorem passes_extractWithin (n m : Nat) (b : List BuiltinEntry) :
    Passes u (.ofBuiltins (.ofEntries b)) (u.extractWithin n m b).2 := by
  have start := grounded_start u b
  have hw := u.passes_walkWithin n m start
  rw [extractWithin, Step.bind_run]
  rcases hrun : u.walkWithin (visitTop u (u.recursionWithin n)) m root
    (.ofBuiltins (.ofEntries b)) with ⟨e | ended, walked⟩ <;> rw [hrun] at hw
  · exact hw
  · obtain ⟨g, l, hend, hl⟩ := u.conclude_passes (hw.grounded start).1
    dsimp only
    rw [hend]
    exact hw.trans hl

end SourceUnit

end DeclAtlas
