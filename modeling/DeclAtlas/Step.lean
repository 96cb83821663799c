/-! Steps: computations that change a state and may fail. What a step did before it failed
stays done. -/

namespace DeclAtlas

/-- A computation over a state that may fail and keeps its changes when it does. -/
def Step (ε σ α : Type) : Type := σ → Except ε α × σ

namespace Step

variable {ε σ α β : Type}

protected def pure (a : α) : Step ε σ α := fun s => (.ok a, s)

protected def bind (x : Step ε σ α) (f : α → Step ε σ β) : Step ε σ β := fun s =>
  match x s with
  | (.ok a, s') => f a s'
  | (.error e, s') => (.error e, s')

instance : Monad (Step ε σ) where
  pure := Step.pure
  bind := Step.bind

def read (f : σ → α) : Step ε σ α := fun s => (.ok (f s), s)

def modify (f : σ → σ) : Step ε σ Unit := fun s => (.ok (), f s)

def fail (e : ε) : Step ε σ α := fun s => (.error e, s)

def ofExcept (x : Except ε α) : Step ε σ α := fun s => (x, s)

/-- Runs `x`, and after a failure `handle`, whose own failure takes the place of the first. -/
def handling (x : Step ε σ α) (handle : ε → Step ε σ α) : Step ε σ α := fun s =>
  match x s with
  | (.ok a, s') => (.ok a, s')
  | (.error e, s') => handle e s'

/-- Runs `x` and then changes the state by `f`, whether `x` failed or not. -/
def andAlways (x : Step ε σ α) (f : σ → σ) : Step ε σ α := fun s =>
  ((x s).1, f (x s).2)

@[simp] theorem pure_run (a : α) (s : σ) : (pure a : Step ε σ α) s = (.ok a, s) := rfl

theorem bind_run (x : Step ε σ α) (f : α → Step ε σ β) (s : σ) :
    (x >>= f) s = match x s with
      | (.ok a, s') => f a s'
      | (.error e, s') => (.error e, s') := rfl

theorem bind_eq_ok {x : Step ε σ α} {f : α → Step ε σ β} {s s₁ : σ} {b : β}
    (h : (x >>= f) s = (.ok b, s₁)) : ∃ a s', x s = (.ok a, s') ∧ f a s' = (.ok b, s₁) := by
  rw [bind_run] at h
  rcases hx : x s with ⟨e | a, s'⟩ <;> rw [hx] at h
  · cases h
  · exact ⟨a, s', rfl, h⟩

def gives (x : Step ε σ α) (s : σ) (p : α → Bool) : Bool :=
  match x s with
  | (.ok a, _) => p a
  | (.error _, _) => false

theorem exists_of_gives {x : Step ε σ α} {s : σ} {p : α → Bool} (h : x.gives s p = true) :
    ∃ a s', x s = (.ok a, s') ∧ p a = true := by
  unfold gives at h
  split at h
  · exact ⟨_, _, ‹_›, h⟩
  · cases h

instance : LawfulMonad (Step ε σ) := LawfulMonad.mk' _
  (by
    intro α x; funext s
    show (match x s with | (.ok a, s') => _ | (.error e, s') => _) = x s
    rcases x s with ⟨_ | _, _⟩ <;> rfl)
  (by intros; rfl)
  (by
    intro α β γ x f g; funext s
    simp only [bind_run]
    rcases x s with ⟨_ | _, _⟩ <;> rfl)

end Step

end DeclAtlas
