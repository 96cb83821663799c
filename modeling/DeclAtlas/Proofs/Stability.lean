import DeclAtlas.Proofs.Coherence
import DeclAtlas.Proofs.Passing

/-! Converting a type again. A conversion registers declarations, lists those without a definition
and defines those that the compiler provides; once it has succeeded all this is done, and to convert
the type again changes nothing. Whatever happens later, the type is converted to the same, unless
something that it refers to has been skipped by then. -/

namespace DeclAtlas

namespace Listing

variable {u : SourceUnit} {l l' l'' l₁ l₂ : Listing}

/-- A stretch without a fault, after which only what has no definition is incomplete. -/
structure Goes (u : SourceUnit) (l l' : Listing) : Prop where
  proceeds : l.Proceeds u l'
  undefined : l'.Undefined u

/-- What lasts from one listing to a later one of the same run. What is listed or under way is so
still, unless it has been skipped, or was incomplete and has been withdrawn. -/
structure Endures (u : SourceUnit) (l l' : Listing) : Prop where
  sound : l'.Sound u
  undefined : l'.Undefined u
  registry : l.registry.Grows l'.registry
  underway : ∀ {id}, id ∈ l.order ∨ id ∈ l.defining →
    (id ∈ l'.order ∨ id ∈ l'.defining) ∨ id ∈ l'.registry.poisoned ∨ id ∈ l'.incomplete
  incomplete : ∀ {id}, id ∈ l.incomplete → id ∈ l'.incomplete

theorem Goes.endures (h : l.Goes u l') : l.Endures u l' :=
  ⟨h.proceeds.sound, h.undefined, h.proceeds.moves.registry,
    fun hid => .inl (h.proceeds.succeeds.underway hid), h.proceeds.moves.incomplete⟩

theorem Goes.trans (h : l.Goes u l') (h' : l'.Goes u l'') : l.Goes u l'' :=
  ⟨h.proceeds.trans h'.proceeds, h'.undefined⟩

theorem Endures.trans (h : l.Endures u l') (h' : l'.Endures u l'') : l.Endures u l'' where
  sound := h'.sound
  undefined := h'.undefined
  registry := h.registry.trans h'.registry
  underway hid := by
    rcases h.underway hid with hid | hid | hid
    · exact h'.underway hid
    · exact .inr (.inl (h'.registry.poisoned hid))
    · exact .inr (.inr (h'.incomplete hid))
  incomplete hid := h'.incomplete (h.incomplete hid)

theorem goes_refl (hs : l.Sound u) (hl : l.Undefined u) : l.Goes u l :=
  ⟨⟨hs, .refl l, .refl l⟩, hl⟩

end Listing

open Listing SourceUnit

theorem Visit.goes {u : SourceUnit} {S : CursorId → Prop} {l l' : Listing}
    (h : Visit u S l none l') (hu : u.Coherent)
    (hS : ∀ d, S d → u.isFound d = true ∨ u.Named d) (hs : l.Sound u) (hl : l.Undefined u) :
    l.Goes u l' :=
  ⟨h.proceeds hs, h.undefined hu hS (fun _ h => by cases h) hs hl⟩

section repeats

variable {α β : Type} {u : SourceUnit} {l l' l₁ l₂ : Listing} {x y : Step Fault Listing α}
  {f : α → Step Fault Listing β} {a : α} {b : β} {R R' : List Int}

/-- Done in `l₂`, the step gives `a`, or finds one of the identities `R` poisoned that was not
poisoned in `l₁`. -/
def Recurs (u : SourceUnit) (x : Step Fault Listing α) (R : List Int) (a : α)
    (l₁ l₂ : Listing) : Prop :=
  (∃ l₃, x l₂ = (.ok a, l₃) ∧ l₂.Goes u l₃) ∨
    ∃ i ∈ R, ∃ g l₃, i ∉ l₁.registry.poisoned ∧ i ∈ l₂.registry.poisoned ∧
      l₁.registry.globals.get? i = some g ∧
      x l₂ = (.error (.unresolved g.name.display Fault.wasSkipped), l₃)

/-- The step has given `a` and led to `l₁`. It gives `a` again as long as nothing fails and has
nothing left to do, and it recurs in every later listing. -/
structure Repeats (u : SourceUnit) (x : Step Fault Listing α) (R : List Int) (a : α)
    (l₁ : Listing) : Prop where
  same : ∀ {l₂}, l₁.Goes u l₂ → x l₂ = (.ok a, l₂)
  recurs : ∀ {l₂}, l₁.Endures u l₂ → Recurs u x R a l₁ l₂

namespace Repeats

theorem pure (R : List Int) (a : α) (l : Listing) : Repeats u (Pure.pure a) R a l where
  same _ := rfl
  recurs h := .inl ⟨_, rfl, goes_refl h.sound h.undefined⟩

theorem mono (h : Repeats u x R a l) (hR : ∀ i ∈ R, i ∈ R') : Repeats u x R' a l where
  same := h.same
  recurs hl := (h.recurs hl).imp_right fun ⟨i, hi, rest⟩ => ⟨i, hR i hi, rest⟩

/-- One step after another; what is known of the first holds until the second is done. -/
theorem bind (hx : Repeats u x R a l') (between : l'.Goes u l₁) (hf : Repeats u (f a) R b l₁) :
    Repeats u (x >>= f) R b l₁ where
  same h := by
    rw [Step.bind_run, hx.same (between.trans h)]
    exact hf.same h
  recurs {l₂} h := by
    rcases hx.recurs (between.endures.trans h) with
      ⟨l₃, run, goes⟩ | ⟨i, hi, g, l₃, clean, bad, hg, run⟩
    · rcases hf.recurs (h.trans goes.endures) with
        ⟨l₄, run', goes'⟩ | ⟨i, hi, g, l₄, clean, bad, hg, run'⟩
      · refine .inl ⟨l₄, ?_, goes.trans goes'⟩
        rw [Step.bind_run, run]
        exact run'
      · refine .inr ⟨i, hi, g, l₄, clean, ?_, hg, ?_⟩
        · rw [← goes.proceeds.succeeds.poisoned]
          exact bad
        · rw [Step.bind_run, run]
          exact run'
    · obtain ⟨g', hg', outline⟩ := between.proceeds.moves.registry.globals hg
      refine .inr ⟨i, hi, g', l₃, ?_, bad, hg', ?_⟩
      · rw [between.proceeds.succeeds.poisoned]
        exact clean
      · rw [Step.bind_run, run, (Global.outline_eq.1 outline).1]

end Repeats

/-- From `l` the step repeats, if it succeeds. -/
def Repeatable (u : SourceUnit) (l : Listing) (x : Step Fault Listing α) (refs : α → List Int) :
    Prop :=
  ∀ a l₁, x l = (.ok a, l₁) → l.Goes u l₁ ∧ Repeats u x (refs a) a l₁

namespace Repeatable

variable {refs : α → List Int} {refs' : β → List Int}

theorem pure (hs : l.Sound u) (hl : l.Undefined u) (a : α) :
    Repeatable u l (Pure.pure a) refs := by
  intro a' l₁ run
  cases run
  exact ⟨goes_refl hs hl, .pure _ _ _⟩

theorem fail (e : Fault) : Repeatable u l (Step.fail e) refs := by
  intro a l₁ run
  cases run

theorem ite {p : Prop} [Decidable p] (hx : p → Repeatable u l x refs)
    (hy : ¬p → Repeatable u l y refs) : Repeatable u l (if p then x else y) refs := by
  split
  · exact hx ‹_›
  · exact hy ‹_›

theorem map (h : Repeatable u l x refs) (k : α → β) (hk : ∀ a, ∀ i ∈ refs a, i ∈ refs' (k a)) :
    Repeatable u l (do let a ← x; Pure.pure (k a)) refs' := by
  intro b l₁ run
  obtain ⟨a, l', hx, hb⟩ := Step.bind_eq_ok run
  cases hb
  obtain ⟨goes, repeats⟩ := h a l₁ hx
  have still := goes_refl goes.proceeds.sound goes.undefined
  exact ⟨goes, (repeats.mono (hk a)).bind still (.pure _ _ _)⟩

theorem map₂ {γ : Type} {z : Step Fault Listing γ} {refs₂ : γ → List Int}
    (hx : Repeatable u l x refs) (hz : ∀ {l'}, l.Goes u l' → Repeatable u l' z refs₂)
    (k : α → γ → β) (hk : ∀ a c, ∀ i ∈ refs a, i ∈ refs' (k a c))
    (hk₂ : ∀ a c, ∀ i ∈ refs₂ c, i ∈ refs' (k a c)) :
    Repeatable u l (do let a ← x; let c ← z; Pure.pure (k a c)) refs' := by
  intro b l₁ run
  obtain ⟨a, l', ha, rest⟩ := Step.bind_eq_ok run
  obtain ⟨goes, repeats⟩ := hx a l' ha
  have second := (hz goes).map (k a) (hk₂ a)
  obtain ⟨c, _, -, hb⟩ := Step.bind_eq_ok rest
  obtain ⟨goes', repeats'⟩ := second b l₁ rest
  cases hb
  exact ⟨goes.trans goes', (repeats.mono (hk a c)).bind goes' repeats'⟩

end Repeatable

theorem Repeats.congr (h : Repeats u y R a l₁) (heq : ∀ {l₂}, l₁.Endures u l₂ → x l₂ = y l₂) :
    Repeats u x R a l₁ where
  same goes := (heq goes.endures).trans (h.same goes)
  recurs lasts := by
    unfold Recurs
    rw [heq lasts]
    exact h.recurs lasts

end repeats

section references

variable {u : SourceUnit} {r : Recursion} {n : Nat} {c d k : CursorId} {t : TypeId} {g g' : Global}
  {l l' l₁ l₂ : Listing}

/-- A record or enum that is listed or under way, or whose definition answers for its listing. -/
def Listing.Settled (u : SourceUnit) (l : Listing) (d : CursorId) (id : Int) : Prop :=
  id ∈ l.order ∨ id ∈ l.defining ∨
    ∃ k, u.definition? d = some k ∧ (u.isImplicit k = true → l.Fulfilled u k)

/-- A definition that the compiler provides is not put off until the walk reaches it. -/
theorem Listing.Settled.underway (h : l.Settled u d g.id) (hu : u.Coherent)
    (tag : (u.kind d).isTag = true) (known : l.registry.globalOf? u d = some g)
    (own : g.isBuiltin = false) (hk : u.definition? d = some k) (hi : u.isImplicit k = true) :
    g.id ∈ l.order ∨ g.id ∈ l.defining := by
  rcases h with h | h | ⟨k', hk', fulfilled⟩
  · exact .inl h
  · exact .inr h
  · obtain rfl := Option.some.inj (hk.symm.trans hk')
    obtain ⟨g', known', done⟩ := fulfilled hi
    have same : l.registry.globalOf? u k = l.registry.globalOf? u d := by
      simp only [Registry.globalOf?, Registry.idOf?, hu.canonical tag hk]
    obtain rfl := Option.some.inj ((same.symm.trans known').symm.trans known)
    exact .inl (done.resolve_left (by simp [own]))

theorem materialize_of_underway (h : g.id ∈ l.order ∨ g.id ∈ l.defining) :
    materialize u r d g l = (.ok (), l) := by
  have : (l.isListed g.id || decide (g.id ∈ l.defining)) = true := by
    simpa [Listing.isListed_eq] using h
  simp only [materialize, Step.bind_run, Step.read, this, if_true]
  rfl

theorem materialize_of_written (hk : u.definition? d = some k) (hi : u.isImplicit k = false) :
    materialize u r d g l = (.ok (), l) := by
  simp only [materialize, Step.bind_run, Step.read, hk, hi]
  split <;> rfl

theorem Listing.Settled.goes {id : Int} (h : l.Settled u d id) (goes : l.Goes u l') :
    l'.Settled u d id := by
  rcases h with h | h | ⟨k, hk, fulfilled⟩
  · exact (goes.proceeds.succeeds.underway (.inl h)).imp_right .inl
  · exact (goes.proceeds.succeeds.underway (.inr h)).imp_right .inl
  · exact .inr (.inr ⟨k, hk, fun hi => (fulfilled hi).proceeds goes.proceeds⟩)

theorem materialize_of_settled (h : l.Settled u d g.id) (hu : u.Coherent)
    (tag : (u.kind d).isTag = true) (known : l.registry.globalOf? u d = some g)
    (own : g.isBuiltin = false) : materialize u r d g l = (.ok (), l) := by
  by_cases underway : g.id ∈ l.order ∨ g.id ∈ l.defining
  · exact materialize_of_underway underway
  obtain ⟨k, hk, -⟩ := (h.resolve_left fun h => underway (.inl h)).resolve_left
    fun h => underway (.inr h)
  cases hi : u.isImplicit k with
  | false => exact materialize_of_written hk hi
  | true => exact absurd (h.underway hu tag known own hk hi) underway

theorem declareIncomplete_ok (hs : l.Sound u) (known : l.registry.globalOf? u d = some g)
    (tag : g.form.isTag = true) : ∃ l', declareIncomplete u d l = (.ok g, l') := by
  simp only [declareIncomplete, Step.bind_run, lookup_of_known hs known, Step.read]
  split
  · exact ⟨_, rfl⟩
  · unfold recordNoMembers
    cases hf : g.form <;> rw [hf] at tag <;> first | exact ⟨_, rfl⟩ | cases tag

theorem materialize_of_endures (hr : r.Faithful u n) (hu : u.Coherent)
    (hd : (u.kind d).isTypeDecl = true) (known : l.registry.globalOf? u d = some g)
    (own : g.isBuiltin = false) (settled : l.Settled u d g.id) (lasts : l.Endures u l₂)
    (known₂ : l₂.registry.globalOf? u d = some g') (same : g'.id = g.id)
    (tag : g'.form.isTag = true) (clean : g'.id ∉ l₂.registry.poisoned) :
    ∃ l₃, materialize u r d g' l₂ = (.ok (), l₃) ∧ l₂.Goes u l₃ := by
  suffices ∃ l₃, materialize u r d g' l₂ = (.ok (), l₃) by
    obtain ⟨l₃, run⟩ := this
    have visit := ((runs_materialize (S := fun _ => False) hr lasts.sound hd known₂ tag).ok run).1
    exact ⟨l₃, run, visit.goes hu (fun _ h => h.elim) lasts.sound lasts.undefined⟩
  by_cases underway : g'.id ∈ l₂.order ∨ g'.id ∈ l₂.defining
  · exact ⟨l₂, materialize_of_underway underway⟩
  have idle : (l₂.isListed g'.id || decide (g'.id ∈ l₂.defining)) = false := by
    simpa [Listing.isListed_eq] using underway
  cases hk : u.definition? d with
  | none =>
    obtain ⟨l₃, run⟩ := declareIncomplete_ok lasts.sound known₂ tag
    refine ⟨l₃, ?_⟩
    simp only [materialize, Step.bind_run, Step.read, idle, hk, Bool.false_eq_true, if_false, run]
    rfl
  | some k =>
    cases hi : u.isImplicit k with
    | false => exact ⟨l₂, materialize_of_written hk hi⟩
    | true =>
      -- it was listed or under way, and nothing with a definition is ever incomplete
      have kind : (u.kind d).isTag = true := by
        rwa [lasts.sound.isTag_kind hu (.inl (isFound_of_isTypeDecl hd)) known₂
          (Form.isBuiltin_of_isTag tag)]
      have before := settled.underway hu kind known own hk hi
      rw [← same] at before
      have defined := hu.definition_self kind hk
      have hid : l₂.registry.idOf? u k = some g'.id := by
        rw [Registry.idOf?, hu.canonical kind hk]
        exact (lasts.sound.registry.globalOf?_eq_some.1 known₂).1
      rcases lasts.underway before with h | h | h
      · exact absurd h underway
      · exact absurd h clean
      · exact absurd h (lasts.undefined.not_mem lasts.sound hu defined hid)

/-- Asks for a declaration that was not skipped and, if it is a record or enum, makes sure that it
reaches the list. -/
def reach (u : SourceUnit) (r : Recursion) (d : CursorId) (g : Global) :
    Step Fault Listing Unit := do
  let _ ← Listing.resolved g.id
  if g.form.isTag then materialize u r d g

/-- The reference to a declaration, once its global is known. -/
def refer (u : SourceUnit) (r : Recursion) (d : CursorId) (g : Global) :
    Step Fault Listing CType :=
  if g.isBuiltin then pure g.reference
  else if u.kind d = .typedefDecl && u.isImplicit (u.canonical d) then
    r.convert (u.cursor d).underlying d
  else do
    reach u r d g
    return g.reference

theorem reach_of_outline (h : g'.outline = g.outline) : reach u r d g' = reach u r d g := by
  simp only [reach, materialize, Global.id_of_outline h, Global.isTag_of_outline h]

theorem refer_of_outline (h : g'.outline = g.outline) : refer u r d g' = refer u r d g := by
  simp only [refer, reach_of_outline h, Global.isBuiltin_of_outline h,
    Global.reference_of_outline h]

theorem resolved_of_known {id : Int} (known : l.registry.globals.get? id = some g) :
    Listing.resolved id l = if id ∈ l.registry.poisoned then
      (.error (.unresolved g.name.display Fault.wasSkipped), l) else (.ok g, l) := by
  simp only [Listing.resolved, Registry.get, known]
  split <;> rfl

theorem declaredType_eq_refer (hd : (u.kind d).isTypeDecl = true) (hs : l.Sound u)
    (look : lookup u d l = (.ok g, l')) : declaredType u r d l = refer u r d g l' := by
  have resolved := resolved_of_known (known_of_lookup hs look).2
  simp only [declaredType, refer, reach, hd, Bool.not_true, Bool.false_eq_true, if_false,
    Step.bind_run, look]
  cases hf : g.form <;> simp only [Global.isBuiltin, hf, Form.isBuiltin, Bool.false_eq_true,
    if_false, if_true, Global.reference] <;> try rfl
  all_goals
    split
    · rfl
    · by_cases skipped : g.id ∈ l'.registry.poisoned
      · simp only [Step.bind_run, resolved, skipped, if_true]
      · simp only [Step.bind_run, resolved, skipped, if_false, hf]
        rfl

theorem reach_of_clean (known : l.registry.globals.get? g.id = some g)
    (clean : g.id ∉ l.registry.poisoned) :
    reach u r d g l = (if g.form.isTag then materialize u r d g else pure ()) l := by
  simp only [reach, Step.bind_run, resolved_of_known known, clean, if_false]

/-- As long as nothing fails, reaching a declaration again has nothing to do. -/
theorem reach_of_goes (hu : u.Coherent) (hd : (u.kind d).isTypeDecl = true)
    (known : l.registry.globalOf? u d = some g) (own : g.isBuiltin = false)
    (clean : g.id ∉ l.registry.poisoned) (settled : g.form.isTag = true → l.Settled u d g.id)
    (goes : l.Goes u l₂) : reach u r d g l₂ = (.ok (), l₂) := by
  obtain ⟨g₂, known₂, outline⟩ := goes.proceeds.moves.registry.globalOf? known
  have hid := Global.id_of_outline outline
  have clean₂ : g₂.id ∉ l₂.registry.poisoned := by
    rw [hid, goes.proceeds.succeeds.poisoned]
    exact clean
  rw [← reach_of_outline outline,
    reach_of_clean (goes.proceeds.sound.registry.globalOf?_eq_some.1 known₂).2 clean₂]
  split
  · rename_i tag
    have own₂ := (Global.isBuiltin_of_outline outline).trans own
    have kind := goes.proceeds.sound.isTag_kind hu (.inl (isFound_of_isTypeDecl hd)) known₂ own₂
    have settled₂ := (settled ((Global.isTag_of_outline outline).symm.trans tag)).goes goes
    exact materialize_of_settled (hid ▸ settled₂) hu (kind.trans tag) known₂ own₂
  · rfl

theorem recurs_reach (hr : r.Faithful u n) (hu : u.Coherent) (hd : (u.kind d).isTypeDecl = true)
    (hs : l.Sound u) (known : l.registry.globalOf? u d = some g) (own : g.isBuiltin = false)
    (clean : g.id ∉ l.registry.poisoned) (settled : g.form.isTag = true → l.Settled u d g.id)
    (lasts : l.Endures u l₂) : Recurs u (reach u r d g) [g.id] () l l₂ := by
  obtain ⟨g₂, known₂, outline⟩ := lasts.registry.globalOf? known
  have hid := Global.id_of_outline outline
  have get₂ := (lasts.sound.registry.globalOf?_eq_some.1 known₂).2
  unfold Recurs
  rw [← reach_of_outline outline]
  by_cases skipped : g₂.id ∈ l₂.registry.poisoned
  · refine .inr ⟨g.id, List.mem_singleton.2 rfl, g, l₂, clean, hid ▸ skipped,
      (hs.registry.globalOf?_eq_some.1 known).2, ?_⟩
    simp only [reach, Step.bind_run, resolved_of_known get₂, skipped, if_true,
      (Global.outline_eq.1 outline).1]
  · left
    rw [reach_of_clean get₂ skipped]
    split
    · rename_i tag
      exact materialize_of_endures hr hu hd known own
        (settled ((Global.isTag_of_outline outline).symm.trans tag)) lasts known₂ hid tag skipped
    · exact ⟨l₂, rfl, goes_refl lasts.sound lasts.undefined⟩

theorem repeatable_reach (hr : r.Faithful u n) (hu : u.Coherent)
    (hd : (u.kind d).isTypeDecl = true) (hs : l.Sound u) (hl : l.Undefined u)
    (known : l.registry.globalOf? u d = some g) (own : g.isBuiltin = false) :
    Repeatable u l (reach u r d g) fun _ => [g.id] := by
  rintro ⟨⟩ l₁ run
  have get := (hs.registry.globalOf?_eq_some.1 known).2
  have clean : g.id ∉ l.registry.poisoned := by
    intro skipped
    simp only [reach, Step.bind_run, resolved_of_known get, skipped, if_true] at run
    cases run
  rw [reach_of_clean get clean] at run
  have reached : l.Goes u l₁ ∧ (g.form.isTag = true → l₁.Settled u d g.id) := by
    split at run
    · rename_i tag
      obtain ⟨visit, settled⟩ := (runs_materialize (S := fun _ => False) hr hs hd known tag).ok run
      exact ⟨visit.goes hu (fun _ h => h.elim) hs hl, fun _ => settled⟩
    · rename_i tag
      cases run
      exact ⟨goes_refl hs hl, fun h => absurd h tag⟩
  obtain ⟨goes, settled⟩ := reached
  obtain ⟨g₁, known₁, outline⟩ := goes.proceeds.moves.registry.globalOf? known
  have hid := Global.id_of_outline outline
  refine ⟨goes, ?_⟩
  have own₁ : g₁.isBuiltin = false := (Global.isBuiltin_of_outline outline).trans own
  have clean₁ : g₁.id ∉ l₁.registry.poisoned := by
    rw [hid, goes.proceeds.succeeds.poisoned]
    exact clean
  have settled₁ : g₁.form.isTag = true → l₁.Settled u d g₁.id := by
    rw [hid, Global.isTag_of_outline outline]
    exact settled
  rw [← reach_of_outline outline, ← hid]
  exact ⟨reach_of_goes hu hd known₁ own₁ clean₁ settled₁,
    recurs_reach hr hu hd goes.proceeds.sound known₁ own₁ clean₁ settled₁⟩

theorem mem_refs_reference (own : g.isBuiltin = false) : g.id ∈ g.reference.refs := by
  unfold Global.isBuiltin at own
  unfold Global.reference
  cases hf : g.form <;> rw [hf] at own <;> simp_all [CType.refs, Form.isBuiltin]

end references

/-- The nested conversions of a recursion repeat. -/
def Recursion.Repeating (u : SourceUnit) (r : Recursion) : Prop :=
  ∀ {l} t c, l.Sound u → l.Undefined u → Repeatable u l (r.convert t c) CType.refs

section conversion

variable {u : SourceUnit} {r : Recursion} {n : Nat} {l l' : Listing} {d : CursorId} {g : Global}

theorem repeatable_refer (hr : r.Faithful u n) (hc : r.Repeating u) (hu : u.Coherent)
    (hd : (u.kind d).isTypeDecl = true) (hs : l.Sound u) (hl : l.Undefined u)
    (known : l.registry.globalOf? u d = some g) :
    Repeatable u l (refer u r d g) CType.refs := by
  refine .ite (fun _ => .pure hs hl _) fun own => .ite (fun _ => hc _ _ hs hl) fun _ => ?_
  have own : g.isBuiltin = false := by simpa using own
  refine (repeatable_reach hr hu hd hs hl known own).map _ fun _ i hi => ?_
  obtain rfl := List.mem_singleton.1 hi
  exact mem_refs_reference own

theorem repeatable_declaredType (hr : r.Faithful u n) (hc : r.Repeating u) (hu : u.Coherent)
    (hs : l.Sound u) (hl : l.Undefined u) (d : CursorId) :
    Repeatable u l (declaredType u r d) CType.refs := by
  by_cases hd : (u.kind d).isTypeDecl = true
  · intro m l₁ run
    rcases look : lookup u d l with ⟨e | g, l'⟩
    · simp only [declaredType, hd, Bool.not_true, Bool.false_eq_true, if_false, Step.bind_run,
        look] at run
      cases run
    · rw [declaredType_eq_refer hd hs look] at run
      have looked : l.Goes u l' :=
        (Visit.of_lookup (S := fun _ => False) look).goes hu (fun _ h => h.elim) hs hl
      have known := (looked.proceeds.sound.registry.globalOf?_eq_some (c := d)).2
        (known_of_lookup hs look)
      obtain ⟨goes, repeats⟩ := repeatable_refer hr hc hu hd looked.proceeds.sound looked.undefined
        known m l₁ run
      refine ⟨looked.trans goes, repeats.congr fun {l₂} lasts => ?_⟩
      -- by then the declaration is registered, and its global is the same in outline
      obtain ⟨g₂, known₂, outline⟩ := (goes.endures.trans lasts).registry.globalOf? known
      rw [declaredType_eq_refer hd lasts.sound (lookup_of_known lasts.sound known₂),
        refer_of_outline outline]
  · rw [declaredType, if_pos (by simpa using hd)]
    exact .pure hs hl _

theorem repeatable_convertDeclared (hc : r.Repeating u) (hs : l.Sound u) (hl : l.Undefined u)
    (ps : List CursorId) : Repeatable u l (convertDeclared u r ps) CType.argRefs := by
  induction ps generalizing l with
  | nil => exact .pure hs hl _
  | cons p rest ih =>
    refine (hc _ p hs hl).map₂ (fun goes => ih goes.proceeds.sound goes.undefined)
      (fun t ms => ⟨u.spellingOf p, t⟩ :: ms) (fun t ms i hi => ?_) fun t ms i hi => ?_
    · exact List.mem_append_left _ hi
    · exact List.mem_append_right _ hi

theorem repeatable_convertUnnamed (hc : r.Repeating u) (hs : l.Sound u) (hl : l.Undefined u)
    (c : CursorId) (ts : List TypeId) :
    Repeatable u l (convertUnnamed r c ts) CType.argRefs := by
  induction ts generalizing l with
  | nil => exact .pure hs hl _
  | cons t rest ih =>
    refine (hc t c hs hl).map₂ (fun goes => ih goes.proceeds.sound goes.undefined)
      (fun t ms => ⟨"", t⟩ :: ms) (fun t ms i hi => ?_) fun t ms i hi => ?_
    · exact List.mem_append_left _ hi
    · exact List.mem_append_right _ hi

theorem repeatable_signature (hc : r.Repeating u) (hs : l.Sound u) (hl : l.Undefined u)
    (f : TypeId) (c : CursorId) :
    Repeatable u l (signature u r f c) fun s => s.ret.refs ++ CType.argRefs s.args := by
  have ret := hc (u.typeNode f).result c hs hl
  unfold signature
  by_cases hk : (u.typeNode f).kind ≠ .functionProto
  · simp only [if_pos hk]
    exact ret.map (fun t => (⟨t, [], false⟩ : Signature)) fun t i hi => List.mem_append_left _ hi
  · simp only [if_neg hk]
    have signed {x : Step Fault Listing (List (Param CType))}
        (hx : ∀ {l'}, l'.Sound u → l'.Undefined u → Repeatable u l' x CType.argRefs) :
        Repeatable u l (do
          let ret ← r.convert (u.typeNode f).result c
          let args ← x
          return (⟨ret, args, (u.typeNode f).variadic⟩ : Signature))
          fun s => s.ret.refs ++ CType.argRefs s.args :=
      ret.map₂ (fun goes => hx goes.proceeds.sound goes.undefined) _
        (fun _ _ _ hi => List.mem_append_left _ hi) fun _ _ _ hi => List.mem_append_right _ hi
    by_cases hp : (u.parameters c).length = (u.typeNode f).params.length
    · simp only [if_pos hp]
      exact signed fun hs hl => repeatable_convertDeclared hc hs hl _
    · simp only [if_neg hp]
      exact signed fun hs hl => repeatable_convertUnnamed hc hs hl c _

theorem repeatable_convertPointer (hr : r.Faithful u n) (hc : r.Repeating u) (hu : u.Coherent)
    (hs : l.Sound u) (hl : l.Undefined u) (t : TypeId) (c : CursorId) :
    Repeatable u l (convertPointer u r t c) CType.refs := by
  rw [convertPointer_eq]
  dsimp only
  refine .ite (fun _ => ?_) fun _ => .ite (fun _ => ?_) fun _ => .ite (fun _ => ?_) fun _ =>
    .ite (fun _ => ?_) fun _ => .ite (fun _ => ?_) fun _ => ?_
  · exact (hc _ c hs hl).map _ fun _ _ hi => hi
  · exact (repeatable_signature hc hs hl _ c).map _ fun _ _ hi => hi
  · exact .pure hs hl _
  · exact (repeatable_declaredType hr hc hu hs hl _).map _ fun _ _ hi => hi
  · exact hc _ c hs hl
  · exact .pure hs hl _

theorem repeatable_convertType (hr : r.Faithful u n) (hc : r.Repeating u) (hu : u.Coherent)
    (hs : l.Sound u) (hl : l.Undefined u) (t : TypeId) (c : CursorId) :
    Repeatable u l (convertType u r t c) CType.refs := by
  have declared := repeatable_declaredType hr hc hu hs hl (u.typeNode t).decl
  have function := repeatable_signature hc hs hl t c
  unfold convertType
  dsimp only
  generalize (u.typeNode t).kind = k
  cases k <;> dsimp only
  case pointer => exact repeatable_convertPointer hr hc hu hs hl t c
  case record | enum | typedef => exact declared
  case elaborated => exact hc _ c hs hl
  case constantArray | incompleteArray | variableArray | dependentSizedArray =>
    exact (hc _ c hs hl).map _ fun _ _ hi => hi
  case functionProto | functionNoProto => exact function.map _ fun _ _ hi => hi
  case unexposed =>
    exact .ite (fun _ => declared) fun _ => .ite (fun _ => hc _ c hs hl) fun _ => .pure hs hl _
  case complex =>
    cases (u.typeKind (u.typeNode t).element).complexOver? with
    | none => exact .fail _
    | some b => exact .pure hs hl _
  case int128 | uint128 | vector | other => exact .fail _
  all_goals exact .pure hs hl _

/-- Every conversion that succeeds repeats, to whatever depth it goes. -/
theorem repeating_recursionWithin (hu : u.Coherent) (n : Nat) :
    (u.recursionWithin n).Repeating u := by
  induction n with
  | zero => exact fun _ _ _ _ => .fail _
  | succ n ih =>
    exact fun t c hs hl => repeatable_convertType (u.recursionWithin_faithful n) ih hu hs hl t c

end conversion

end DeclAtlas
