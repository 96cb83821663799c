import DeclAtlas.Proofs.Containment
import DeclAtlas.Proofs.Sweep
import Mathlib.Data.List.ProdSigma
import Mathlib.Logic.Relation
import Mathlib.Tactic.Linarith

/-! Extraction ends, however records refer to one another. A conversion only goes on to pairs
further along an acyclic relation, and a definition only to definitions further down in its text.
The one way back from a conversion to a definition is a definition on demand, and that takes a
declaration that is neither listed nor under way and puts it under way; what is listed or under way
stays so until a fault ends the whole recursion. So the declarations that are still waiting, the
place in the text and the place among the types bound the depth together. -/

namespace DeclAtlas

section counting

variable {α : Type} {p q : α → Bool} {xs : List α} {x y : α}

theorem countP_lt (h : ∀ z ∈ xs, q z = true → p z = true) (hx : x ∈ xs) (hp : p x = true)
    (hq : q x = false) : xs.countP q < xs.countP p := by
  induction xs with
  | nil => cases hx
  | cons z zs ih =>
    have tail := fun w hw => h w (List.mem_cons_of_mem _ hw)
    have le := List.countP_mono_left tail
    rw [List.countP_cons, List.countP_cons]
    rcases List.mem_cons.1 hx with rfl | hx
    · simp only [hp, hq, if_true, Bool.false_eq_true, if_false]
      omega
    · have lt := ih tail hx
      have head := h z (List.mem_cons_self ..)
      cases hz : q z with
      | false => simp only [Bool.false_eq_true, if_false]; omega
      | true => simp only [head hz, if_true]; omega

open Classical in
/-- How many elements of a list lie beyond `x`. -/
noncomputable def ahead (R : α → α → Prop) (xs : List α) (x : α) : Nat :=
  xs.countP fun y => decide (R x y)

theorem ahead_le (R : α → α → Prop) (xs : List α) (x : α) : ahead R xs x ≤ xs.length :=
  List.countP_le_length

open Classical in
theorem ahead_lt {R : α → α → Prop} (trans : ∀ {x y z}, R x y → R y z → R x z)
    (irrefl : ¬R y y) (h : R x y) (hy : y ∈ xs) : ahead R xs y < ahead R xs x := by
  refine countP_lt (fun z _ hz => ?_) hy (decide_eq_true h) (decide_eq_false irrefl)
  exact decide_eq_true (trans h (of_decide_eq_true hz))

end counting

namespace SourceUnit

variable {u : SourceUnit} {c d : CursorId} {t : TypeId} {x y : TypeId × CursorId}

/-- A conversion of the pair `x` goes on to one of the pair `y`. -/
def Asks (u : SourceUnit) (x y : TypeId × CursorId) : Prop := y ∈ u.demands x.1 x.2

/-- The types of a unit as its cursors see them. -/
def pairs (u : SourceUnit) : List (TypeId × CursorId) := u.typeIds ×ˢ u.cursorIds

/-- The children of cursors and the pairs that conversions go on to form no cycles, where the text
of a record or enum does not count as part of its type; and a definition has the canonical cursor of
what it defines. -/
structure Acyclic (u : SourceUnit) : Prop where
  children : ∀ c ∈ u.cursorIds, ¬u.Below c c
  types : ∀ x ∈ u.pairs, ¬Relation.TransGen u.Asks x x
  canonical : ∀ {c k}, u.definition? c = some k → u.canonical k = u.canonical c

/-- How many cursors stand in the text of `c`. -/
noncomputable def height (u : SourceUnit) (c : CursorId) : Nat := ahead u.Below u.cursorIds c

/-- How many pairs a conversion may go on to in the end. -/
noncomputable def reach (u : SourceUnit) (x : TypeId × CursorId) : Nat :=
  ahead (Relation.TransGen u.Asks) u.pairs x

/-- The depth that one definition on demand may take up before the next. -/
def span (u : SourceUnit) : Nat := u.pairs.length + u.cursorIds.length + 2

@[simp] theorem length_cursorIds (u : SourceUnit) : u.cursorIds.length = u.cursors.size := by
  simp [cursorIds]

theorem height_le (u : SourceUnit) (c : CursorId) : u.height c ≤ u.cursorIds.length :=
  ahead_le ..

theorem height_le_depthBound (u : SourceUnit) (c : CursorId) : u.height c + 2 ≤ u.depthBound := by
  have le := u.height_le c
  rw [length_cursorIds] at le
  exact Nat.add_le_add_right le 2

theorem reach_le (u : SourceUnit) (x : TypeId × CursorId) : u.reach x ≤ u.pairs.length :=
  ahead_le ..

theorem height_lt (h : d ∈ u.children c) (hd : d ∈ u.cursorIds) (acyclic : ¬u.Below d d) :
    u.height d < u.height c :=
  ahead_lt (fun h h' => h.within (.inr h')) acyclic (.child h) hd

theorem Acyclic.height_lt (hu : u.Acyclic) (h : d ∈ u.children c) (hd : d ∈ u.cursorIds) :
    u.height d < u.height c :=
  SourceUnit.height_lt h hd (hu.children d hd)

theorem Acyclic.reach_lt (hu : u.Acyclic) (h : u.Asks x y) (hy : y ∈ u.pairs) :
    u.reach y < u.reach x :=
  ahead_lt (fun h h' => h.trans h') (hu.types y hy) (.single h) hy

@[simp] theorem length_pairs (u : SourceUnit) : u.pairs.length = u.types.size * u.cursors.size := by
  simp [pairs, List.length_product, typeIds]

theorem cursor_of_not_mem_cursorIds (h : c ∉ u.cursorIds) : u.cursor c = { kind := .noDeclFound } := by
  cases c with
  | absent => rfl
  | node i =>
    have hi : u.cursors.size ≤ i := by
      apply Nat.le_of_not_lt
      intro hi
      exact h (List.mem_map.2 ⟨i, List.mem_range.2 hi, rfl⟩)
    rw [cursor, Array.getElem?_eq_none hi, Option.getD_none]

theorem children_of_not_mem_cursorIds (h : c ∉ u.cursorIds) : u.children c = [] := by
  rw [SourceUnit.children, cursor_of_not_mem_cursorIds h]

/-- A pair that can ask for something is among the pairs of the unit. -/
def Placed (u : SourceUnit) (x : TypeId × CursorId) : Prop :=
  u.typeKind x.1 ≠ .invalid → x.2 ∈ u.cursorIds

theorem placed_signature {f : TypeId} (hc : c ∈ u.cursorIds) (h : y ∈ u.signatureDemands f c) :
    u.Placed y := by
  intro valid
  unfold signatureDemands at h
  rcases List.mem_cons.1 h with rfl | h
  · exact hc
  split at h
  · cases h
  split at h
  · obtain ⟨p, -, rfl⟩ := List.mem_map.1 h
    apply Decidable.byContradiction
    intro hp
    rw [cursor_of_not_mem_cursorIds hp] at valid
    exact valid rfl
  · obtain ⟨t, -, rfl⟩ := List.mem_map.1 h
    exact hc

theorem placed_declared (h : y ∈ u.declaredDemands d) : u.Placed y := by
  intro _
  unfold declaredDemands at h
  split at h
  · rename_i hk
    rw [List.mem_singleton.1 h]
    refine mem_cursorIds (isFound_of_isTypeDecl ?_)
    rw [of_decide_eq_true (Bool.and_eq_true_iff.1 hk).1]
    rfl
  · cases h

theorem placed_pointer (hc : c ∈ u.cursorIds) (h : y ∈ u.pointerDemands t c) : u.Placed y := by
  have here {t' : TypeId} (h : y ∈ [(t', c)]) : u.Placed y := by
    rw [List.mem_singleton.1 h]
    exact fun _ => hc
  unfold pointerDemands at h
  dsimp only at h
  split at h
  · exact here h
  split at h
  · exact placed_signature hc h
  split at h
  · cases h
  split at h
  · exact placed_declared h
  split at h
  · exact here h
  · cases h

theorem placed_demands (hc : c ∈ u.cursorIds) (h : y ∈ u.demands t c) : u.Placed y := by
  have here {t' : TypeId} (h : y ∈ [(t', c)]) : u.Placed y := by
    rw [List.mem_singleton.1 h]
    exact fun _ => hc
  unfold demands at h
  dsimp only at h
  split at h
  · exact placed_pointer hc h
  · exact here h
  · exact here h
  · exact here h
  · exact here h
  · exact placed_signature hc h
  · exact placed_signature hc h
  · exact here h
  · exact placed_declared h
  · exact placed_declared h
  · exact placed_declared h
  · split at h
    · exact placed_declared h
    split at h
    · exact here h
    · cases h
  · cases h

theorem mem_pairs (valid : u.typeKind x.1 ≠ .invalid) (hx : x.2 ∈ u.cursorIds) : x ∈ u.pairs :=
  List.mem_product.2 ⟨mem_typeIds valid, hx⟩

theorem demands_of_invalid (h : u.typeKind t = .invalid) : u.demands t c = [] := by
  have kind : (u.typeNode t).kind = .invalid := h
  simp [demands, kind]

theorem Below.place_lt {place : CursorId → Nat}
    (children : ∀ c ∈ u.cursorIds, ∀ d ∈ u.children c, place d < place c) (h : u.Below c d) :
    place d < place c := by
  have placed {c d : CursorId} (h : d ∈ u.children c) : place d < place c := by
    refine children c (Decidable.byContradiction fun hc => ?_) d h
    rw [children_of_not_mem_cursorIds hc] at h
    cases h
  induction h with
  | child h => exact placed h
  | inside h _ ih => exact Nat.lt_trans ih (placed h)

/-- A unit is acyclic if its cursors and pairs can be numbered so that the numbers fall. -/
theorem Acyclic.of_levels (place : CursorId → Nat) (level : TypeId × CursorId → Nat)
    (children : ∀ c ∈ u.cursorIds, ∀ d ∈ u.children c, place d < place c)
    (types : ∀ x ∈ u.pairs, ∀ y ∈ u.demands x.1 x.2, level y < level x)
    (canonical : ∀ c ∈ u.cursorIds, ∀ k ∈ u.definition? c, u.canonical k = u.canonical c) :
    u.Acyclic := by
  have sinks {x y : TypeId × CursorId} (hx : x ∈ u.pairs) (h : Relation.TransGen u.Asks x y) :
      level y < level x ∧ u.Placed y := by
    obtain ⟨-, hc⟩ := List.mem_product.1 hx
    induction h with
    | single h => exact ⟨types x hx _ h, placed_demands hc h⟩
    | @tail y z _ h ih =>
      have valid : u.typeKind y.1 ≠ .invalid := by
        intro blank
        rw [Asks, demands_of_invalid blank] at h
        cases h
      have hy := ih.2 valid
      exact ⟨Nat.lt_trans (types y (mem_pairs valid hy) z h) ih.1, placed_demands hy h⟩
  refine ⟨fun c _ h => Nat.lt_irrefl _ (h.place_lt children), fun x hx h => Nat.lt_irrefl _ (sinks hx h).1,
    fun {c k} h => canonical c (Decidable.byContradiction fun hc => ?_) k h⟩
  rw [definition?, cursor_of_not_mem_cursorIds hc] at h
  cases h

end SourceUnit

namespace Listing

open SourceUnit

variable {u : SourceUnit} {l l' l₁ : Listing} {c d : CursorId} {g : Global}

def isUnderway (u : SourceUnit) (l : Listing) (c : CursorId) : Bool :=
  (l.registry.idOf? u c).any fun id => l.isListed id || decide (id ∈ l.defining)

/-- How many cursors belong to declarations that are neither listed nor under way. -/
def waiting (u : SourceUnit) (l : Listing) : Nat :=
  u.cursorIds.countP fun c => !l.isUnderway u c

theorem isUnderway_iff : l.isUnderway u c = true ↔
    ∃ id, l.registry.idOf? u c = some id ∧ (id ∈ l.order ∨ id ∈ l.defining) := by
  simp [isUnderway, Option.any_eq_true, isListed_eq]

theorem waiting_le (u : SourceUnit) (l : Listing) : l.waiting u ≤ u.cursorIds.length :=
  List.countP_le_length

theorem waiting_mono (h : ∀ c, l.isUnderway u c = true → l'.isUnderway u c = true) :
    l'.waiting u ≤ l.waiting u := by
  refine List.countP_mono_left fun c _ hc => ?_
  rw [Bool.not_eq_true', ← Bool.not_eq_true] at hc ⊢
  exact fun hl => hc (h c hl)

theorem Proceeds.waiting_le (h : l.Proceeds u l') : l'.waiting u ≤ l.waiting u := by
  apply waiting_mono
  intro c hc
  obtain ⟨id, hid, hl⟩ := isUnderway_iff.1 hc
  exact isUnderway_iff.2 ⟨id, h.moves.registry.idOf? hid, h.succeeds.underway hl⟩

theorem startDefining_waiting_le (l : Listing) (id : Int) :
    (l.startDefining id).waiting u ≤ l.waiting u := by
  apply waiting_mono
  intro c hc
  obtain ⟨i, hi, hl⟩ := isUnderway_iff.1 hc
  exact isUnderway_iff.2 ⟨i, hi, hl.imp_right fun h => IdSet.mem_insert.2 (.inr h)⟩

/-- A declaration that was waiting is not any more once its definition is under way. -/
theorem startDefining_waiting_lt {id : Int} (hc : c ∈ u.cursorIds)
    (hid : l.registry.idOf? u c = some id) (unlisted : id ∉ l.order) (idle : id ∉ l.defining) :
    (l.startDefining id).waiting u < l.waiting u := by
  refine countP_lt (fun d _ hd => ?_) hc ?_ ?_
  · rw [Bool.not_eq_true', ← Bool.not_eq_true] at hd ⊢
    intro hl
    obtain ⟨i, hi, hl⟩ := isUnderway_iff.1 hl
    exact hd (isUnderway_iff.2 ⟨i, hi, hl.imp_right fun h => IdSet.mem_insert.2 (.inr h)⟩)
  · rw [Bool.not_eq_true', ← Bool.not_eq_true, isUnderway_iff]
    rintro ⟨i, hi, hl⟩
    rw [hid] at hi
    cases hi
    exact hl.elim unlisted idle
  · have : (l.startDefining id).isUnderway u c = true :=
      isUnderway_iff.2 ⟨id, hid, .inr (IdSet.mem_insert.2 (.inl rfl))⟩
    rw [this]
    rfl

end Listing

/-- Any fault but the end of the bounds. -/
def Fault.Uncut (e : Fault) : Prop := e ≠ .exhausted

section recursion

open SourceUnit Listing

variable {u : SourceUnit} {r : Recursion} {n k : Nat} {l : Listing} {c : CursorId}

theorem lenient_uncut (u : SourceUnit) (k : Nat) :
    Lenient u Fault.Uncut fun l => l.waiting u ≤ k := by
  refine ⟨fun {e} own he => ?_, fun h hl => Nat.le_trans h.waiting_le hl⟩
  rw [he] at own
  cases own

theorem uncut_lookup (u : SourceUnit) (c : CursorId) (l : Listing) :
    FailsWithin Fault.Uncut l (Listing.lookup u c) := by
  intro e l' h he
  subst he
  unfold Listing.lookup at h
  split at h
  · unfold globalAt at h
    split at h <;> cases h
  · split at h <;> cases h
    rename_i hn
    unfold Registry.newGlobal at hn
    split at hn
    · cases hn
    · unfold SourceUnit.formOf at hn
      split at hn <;> cases hn

theorem uncut_declareIncomplete (hs : l.Sound u) (c : CursorId) :
    FailsWithin Fault.Uncut l (declareIncomplete u c) := by
  refine .bind (S := fun _ => True) hs (runs_lookup c hs) (uncut_lookup u c l) fun g l₁ h₁ hg => ?_
  change FailsWithin _ l₁ (if _ then _ else _)
  refine .ite (fun _ => .pure _) fun _ => ?_
  unfold recordNoMembers
  cases g.form with
  | composite | enum => exact .of_ok rfl
  | typedef | var | function | builtin => exact fun e l' h he => by subst he; cases h

/-- A recursion to depth `n` that is deep enough for what fits into `n`: a conversion with `k`
declarations waiting, and a definition that leaves `k` of them waiting. -/
structure Recursion.Suffices (u : SourceUnit) (n : Nat) (r : Recursion) : Prop where
  blank : ∀ {t c l}, 1 ≤ n → u.typeKind t = .invalid → FailsWithin Fault.Uncut l (r.convert t c)
  convert : ∀ {k t c}, c ∈ u.cursorIds → k * u.span + u.reach (t, c) + 2 ≤ n →
    Complies u Fault.Uncut (fun l => l.waiting u ≤ k) (r.convert t c)
  define : ∀ {k l c}, l.Sound u →
    (∀ g l₁, Listing.lookup u c l = (.ok g, l₁) → (l₁.startDefining g.id).waiting u ≤ k) →
    k * u.span + u.pairs.length + u.height c + 3 ≤ n → FailsWithin Fault.Uncut l (r.define c)

/-- A record or enum is defined on demand only if it was waiting. -/
theorem uncut_materialize (hu : u.Acyclic) (h : r.Suffices u n) {d : CursorId} {g : Global}
    (hs : l.Sound u) (hl : l.waiting u ≤ k) (hg : l.registry.globalOf? u d = some g)
    (hn : k * u.span + 1 ≤ n) : FailsWithin Fault.Uncut l (materialize u r d g) := by
  change FailsWithin _ l (if _ then _ else _)
  refine .ite (fun _ => .pure _) fun idle => ?_
  simp only [isListed_eq, Bool.or_eq_true, decide_eq_true_eq, not_or] at idle
  cases hk : u.definition? d with
  | none => exact .map (uncut_declareIncomplete hs d) fun _ _ => .pure _
  | some c =>
    refine .ite (fun _ => .map ?_ fun _ _ => .pure _) fun _ => .pure _
    have same : l.registry.globalOf? u c = some g := by
      rw [Registry.globalOf?, Registry.idOf?, hu.canonical hk]
      exact hg
    have hc := mem_cursorIds (isFound_of_definition hk)
    have hid := (hs.registry.globalOf?_eq_some.1 same).1
    have less := startDefining_waiting_lt hc hid idle.1 idle.2
    obtain ⟨j, rfl⟩ : ∃ j, k = j + 1 := ⟨k - 1, by omega⟩
    refine h.define (k := j) hs (fun g' l₁ look => ?_) ?_
    · rw [lookup_of_known hs same] at look
      cases look
      omega
    · have := u.height_le c
      rw [Nat.add_mul, Nat.one_mul] at hn
      unfold span at hn ⊢
      omega

theorem uncut_convertType (hu : u.Acyclic) (hr : r.Faithful u n) (h : r.Suffices u n)
    {t : TypeId} (hc : c ∈ u.cursorIds) (hn : k * u.span + u.reach (t, c) + 1 ≤ n) :
    Complies u Fault.Uncut (fun l => l.waiting u ≤ k) (convertType u r t c) := by
  refine complies_convertType hr (lenient_uncut u k) t c (fun ⟨t', c'⟩ hy l hs hl => ?_)
    fun d serves => ?_
  · by_cases blank : u.typeKind t' = .invalid
    · exact h.blank (by omega) blank
    · have hy' := placed_demands hc hy blank
      have := hu.reach_lt (x := (t, c)) hy (mem_pairs blank hy')
      exact h.convert (t := t') (c := c') hy' (by omega) hs hl
  · refine complies_declaredType (lenient_uncut u k) d (fun _ l _ _ => uncut_lookup u d l) serves ?_
    intro g l _ hs hl hg _
    exact uncut_materialize hu h hs hl hg (by omega)

theorem uncut_declare (h : r.Suffices u n) (hs : l.Sound u) (hl : l.waiting u ≤ k)
    (hn : k * u.span + u.pairs.length + u.height c + 3 ≤ n) :
    FailsWithin Fault.Uncut l (declare u r c) := by
  unfold declare
  cases u.definition? c with
  | none => exact .map (uncut_declareIncomplete hs c) fun _ _ => .pure _
  | some d =>
    refine .ite (fun _ => .map (h.define hs (fun g l₁ look => ?_) hn) fun _ _ => .pure _)
      fun _ => .pure _
    have := (proceeds_lookup hs look).waiting_le
    have := startDefining_waiting_le (u := u) l₁ g.id
    omega

theorem none_not_mem_visibleNames (hu : u.Acyclic) (hn : u.height c < n) :
    none ∉ u.visibleNames n c := by
  induction n generalizing c with
  | zero => omega
  | succ n ih =>
    rw [mem_visibleNames_succ]
    rintro ⟨d, hd, ⟨-, -, named⟩ | ⟨record, -, cut⟩⟩
    · cases named
    · have found := isFound_of_isTag (CursorKind.isTag_of_isRecord record)
      have := hu.height_lt hd (mem_cursorIds found)
      exact ih (by omega) cut

theorem not_isCutOff (hu : u.Acyclic) (parent c : CursorId) : ¬u.isCutOff parent c = true := by
  have enough := u.height_le_depthBound c
  rw [isCutOff, beq_iff_eq]
  intro found
  exact none_not_mem_visibleNames hu (by omega) (List.mem_of_find?_eq_some found)

theorem uncut_defineTag (hu : u.Acyclic) (hr : r.Faithful u n) (h : r.Suffices u n)
    (hs : l.Sound u)
    (hk : ∀ g l₁, Listing.lookup u c l = (.ok g, l₁) → (l₁.startDefining g.id).waiting u ≤ k)
    (hn : k * u.span + u.pairs.length + u.height c + 2 ≤ n) :
    FailsWithin Fault.Uncut l (defineTag u r c) := by
  refine failsWithin_defineTag hr hs (uncut_lookup u c l) fun {g l₁} look own => ?_
  refine complies_visitDefinition hr (lenient_uncut u k) c (.inr fun h => by cases h)
    (fun j cut => absurd cut (not_isCutOff hu c j)) (fun f hf hfield => ?_)
    (fun j hj tag l hs hl => ?_)
    ((proceeds_lookup hs look).sound.startDefining g.id) (hk g l₁ look)
  · have found : u.isFound f = true := by rw [isFound, hfield]; rfl
    have := u.reach_le ((u.cursor f).type, f)
    exact h.convert (mem_cursorIds found) (by omega)
  · have := hu.height_lt hj (mem_cursorIds (isFound_of_isTag tag))
    exact uncut_declare h hs hl (by omega)

/-- Every depth is enough for what fits into it. -/
theorem SourceUnit.recursionWithin_suffices (hu : u.Acyclic) (n : Nat) :
    (u.recursionWithin n).Suffices u n := by
  induction n with
  | zero => exact ⟨fun h => by omega, fun _ h => by omega, fun _ _ h => by omega⟩
  | succ n ih =>
    have hr := u.recursionWithin_faithful n
    refine ⟨fun {t c l} _ blank => ?_, fun hc hn => ?_, fun hs hk hn => ?_⟩
    · have : convertType u (u.recursionWithin n) t c l = (.ok .void, l) := by
        have kind : (u.typeNode t).kind = .invalid := blank
        simp [convertType, kind]
      exact .of_ok this
    · exact uncut_convertType hu hr ih hc (by omega)
    · exact uncut_defineTag hu hr ih hs hk (by omega)

end recursion

theorem SourceUnit.span_le_recursionBound (u : SourceUnit) :
    u.cursorIds.length * u.span + u.pairs.length + u.cursorIds.length + 4 ≤ u.recursionBound := by
  rw [span, length_cursorIds, length_pairs, recursionBound]
  generalize u.cursors.size = a
  generalize u.types.size = b
  nlinarith [Nat.zero_le (a * b), Nat.zero_le (a * a), Nat.zero_le (a * a * b),
    Nat.zero_le (a * a * a), Nat.zero_le (a * a * a * b)]

section bounds

open SourceUnit Listing

variable {u : SourceUnit} {l : Listing} {c p : CursorId} {t : TypeId} {n : Nat}

theorem uncut_convert (hu : u.Acyclic) (hs : l.Sound u) (hc : c ∈ u.cursorIds) (t : TypeId) :
    FailsWithin Fault.Uncut l (u.recursion.convert t c) := by
  have room := u.span_le_recursionBound
  have reach := u.reach_le (t, c)
  exact (recursionWithin_suffices hu _).convert (k := u.cursorIds.length) hc (by omega) hs
    (waiting_le u l)

theorem uncut_define (hu : u.Acyclic) (hs : l.Sound u) (c : CursorId) :
    FailsWithin Fault.Uncut l (u.recursion.define c) := by
  have room := u.span_le_recursionBound
  have height := u.height_le c
  exact (recursionWithin_suffices hu _).define (k := u.cursorIds.length) hs
    (fun g l₁ _ => waiting_le u _) (by omega)

theorem placed_topDemands {y : TypeId × CursorId} (h : y ∈ u.topDemands c) : u.Placed y := by
  have here (hk : (u.kind c).isInvalid = false) : c ∈ u.cursorIds :=
    mem_cursorIds (by rw [isFound, hk]; rfl)
  unfold topDemands at h
  split at h <;> rename_i hk <;> try rw [hk] at here
  · exact placed_signature (here rfl) h
  · rw [List.mem_singleton.1 h]
    exact fun _ => here rfl
  · rw [List.mem_singleton.1 h]
    exact fun _ => here rfl
  · cases h

theorem uncut_visitDeclaration (hu : u.Acyclic) (hs : l.Sound u) (c : CursorId) :
    FailsWithin Fault.Uncut l (visitDeclaration u u.recursion c) := by
  have suffices' := recursionWithin_suffices hu u.recursionBound
  have room := u.span_le_recursionBound
  have height := u.height_le c
  refine complies_visitDeclaration (u.recursionWithin_faithful u.recursionBound)
    (lenient_uncut u u.cursorIds.length) c (fun _ l _ _ => uncut_lookup u c l)
    (fun d _ l hs _ => uncut_declareIncomplete hs d)
    (fun _ l hs hl => uncut_declare suffices' hs hl (by omega))
    (fun y hy l hs _ => ?_) hs (waiting_le u l)
  by_cases blank : u.typeKind y.1 = .invalid
  · exact suffices'.blank (by omega) blank
  · exact uncut_convert hu hs (placed_topDemands hy blank) y.1

theorem uncut_visitTop (hu : u.Acyclic) (hs : l.Sound u) {e : Fault}
    (h : (visitTop u u.recursion c p l).1 = .error e) : e.Uncut := by
  rcases hrun : visitTop u u.recursion c p l with ⟨result, l'⟩
  rw [hrun] at h
  obtain rfl : result = .error e := h
  cases visitTop_stepped (u.recursionWithin_faithful _) hs hrun with
  | ended run => exact uncut_visitDeclaration hu hs c _ _ run

end bounds

section walk

open SourceUnit

variable {u : SourceUnit} {c p : CursorId} {n m : Nat}

/-- Whatever is done at each cursor, the walk itself is cut off only if it goes deeper than the
children do. -/
theorem confined_walkWithin_of_height {σ : Type} {P : σ → Prop} {E : Fault → Prop}
    {step : CursorId → CursorId → Step Fault σ Advance} (hu : u.Acyclic)
    (hs : ∀ c p, Step.Confined P E (step c p)) (hn : u.height p + 2 ≤ n) :
    Step.Confined P E (u.walkWithin step n p) := by
  induction n generalizing p with
  | zero => omega
  | succ n ih =>
    refine confined_walkChildren hs (fun c hc => ?_) p
    by_cases hmem : c ∈ u.cursorIds
    · have := hu.height_lt hc hmem
      exact ih (by omega)
    · -- a cursor the unit does not have has no children to walk over
      obtain ⟨k, rfl⟩ : ∃ k, n = k + 1 := ⟨n - 1, by omega⟩
      rw [walkWithin, children_of_not_mem_cursorIds hmem]
      exact .pure _

end walk

namespace Listing

variable {l : Listing} {n m : Nat}

theorem uncut_globalAt (id : Int) (l : Listing) : FailsWithin Fault.Uncut l (globalAt id) := by
  intro e l' h he
  subst he
  unfold globalAt at h
  split at h <;> cases h

theorem uncut_pruneOne (id : Int) (l : Listing) : FailsWithin Fault.Uncut l (pruneOne id) := by
  refine .map (uncut_globalAt id l) fun g l₁ => .map (.of_ok rfl) fun broken l₂ => ?_
  cases broken with
  | none => exact .pure _
  | some ref => exact .map (uncut_globalAt ref l₂) fun _ _ => .map (.of_ok rfl) fun _ _ => .pure _

theorem uncut_pruneEach (ids : List Int) (l : Listing) :
    FailsWithin Fault.Uncut l (pruneEach ids) := by
  induction ids generalizing l with
  | nil => exact .pure _
  | cons id rest ih =>
    exact .map (uncut_pruneOne id l) fun _ l₁ => .map (ih l₁) fun _ _ => .pure _

/-- Each round that changes something shortens the list, so more rounds than listed declarations
are never used up. -/
theorem uncut_pruneRounds {u : SourceUnit} (hs : l.Sound u) (enough : l.order.length < n) :
    FailsWithin Fault.Uncut l (pruneRounds n) := by
  induction n generalizing l with
  | zero => omega
  | succ n ih =>
    intro e l' run
    simp only [pruneRounds, Step.bind_run, Step.read] at run
    rcases each : pruneEach l.order l with ⟨e' | changed, l₁⟩ <;> rw [each] at run
    · cases run
      exact uncut_pruneEach _ _ _ _ each
    · obtain ⟨pruned, shorter, -⟩ := pruneEach_ok hs hs.nodup (fun _ h => h) each
      cases changed with
      | false => cases run
      | true =>
        have := shorter rfl
        exact ih (pruned.sound hs) (by omega) e l' run

theorem agrees_pruneRounds (h : n ≤ m) : Step.Agrees (pruneRounds n) (pruneRounds m) := by
  induction n generalizing m with
  | zero => exact .exhausted _
  | succ n ih =>
    obtain ⟨m, rfl⟩ : ∃ k, m = k + 1 := ⟨m - 1, by omega⟩
    exact .bind (.refl _) fun _ => .bind (.refl _) fun _ => .ite (ih (by omega)) (.refl _)

end Listing

/-- The computation `x` ends within depth `n`: it is not cut off there, and does the same to every
greater depth. -/
def EndsWithin {σ α : Type} (x : Nat → Step Fault σ α) (n : Nat) (s : σ) : Prop :=
  (x n s).1 ≠ .error .exhausted ∧ ∀ m, n ≤ m → x m s = x n s

section termination

open SourceUnit Listing
open Step (Agrees)

variable {u : SourceUnit} {l : Listing} {c : CursorId} {t : TypeId}

theorem EndsWithin.of_agrees {σ α : Type} {x : Nat → Step Fault σ α} {n : Nat} {s : σ}
    (uncut : ∀ e s', x n s = (.error e, s') → e.Uncut) (h : ∀ m, n ≤ m → Agrees (x n) (x m)) :
    EndsWithin x n s := by
  have ends : (x n s).1 ≠ .error .exhausted := fun he => uncut .exhausted _ (Prod.ext he rfl) rfl
  exact ⟨ends, fun m hm => h m hm s ends⟩

theorem endsWithin_convert (hu : u.Acyclic) (hs : l.Sound u) (hc : c ∈ u.cursorIds) (t : TypeId) :
    EndsWithin (fun n => (u.recursionWithin n).convert t c) u.recursionBound l :=
  .of_agrees (uncut_convert hu hs hc t) fun _ hm => (u.recursionWithin_agrees hm).convert t c

theorem endsWithin_define (hu : u.Acyclic) (hs : l.Sound u) (c : CursorId) :
    EndsWithin (fun n => (u.recursionWithin n).define c) u.recursionBound l :=
  .of_agrees (uncut_define hu hs c) fun _ hm => (u.recursionWithin_agrees hm).define c

theorem endsWithin_walk {σ : Type} {step : CursorId → CursorId → Step Fault σ Advance}
    (hu : u.Acyclic) (hs : ∀ c p s, (step c p s).1 ≠ .error .exhausted) (p : CursorId) (s : σ) :
    EndsWithin (fun n => u.walkWithin step n p) u.depthBound s := by
  have confined : Step.Confined (fun _ => True) Fault.Uncut (u.walkWithin step u.depthBound p) :=
    confined_walkWithin_of_height hu
      (fun c p s _ => ⟨trivial, fun e he huncut => hs c p s (huncut ▸ he)⟩)
      (height_le_depthBound u p)
  refine .of_agrees (fun e s' h => (confined s trivial).2 e (by rw [h])) fun m hm => ?_
  exact agrees_walkWithin (fun _ _ => .refl _) hm p

theorem endsWithin_pruneRounds (hl : l.Sound u ∨ l.Attested) :
    EndsWithin pruneRounds (l.order.length + 1) l := by
  refine .of_agrees ?_ fun _ => agrees_pruneRounds
  rcases hl with hs | attested
  · exact uncut_pruneRounds hs (Nat.lt_succ_self _)
  · obtain ⟨_, _, run, -⟩ := pruneRounds_sweeps attested (Nat.lt_succ_self _)
    exact FailsWithin.of_ok run

theorem visibleNames_of_height {n m : Nat} (hu : u.Acyclic) (hn : u.height c < n)
    (hm : u.height c < m) : u.visibleNames n c = u.visibleNames m c := by
  induction n generalizing c m with
  | zero => omega
  | succ n ih =>
    obtain ⟨m, rfl⟩ : ∃ k, m = k + 1 := ⟨m - 1, by omega⟩
    rw [visibleNames, visibleNames]
    refine List.flatMap_congr fun d hd => ?_
    by_cases record : (u.kind d).isRecord = true
    · have found := isFound_of_isTag (CursorKind.isTag_of_isRecord record)
      have := hu.height_lt hd (mem_cursorIds found)
      rw [ih (by omega) (by omega : u.height d < m)]
    · simp [record]

theorem uncut_walk (hu : u.Acyclic) (b : List BuiltinEntry) {e : Fault}
    (h : (u.walkWithin (visitTop u u.recursion) u.depthBound root
      (.ofBuiltins (.ofEntries b))).1 = .error e) : e.Uncut := by
  have step (c p : CursorId) : Step.Confined (fun l => l.Grounded u) Fault.Uncut
      (visitTop u u.recursion c p) := by
    intro l hl
    have passes := passes_visitTop (u.recursionWithin_faithful u.recursionBound) hl.sound c p
    exact ⟨(passes.grounded hl).1, fun e he => uncut_visitTop hu hl.sound he⟩
  have confined := confined_walkWithin_of_height hu step (height_le_depthBound u root)
  exact (confined _ (grounded_start u b)).2 e h

theorem uncut_extract (hu : u.Acyclic) (b : List BuiltinEntry) :
    (u.extract b).1 ≠ .error .exhausted := by
  have passed := u.passes_walkWithin u.recursionBound u.depthBound (grounded_start u b)
  have uncut (e : Fault) := uncut_walk hu b (e := e)
  unfold recursion at uncut
  rw [u.extract_eq_extractWithin, extractWithin, Step.bind_run]
  rcases hrun : u.walkWithin (visitTop u (u.recursionWithin u.recursionBound)) u.depthBound root
    (.ofBuiltins (.ofEntries b)) with ⟨e | ended, walked⟩ <;> rw [hrun] at passed uncut
  · intro he
    cases he
    exact uncut _ rfl rfl
  · obtain ⟨g, l, hend, -⟩ := u.conclude_passes (passed.grounded (grounded_start u b)).1
    dsimp only
    rw [hend]
    intro he
    cases he

end termination

/-- Extraction ends on every unit that is acyclic, even where records refer to themselves and to one
another: conversions and definitions end in every state an extraction can be in, the search for
field names ends, the walk ends whatever is done at each cursor, pruning ends on every listing whose
declarations are registered, and so does the whole, all within the bounds it sets itself. -/
theorem extraction_terminates {u : SourceUnit} (hu : u.Acyclic) :
    (∀ l : Listing, l.Sound u →
      (∀ t, ∀ c ∈ u.cursorIds,
        EndsWithin (fun n => (u.recursionWithin n).convert t c) u.recursionBound l) ∧
      ∀ c, EndsWithin (fun n => (u.recursionWithin n).define c) u.recursionBound l) ∧
    (∀ c, none ∉ u.visibleNames u.depthBound c ∧
      ∀ n, u.depthBound ≤ n → u.visibleNames n c = u.visibleNames u.depthBound c) ∧
    (∀ {σ : Type} (step : CursorId → CursorId → Step Fault σ Advance),
      (∀ c p s, (step c p s).1 ≠ .error .exhausted) →
      ∀ c s, EndsWithin (fun n => u.walkWithin step n c) u.depthBound s) ∧
    (∀ l : Listing, l.Sound u ∨ l.Attested →
      EndsWithin Listing.pruneRounds (l.order.length + 1) l) ∧
    ∀ b, (u.extract b).1 ≠ .error .exhausted ∧
      ∀ n m, u.recursionBound ≤ n → u.depthBound ≤ m → u.extractWithin n m b = u.extract b := by
  refine ⟨fun l hs => ⟨fun t c hc => endsWithin_convert hu hs hc t, endsWithin_define hu hs⟩,
    fun c => ?_, fun step hs c s => endsWithin_walk hu hs c s, fun l => endsWithin_pruneRounds,
    fun b => ⟨uncut_extract hu b, fun n m hn hm => ?_⟩⟩
  · have enough := u.height_le_depthBound c
    exact ⟨none_not_mem_visibleNames hu (by omega),
      fun n hn => visibleNames_of_height hu (by omega) (by omega)⟩
  · have uncut := uncut_extract hu b
    rw [u.extract_eq_extractWithin] at uncut ⊢
    exact u.extractWithin_mono hn hm uncut

/-- What the compiler provides here is a record around another, each with pointers to both. The
variable refers to the inner one first, so that its definition is entered again from the outer
one's. -/
def mutualUnit : SourceUnit where
  spelling := "test.c"
  cursors := #[
    { kind := .other "TRANSLATION_UNIT", spelling := "test.c", children := [.node 1, .node 7] },
    { kind := .structDecl, spelling := "Outer", definition := some (.node 1), type := .node 0,
      children := [.node 2, .node 5, .node 6], usr := "c:@S@Outer" },
    { kind := .structDecl, spelling := "Inner", definition := some (.node 2), type := .node 1,
      children := [.node 3, .node 4], usr := "c:@S@Inner" },
    { kind := .fieldDecl, spelling := "outer", type := .node 2, offset := 0 },
    { kind := .fieldDecl, spelling := "inner", type := .node 3, offset := 64 },
    { kind := .fieldDecl, spelling := "first", type := .node 1, offset := 0 },
    { kind := .fieldDecl, spelling := "next", type := .node 2, offset := 128 },
    { kind := .varDecl, spelling := "v", file := some "test.c", line := 1, column := 15,
      type := .node 3, linkage := .external, usr := "c:@v" }]
  types := #[
    { kind := .record, spelling := "struct Outer", decl := .node 1, size := 24, align := 8 },
    { kind := .record, spelling := "struct Inner", decl := .node 2, size := 16, align := 8 },
    { kind := .pointer, spelling := "struct Outer *", pointee := .node 0 },
    { kind := .pointer, spelling := "struct Inner *", pointee := .node 1 }]

/-- In this unit children come after their parents. -/
def mutualUnit.level : CursorId → Nat
  | .absent => 0
  | .node i => 8 - i

/-- In this unit types come after those that they are made of. -/
def mutualUnit.typeLevel : TypeId × CursorId → Nat
  | (.invalid, _) => 0
  | (.node i, _) => i + 1

theorem mutual_records_terminate : mutualUnit.Acyclic ∧
    ∀ b, (mutualUnit.extract b).1 ≠ .error .exhausted := by
  have acyclic : mutualUnit.Acyclic := by
    refine .of_levels mutualUnit.level mutualUnit.typeLevel ?_ ?_ ?_ <;> decide +kernel
  exact ⟨acyclic, fun b => ((extraction_terminates acyclic).2.2.2.2 b).1⟩

end DeclAtlas
