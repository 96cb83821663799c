import DeclAtlas.Proofs.Pruned
import DeclAtlas.Proofs.Reported
import Mathlib.Data.List.Perm.Basic
import Mathlib.Order.Bounds.Basic

/-! What pruning takes away. It goes over the list again and again while the list and the poisoned
identities change under it, and it takes away the least set that it could: what refers to a
poisoned declaration, to something that does, and so on. Neither the order of the list nor cycles
of references matter. -/

namespace DeclAtlas

namespace Listing

variable {l l₁ l' : Listing} {id ref : Int} {R : List Int}

/-- Every listed and every poisoned identity is registered. -/
structure Attested (l : Listing) : Prop where
  listed : ∀ id ∈ l.order, (l.registry.globals.get? id).map Global.id = some id
  poisoned : ∀ id ∈ l.registry.poisoned, (l.registry.globals.get? id).map Global.id = some id

/-- A global mentions `ref` in its own type, in the type it was recast to, or in the type of one
of its members. -/
def Mentions (l : Listing) (g : Global) (ref : Int) : Prop :=
  ∃ t : CType, ref ∈ t.refs ∧
    (g.type? = some t ∨ l.registry.recast.get? g.id = some t ∨
      ∃ members, l.members.get? g.id = some members ∧ ∃ m ∈ members, m.type = t)

theorem mentions_iff {g : Global} : l.Mentions g ref ↔ ref ∈ l.typeRefs g ++ l.memberRefs g := by
  simp only [Mentions, typeRefs, memberRefs, List.mem_append, List.mem_flatMap]
  cases g.type? <;> cases l.registry.recast.get? g.id <;> cases l.members.get? g.id <;>
    simp [and_or_left, exists_or, and_comm, or_assoc]

def Refers (l : Listing) (id ref : Int) : Prop :=
  id ∈ l.order ∧ ∃ g, l.registry.globals.get? id = some g ∧ l.Mentions g ref

/-- The set has every listed declaration that refers to a poisoned one or into the set. -/
def Contagious (l : Listing) (S : Set Int) : Prop :=
  ∀ ⦃id ref⦄, l.Refers id ref → ref ∈ l.registry.poisoned ∨ ref ∈ S → id ∈ S

/-- The declaration has to go: its references lead to a poisoned one. -/
inductive Tainted (l : Listing) : Int → Prop where
  | direct {id ref : Int} : l.Refers id ref → ref ∈ l.registry.poisoned → Tainted l id
  | through {id ref : Int} : l.Refers id ref → Tainted l ref → Tainted l id

theorem Tainted.listed (h : l.Tainted id) : id ∈ l.order := by
  cases h with
  | direct h | through h => exact h.1

theorem tainted_isLeast (l : Listing) :
    IsLeast {S : Set Int | (∀ id ∈ S, id ∈ l.order) ∧ l.Contagious S} {id | l.Tainted id} := by
  refine ⟨⟨fun id h => h.listed, fun id ref refers h => ?_⟩, ?_⟩
  · exact h.elim (.direct refers) (.through refers)
  · rintro S ⟨-, contagious⟩ id tainted
    induction tainted with
    | direct refers bad => exact contagious refers (.inl bad)
    | through refers _ ih => exact contagious refers (.inr ih)

theorem Tainted.mono (h : l.Tainted id) (refers : ∀ {i ref}, l.Refers i ref → l'.Refers i ref)
    (poisoned : ∀ {i}, i ∈ l.registry.poisoned → i ∈ l'.registry.poisoned) : l'.Tainted id := by
  induction h with
  | direct hr bad => exact .direct (refers hr) (poisoned bad)
  | through hr _ ih => exact .through (refers hr) ih

/-- A listed declaration is struck off for the poisoned one that it refers to. -/
def strike (g broken : Global) (l : Listing) : Listing :=
  l.skip g (Fault.unresolved broken.name.display Fault.wasSkipped).message

theorem mem_strike_order {g broken : Global} :
    id ∈ (l.strike g broken).order ↔ id ∈ l.order ∧ id ≠ g.id := by
  rw [and_comm]
  exact l.roll.nodup.mem_erase_iff

theorem mem_strike_poisoned {g broken : Global} :
    id ∈ (l.strike g broken).registry.poisoned ↔ id = g.id ∨ id ∈ l.registry.poisoned :=
  IdSet.mem_insert

theorem Refers.of_strike {g broken : Global} (h : (l.strike g broken).Refers id ref) :
    l.Refers id ref :=
  ⟨(mem_strike_order.1 h.1).1, h.2⟩

theorem Attested.get (h : l.Attested) (listed : id ∈ l.order) :
    ∃ g, l.registry.globals.get? id = some g ∧ g.id = id := by
  have := h.listed id listed
  rwa [Option.map_eq_some_iff] at this

theorem Attested.strike {g broken : Global} (h : l.Attested) (listed : g.id ∈ l.order) :
    (l.strike g broken).Attested where
  listed id hid := h.listed id (mem_strike_order.1 hid).1
  poisoned id hid := by
    rcases mem_strike_poisoned.1 hid with rfl | hid
    · exact h.listed _ listed
    · exact h.poisoned id hid

/-- Declarations are struck off one after another, each for a reference to one that is poisoned by
then; `R` has them in this order. -/
inductive Sweeps : Listing → List Int → Listing → Prop where
  | done (l : Listing) : Sweeps l [] l
  | strike {l l' : Listing} {g broken : Global} {ref : Int} {R : List Int}
      (refers : l.Refers g.id ref) (known : l.registry.globals.get? g.id = some g)
      (bad : ref ∈ l.registry.poisoned) (named : l.registry.globals.get? ref = some broken)
      (rest : Sweeps (l.strike g broken) R l') : Sweeps l (g.id :: R) l'

theorem Sweeps.trans {R' : List Int} (h : Sweeps l R l₁) (h' : Sweeps l₁ R' l') :
    Sweeps l (R ++ R') l' := by
  induction h with
  | done => exact h'
  | strike refers known bad named rest ih => exact .strike refers known bad named (ih h')

theorem Sweeps.attested (h : Sweeps l R l') (ha : l.Attested) : l'.Attested := by
  induction h with
  | done => exact ha
  | strike refers known bad named rest ih => exact ih (ha.strike refers.1)

/-- A sweep leaves everything alone but the list, the poisoned identities and the reports. -/
structure Untouched (l l' : Listing) : Prop where
  registry : l'.registry = { l.registry with poisoned := l'.registry.poisoned }
  members : l'.members = l.members
  enumItems : l'.enumItems = l.enumItems
  irregular : l'.irregular = l.irregular
  added : l'.added = l.added
  defining : l'.defining = l.defining
  incomplete : l'.incomplete = l.incomplete

theorem Sweeps.untouched (h : Sweeps l R l') : l.Untouched l' := by
  induction h with
  | done => exact ⟨rfl, rfl, rfl, rfl, rfl, rfl, rfl⟩
  | strike refers known bad named rest ih => exact ⟨ih.1, ih.2, ih.3, ih.4, ih.5, ih.6, ih.7⟩

theorem Untouched.globals (h : l.Untouched l') : l'.registry.globals = l.registry.globals := by
  have := congrArg Registry.globals h.registry
  exact this

theorem Untouched.mentions (h : l.Untouched l') {g : Global} :
    l'.Mentions g ref ↔ l.Mentions g ref := by
  have recast := congrArg Registry.recast h.registry
  dsimp only at recast
  rw [Mentions, Mentions, recast, h.members]

theorem Untouched.refers (h : l.Untouched l') (hr : l.Refers id ref) (hid : id ∈ l'.order) :
    l'.Refers id ref := by
  obtain ⟨-, g, hg, href⟩ := hr
  exact ⟨hid, g, h.globals ▸ hg, h.mentions.2 href⟩

theorem Sweeps.order (h : Sweeps l R l') :
    l'.order = l.order.filter fun id => decide (id ∉ R) := by
  induction h with
  | done => simp
  | @strike l l' g broken ref R refers known bad named rest ih =>
    have erased : (l.strike g broken).order = l.order.filter (· != g.id) :=
      l.roll.nodup.erase_eq_filter g.id
    rw [ih, erased, List.filter_filter]
    refine List.filter_congr fun id _ => ?_
    simp [Bool.and_comm, bne, BEq.beq]

theorem Sweeps.poisoned (h : Sweeps l R l') :
    id ∈ l'.registry.poisoned ↔ id ∈ l.registry.poisoned ∨ id ∈ R := by
  induction h with
  | done => simp
  | strike refers known bad named rest ih =>
    rw [ih, mem_strike_poisoned, List.mem_cons]
    tauto

theorem Sweeps.listed (h : Sweeps l R l') : ∀ id ∈ R, id ∈ l.order := by
  induction h with
  | done => simp
  | strike refers known bad named rest ih =>
    intro id hid
    rcases List.mem_cons.1 hid with rfl | hid
    · exact refers.1
    · exact (mem_strike_order.1 (ih id hid)).1

theorem Sweeps.nodup (h : Sweeps l R l') : R.Nodup := by
  induction h with
  | done => exact List.nodup_nil
  | strike refers known bad named rest ih =>
    refine List.nodup_cons.2 ⟨fun hid => ?_, ih⟩
    exact (mem_strike_order.1 (rest.listed _ hid)).2 rfl

/-- The report on a declaration that was struck off names a poisoned one that it refers to. -/
def Blames (l : Listing) (id : Int) (d : Diagnostic) : Prop :=
  ∃ g ref broken, l.registry.globals.get? id = some g ∧ l.Mentions g ref ∧
    ref ∈ l.registry.poisoned ∧ l.registry.globals.get? ref = some broken ∧
    d = g.report (Fault.unresolved broken.name.display Fault.wasSkipped).message

theorem Sweeps.reports (h : Sweeps l R l') :
    ∃ reports, l'.diagnostics = l.diagnostics ++ reports ∧
      List.Forall₂ l'.Blames R reports := by
  induction h with
  | done => exact ⟨[], by simp, .nil⟩
  | @strike l l' g broken ref R refers known bad named rest ih =>
    obtain ⟨reports, added, blamed⟩ := ih
    have same : l.Untouched l' := (Sweeps.strike refers known bad named rest).untouched
    refine ⟨g.report _ :: reports, ?_, .cons ⟨g, ref, broken, ?_, ?_, ?_, ?_, rfl⟩ blamed⟩
    · rw [added]
      change (l.diagnostics ++ [g.report _]) ++ reports = _
      rw [List.append_assoc, List.singleton_append]
    · rw [same.globals]
      exact known
    · obtain ⟨-, g', hg', href⟩ := refers
      rw [known] at hg'
      cases hg'
      exact same.mentions.2 href
    · exact rest.poisoned.2 (.inl (mem_strike_poisoned.2 (.inr bad)))
    · rw [same.globals]
      exact named

theorem Sweeps.tainted (h : Sweeps l R l') : ∀ id ∈ R, l.Tainted id := by
  induction h with
  | done => simp
  | @strike l l' g broken ref R refers known bad named rest ih =>
    have first : l.Tainted g.id := .direct refers bad
    have back {i : Int} (hi : (l.strike g broken).Tainted i) : l.Tainted i := by
      -- the declaration that was just poisoned is tainted itself
      induction hi with
      | direct hr bad' =>
        rcases mem_strike_poisoned.1 bad' with rfl | bad'
        · exact .through hr.of_strike first
        · exact .direct hr.of_strike bad'
      | through hr _ ih => exact .through hr.of_strike ih
    intro id hid
    rcases List.mem_cons.1 hid with rfl | hid
    · exact first
    · exact back (ih id hid)

/-- No listed declaration refers to a poisoned one. -/
def Stable (l : Listing) : Prop := ∀ ⦃id ref⦄, l.Refers id ref → ref ∉ l.registry.poisoned

/-- A sweep that ends where nothing is left to do has struck off all that had to go. -/
theorem Sweeps.mem_of_tainted (h : Sweeps l R l') (stable : l'.Stable) (ht : l.Tainted id) :
    id ∈ R := by
  have kept {i ref : Int} (hr : l.Refers i ref) (hi : i ∉ R) : l'.Refers i ref :=
    h.untouched.refers hr (by rw [h.order]; simp [hr.1, hi])
  induction ht with
  | direct hr bad =>
    by_contra hi
    exact stable (kept hr hi) (h.poisoned.2 (.inl bad))
  | through hr _ ih =>
    by_contra hi
    exact stable (kept hr hi) (h.poisoned.2 (.inr ih))

theorem pruneOne_sweeps (ha : l.Attested) (listed : id ∈ l.order) :
    (pruneOne id l = (.ok false, l) ∧ ∀ ref, l.Refers id ref → ref ∉ l.registry.poisoned) ∨
      ∃ l', pruneOne id l = (.ok true, l') ∧ Sweeps l [id] l' := by
  obtain ⟨g, hg, rfl⟩ := ha.get listed
  cases hb : l.brokenRef? g with
  | none =>
    refine .inl ⟨by simp [pruneOne, Step.bind_run, globalAt, hg, Step.read, hb], ?_⟩
    rintro ref ⟨-, g', hg', href⟩
    rw [hg] at hg'
    cases hg'
    exact brokenRef?_eq_none_iff.1 hb ref (mentions_iff.1 href)
  | some ref =>
    obtain ⟨href, bad⟩ := mem_of_brokenRef? hb
    obtain ⟨broken, named, -⟩ := Option.map_eq_some_iff.1 (ha.poisoned ref bad)
    refine .inr ⟨l.strike g broken, ?_,
      .strike ⟨listed, g, hg, mentions_iff.2 href⟩ hg bad named (.done _)⟩
    simp only [pruneOne, Step.bind_run, globalAt, hg, Step.read, hb, named]
    rfl

theorem pruneEach_sweeps {ids : List Int} (ha : l.Attested) (nodup : ids.Nodup)
    (listed : ∀ id ∈ ids, id ∈ l.order) :
    ∃ R l', pruneEach ids l = (.ok (decide (R ≠ [])), l') ∧ Sweeps l R l' ∧
      (R = [] → ∀ id ∈ ids, ∀ ref, l.Refers id ref → ref ∉ l.registry.poisoned) := by
  induction ids generalizing l with
  | nil => exact ⟨[], l, rfl, .done l, by simp⟩
  | cons id ids ih =>
    obtain ⟨fresh, nodup⟩ := List.nodup_cons.1 nodup
    have first := listed id (List.mem_cons_self ..)
    have others : ∀ i ∈ ids, i ∈ l.order := fun i hi => listed i (List.mem_cons_of_mem _ hi)
    rcases pruneOne_sweeps ha first with ⟨run, fine⟩ | ⟨l₁, run, swept⟩
    · obtain ⟨R, l', run', swept, none⟩ := ih ha nodup others
      refine ⟨R, l', ?_, swept, fun hR i hi => ?_⟩
      · simp only [pruneEach, Step.bind_run, run, run', Bool.false_or]
        rfl
      · rcases List.mem_cons.1 hi with rfl | hi
        · exact fine
        · exact none hR i hi
    · have others₁ : ∀ i ∈ ids, i ∈ l₁.order := by
        intro i hi
        have hne : i ≠ id := fun e => fresh (e ▸ hi)
        rw [swept.order]
        simp [others i hi, hne]
      obtain ⟨R, l', run', swept', -⟩ := ih (swept.attested ha) nodup others₁
      refine ⟨id :: R, l', ?_, swept.trans swept', by simp⟩
      simp only [pruneEach, Step.bind_run, run, run', Bool.true_or]
      rfl

theorem Sweeps.length (h : Sweeps l R l') : l'.order.length + R.length = l.order.length := by
  induction h with
  | done => rfl
  | @strike l l' g broken ref R refers known bad named rest ih =>
    have erased : (l.strike g broken).order.length = l.order.length - 1 :=
      List.length_erase_of_mem refers.1
    have := List.length_pos_of_mem refers.1
    rw [List.length_cons]
    omega

theorem pruneRounds_sweeps {n : Nat} (ha : l.Attested) (enough : l.order.length < n) :
    ∃ R l', pruneRounds n l = (.ok (), l') ∧ Sweeps l R l' ∧ l'.Stable := by
  induction n generalizing l with
  | zero => omega
  | succ n ih =>
    have nodup : l.order.Nodup := l.roll.nodup
    obtain ⟨R, l₁, run, swept, none⟩ := pruneEach_sweeps ha nodup fun _ h => h
    have length := swept.length
    by_cases hR : R = []
    · subst hR
      cases swept
      refine ⟨[], l, ?_, .done l, fun id ref hr => none rfl id hr.1 ref hr⟩
      simp only [pruneRounds, Step.bind_run, Step.read, run]
      rfl
    · have := List.length_pos_iff.2 hR
      obtain ⟨R', l', run', swept', stable⟩ := ih (l := l₁) (swept.attested ha) (by omega)
      refine ⟨R ++ R', l', ?_, swept.trans swept', stable⟩
      simp only [pruneRounds, Step.bind_run, Step.read, run, hR, ne_eq, not_false_eq_true,
        decide_true, if_true]
      exact run'

theorem prune_sweeps (ha : l.Attested) :
    ∃ R l', prune l = (.ok (), l') ∧ Sweeps l R l' ∧ l'.Stable :=
  pruneRounds_sweeps ha (Nat.lt_succ_self _)

theorem prune_of_stable (ha : l.Attested) (stable : l.Stable) : prune l = (.ok (), l) := by
  obtain ⟨R, l', run, swept, -⟩ := prune_sweeps ha
  cases swept with
  | done => exact run
  | strike refers _ bad => exact absurd bad (stable refers)

theorem Sweeps.perm {l₂ l₂' : Listing} {R₂ : List Int} (h : Sweeps l R l') (stable : l'.Stable)
    (h₂ : Sweeps l₂ R₂ l₂') (stable₂ : l₂'.Stable) (registry : l₂.registry = l.registry)
    (members : l₂.members = l.members) (perm : l₂.order.Perm l.order) :
    l₂'.order.Perm l'.order := by
  have refers {i ref : Int} : l₂.Refers i ref ↔ l.Refers i ref := by
    rw [Refers, Refers, perm.mem_iff, registry]
    simp only [Mentions, registry, members]
  have same (i : Int) : i ∈ R₂ ↔ i ∈ R := by
    constructor
    · intro hi
      refine h.mem_of_tainted stable ((h₂.tainted i hi).mono refers.1 fun hp => ?_)
      exact registry ▸ hp
    · intro hi
      refine h₂.mem_of_tainted stable₂ ((h.tainted i hi).mono refers.2 fun hp => ?_)
      exact registry ▸ hp
  rw [h.order, h₂.order]
  simp only [same]
  exact perm.filter _

/-- Pruning takes away the least set of listed declarations that has all that refer to a poisoned
declaration or into the set. The rest of the list keeps its order, what is taken away is poisoned
and reported once, and all else stays. So nothing that is left refers to a poisoned declaration,
the order of the list does not matter for what is left, and to prune again changes nothing. -/
theorem prune_removes_least (l : Listing) (registered : l.Attested) :
    ∃ R l', prune l = (.ok (), l') ∧
      IsLeast {S : Set Int | (∀ id ∈ S, id ∈ l.order) ∧ l.Contagious S} {id | id ∈ R} ∧
      l'.order = l.order.filter (fun id => decide (id ∉ R)) ∧
      (∀ id, id ∈ l'.registry.poisoned ↔ id ∈ l.registry.poisoned ∨ id ∈ R) ∧
      (R.Nodup ∧ ∃ reports, l'.diagnostics = l.diagnostics ++ reports ∧
        List.Forall₂ l'.Blames R reports) ∧
      l.Untouched l' ∧
      (∀ id ref, l'.Refers id ref → ref ∉ l'.registry.poisoned) ∧
      (∀ l₂ : Listing, l₂.registry = l.registry → l₂.members = l.members →
        l₂.order.Perm l.order → ∃ l₂', prune l₂ = (.ok (), l₂') ∧ l₂'.order.Perm l'.order) ∧
      prune l' = (.ok (), l') := by
  obtain ⟨R, l', run, swept, stable⟩ := prune_sweeps registered
  have exact_set : {id | id ∈ R} = {id | l.Tainted id} := by
    ext id
    exact ⟨swept.tainted id, swept.mem_of_tainted stable⟩
  refine ⟨R, l', run, ?_, swept.order, fun id => swept.poisoned, ⟨swept.nodup, swept.reports⟩,
    swept.untouched, stable, fun l₂ registry members perm => ?_,
    prune_of_stable (swept.attested registered) stable⟩
  · rw [exact_set]
    exact tainted_isLeast l
  · have registered₂ : l₂.Attested := by
      constructor
      · intro id hid
        rw [registry]
        exact registered.listed id (perm.mem_iff.1 hid)
      · rw [registry]
        exact registered.poisoned
    obtain ⟨R₂, l₂', run₂, swept₂, stable₂⟩ := prune_sweeps registered₂
    exact ⟨l₂', run₂, swept.perm stable swept₂ stable₂ registry members perm⟩

/-- A typedef of each identity from 1 on, whose type refers to the identity given. -/
def chained : List Int → Listing :=
  List.foldl (fun l ref => l.add ⟨⟨"t", l.added.length + 1⟩, .typedef {} (.composite ref)⟩) {}

/-- The first refers to the second and that to a poisoned third, so the first goes only after the
second, which stands behind it; two that refer to one another stay. -/
theorem prune_removes_least_chain :
    let l := ((chained [2, 3, 3, 5, 4]).remove 3).poison 3
    l.Attested ∧ ∃ l', prune l = (.ok (), l') ∧ l'.order = [4, 5] ∧
      prune l' = (.ok (), l') := by
  intro l
  have registered : l.Attested := ⟨by decide, fun id hid => by
    have : ∀ id ∈ l.registry.poisoned.ids,
      (l.registry.globals.get? id).map Global.id = some id := by decide
    exact this id hid⟩
  obtain ⟨R, l', run, -, -, -, -, -, -, -, again⟩ := prune_removes_least l registered
  refine ⟨registered, l', run, ?_, again⟩
  have left : (prune l).2.order = [4, 5] := by decide +kernel
  rw [run] at left
  exact left

end Listing

end DeclAtlas
