import DeclAtlas.Proofs.Arguments
import DeclAtlas.Proofs.Covering
import DeclAtlas.Proofs.Passing
import DeclAtlas.Proofs.Stability
import Mathlib.Data.List.Nodup

/-! What each child of a record gives to its members. A field gives one member. A struct or union
without a name gives one if the next field does not take it, and it does so in its own place, though
this is only known later. So every field and every unnamed record is found in the members once, and
nothing is owned twice. -/

namespace DeclAtlas

namespace SourceUnit

def definesTag (u : SourceUnit) (c : CursorId) : Bool := (u.kind c).isTag && u.isDefinition c

/-- Whether a child ends the wait of a nested definition: a field, a record or an enum does. -/
def counts (u : SourceUnit) (c : CursorId) : Bool := u.kind c == .fieldDecl || (u.kind c).isTag

/-- The last of some children that counts. -/
def lastCounting (u : SourceUnit) (before : List CursorId) : Option CursorId :=
  (before.filter u.counts).getLast?

/-- The first of some children that counts. -/
def nextCounting (u : SourceUnit) (after : List CursorId) : Option CursorId :=
  (after.filter u.counts).head?

/-- The type of a field names a record or enum, directly or through pointers and arrays. -/
def Names (u : SourceUnit) (r : Registry) (f : CursorId) (i : Int) : Prop :=
  ∃ t ref, u.Denotes r (u.cursor f).type f t ∧ t.inner? = some ref ∧ ref.id = i

/-- The first child that counts is a field which takes the definition before it. -/
def Taken (u : SourceUnit) (r : Registry) (i : Int) (after : List CursorId) : Prop :=
  ∃ f, u.nextCounting after = some f ∧ u.kind f = .fieldDecl ∧ (u.cursor f).bitWidth = none ∧
    u.Names r f i

/-- A struct or union without a name that is defined at `k` and not bound elsewhere. -/
structure UnnamedRecord (u : SourceUnit) (r : Registry) (k : CursorId) (g : Global) : Prop where
  record : (u.kind k).isRecord = true
  self : u.definition? k = some k
  unnamed : u.declSpelling k = ""
  known : r.globalOf? u k = some g
  own : g.isBuiltin = false

/-- What the child `k` of a record gives to its members, between the children before and after. -/
inductive Contributes (u : SourceUnit) (r : Registry) (parent : CursorId) (before : List CursorId)
    (k : CursorId) (after : List CursorId) : List Member → Prop where
  | bitfield {t : CType} {width : Int} (kind : u.kind k = .fieldDecl)
      (narrow : (u.cursor k).bitWidth = some width)
      (type : u.Denotes r (u.cursor k).type k t) :
      Contributes u r parent before k after
        [.bitfield (u.fieldSpelling k) t width (u.cursor k).offset]
  | field {t : CType} {owns : Option Int} (kind : u.kind k = .fieldDecl)
      (plain : (u.cursor k).bitWidth = none) (type : u.Denotes r (u.cursor k).type k t)
      (owned : ∀ i, owns = some i ↔ ∃ d, u.lastCounting before = some d ∧
        u.definesTag d = true ∧ r.idOf? u d = some i ∧ u.Names r k i) :
      Contributes u r parent before k after [.field (u.fieldSpelling k) t (u.cursor k).offset owns]
  | unnamed {g : Global} (record : u.UnnamedRecord r k g) (free : ¬u.Taken r g.id after) :
      Contributes u r parent before k after
        [.field "" (.composite g.id) (u.anonymousOffset parent k) (some g.id)]
  | nothing (other : u.kind k ≠ .fieldDecl)
      (taken : ∀ g, u.UnnamedRecord r k g → u.Taken r g.id after) :
      Contributes u r parent before k after []

/-- Children of a record after others, each with what it gives. -/
inductive Accounts (u : SourceUnit) (r : Registry) (parent : CursorId) :
    List CursorId → List CursorId → List (List Member) → Prop where
  | nil {before} : Accounts u r parent before [] []
  | cons {before k after part parts} (gives : u.Contributes r parent before k after part)
      (rest : Accounts u r parent (before ++ [k]) after parts) :
      Accounts u r parent before (k :: after) (part :: parts)

section neighbours

variable {u : SourceUnit} {r : Registry} {before after : List CursorId} {c d f : CursorId} {i : Int}

theorem counts_of_field (h : u.kind c = .fieldDecl) : u.counts c = true := by
  simp [counts, h]

theorem counts_of_isTag (h : (u.kind c).isTag = true) : u.counts c = true := by
  simp [counts, h]

theorem kind_ne_field_of_isTag (h : (u.kind c).isTag = true) : u.kind c ≠ .fieldDecl := by
  intro hk
  rw [hk] at h
  cases h

theorem definesTag_eq_true : u.definesTag c = true ↔
    (u.kind c).isTag = true ∧ u.definition? c = some c := by
  simp [definesTag, isDefinition]

theorem lastCounting_snoc (before : List CursorId) (h : u.counts c = true) :
    u.lastCounting (before ++ [c]) = some c := by
  simp [lastCounting, List.filter_append, h]

theorem lastCounting_pass (h : u.counts c = false) :
    u.lastCounting (before ++ [c]) = u.lastCounting before := by
  simp [lastCounting, List.filter_append, h]

theorem mem_of_lastCounting (h : u.lastCounting before = some d) : d ∈ before :=
  (List.mem_filter.1 (List.mem_of_getLast? h)).1

theorem nextCounting_cons (h : u.counts c = true) : u.nextCounting (c :: after) = some c := by
  simp [nextCounting, h]

theorem nextCounting_pass (h : u.counts c = false) :
    u.nextCounting (c :: after) = u.nextCounting after := by
  simp [nextCounting, h]

theorem not_taken_nil : ¬u.Taken r i [] := by
  rintro ⟨f, hf, -⟩
  cases hf

theorem taken_pass (h : u.counts c = false) : u.Taken r i (c :: after) ↔ u.Taken r i after := by
  simp only [Taken, nextCounting_pass h]

theorem taken_cons (h : u.counts c = true) : u.Taken r i (c :: after) ↔
    u.kind c = .fieldDecl ∧ (u.cursor c).bitWidth = none ∧ u.Names r c i := by
  simp [Taken, nextCounting_cons h]

theorem names_iff {t : CType} (h : u.Denotes r (u.cursor f).type f t) :
    u.Names r f i ↔ ∃ ref, t.inner? = some ref ∧ ref.id = i := by
  constructor
  · rintro ⟨t', ref, ht, hinner, hid⟩
    cases h.unique ht
    exact ⟨ref, hinner, hid⟩
  · rintro ⟨ref, hinner, hid⟩
    exact ⟨t, ref, h, hinner, hid⟩

end neighbours

end SourceUnit

namespace Gathering

open SourceUnit

/-- What a nested definition gives that no field takes. -/
def settled (u : SourceUnit) (parent : CursorId) : Option (Global × CursorId) → List Member
  | none => []
  | some (g, c) =>
    if u.declSpelling c = "" && g.form.isComposite then
      [.field "" (.composite g.id) (u.anonymousOffset parent c) (some g.id)]
    else []

variable {u : SourceUnit} {parent : CursorId} {acc : Gathering}

theorem flush_ok {l l' : Listing} {acc' : Gathering}
    (run : acc.flush u parent l = (.ok acc', l')) :
    acc' = ⟨acc.members ++ settled u parent acc.pending, none⟩ ∧ l' = l := by
  obtain ⟨members, pending⟩ := acc
  rcases pending with - | ⟨g, c⟩
  · cases run
    simp [settled]
  · simp only [flush, settled] at run ⊢
    split at run
    · split at run <;> cases run
      simp [*]
    · cases run
      simp [*]

theorem owned?_eq_some {t : CType} {i : Int} : acc.owned? t = some i ↔
    ∃ g d, acc.pending = some (g, d) ∧ g.id = i ∧ ∃ ref, t.inner? = some ref ∧ ref.id = i := by
  unfold owned?
  split
  · rename_i g d ref waiting named
    constructor
    · intro h
      split at h <;> cases h
      rename_i same
      exact ⟨g, d, waiting, same.symm, ref, named, rfl⟩
    · rintro ⟨g', d', hw, rfl, ref', hn, hid⟩
      rw [waiting] at hw
      rw [named] at hn
      cases hw
      cases hn
      rw [if_pos hid, hid]
  · rename_i missing
    constructor
    · nofun
    · rintro ⟨g, d, hw, -, ref, hn, -⟩
      exact absurd hn (missing g d ref hw)

theorem addField_ok {r : Recursion} {n : Nat} {l l' : Listing} {c : CursorId} {acc' : Gathering}
    (hr : r.Faithful u n) (hs : l.Sound u) (run : addField u r parent acc c l = (.ok acc', l')) :
    l.Proceeds u l' ∧ ∃ t, u.Denotes l'.registry (u.cursor c).type c t ∧
      (∀ i ∈ t.refs, l'.Anchored u i) ∧
      ((∃ width, (u.cursor c).bitWidth = some width ∧
          acc' = ⟨acc.members ++ settled u parent acc.pending ++
            [.bitfield (u.fieldSpelling c) t width (u.cursor c).offset], none⟩) ∨
        (u.cursor c).bitWidth = none ∧
          acc' = ⟨acc.members ++
            settled u parent (if (acc.owned? t).isSome then none else acc.pending) ++
              [.field (u.fieldSpelling c) t (u.cursor c).offset (acc.owned? t)], none⟩) := by
  obtain ⟨t, l₁, converted, rest⟩ := Step.bind_eq_ok run
  obtain ⟨visit, meaning, anchored⟩ :=
    (hr.convert (S := fun _ => True) (u.cursor c).type c hs).ok converted
  cases wide : (u.cursor c).bitWidth with
  | some width =>
    rw [wide] at rest
    obtain ⟨acc₁, l₂, flushed, last⟩ := Step.bind_eq_ok rest
    obtain ⟨rfl, rfl⟩ := flush_ok flushed
    cases last
    exact ⟨visit.proceeds hs, t, ⟨n, meaning⟩, anchored, .inl ⟨width, rfl, rfl⟩⟩
  | none =>
    rw [wide] at rest
    obtain ⟨acc₁, l₂, flushed, last⟩ := Step.bind_eq_ok rest
    obtain ⟨rfl, rfl⟩ := flush_ok flushed
    cases last
    refine ⟨visit.proceeds hs, t, ⟨n, meaning⟩, anchored, .inr ⟨rfl, ?_⟩⟩
    cases (acc.owned? t).isSome <;> rfl

/-- What waits after a nested declaration: itself if it is a definition that is not bound elsewhere,
and else nothing. -/
def Leaves (u : SourceUnit) (l : Listing) (c : CursorId) (pending : Option (Global × CursorId)) :
    Prop :=
  (pending = none ∧ (u.definesTag c = true →
    ∃ g, l.registry.globalOf? u c = some g ∧ g.isBuiltin = true)) ∨
  ∃ g, pending = some (g, c) ∧ u.definesTag c = true ∧ l.registry.globalOf? u c = some g ∧
    g.isBuiltin = false

theorem addNested_ok {r : Recursion} {n : Nat} {l l' : Listing} {c : CursorId} {acc' : Gathering}
    (hr : r.Faithful u n) (hs : l.Sound u) (tag : (u.kind c).isTag = true)
    (run : addNested u r parent acc c l = (.ok acc', l')) :
    l.Proceeds u l' ∧ acc'.members = acc.members ++ settled u parent acc.pending ∧
      Leaves u l' c acc'.pending := by
  obtain ⟨acc₁, l₀, flushed, declares⟩ := Step.bind_eq_ok run
  obtain ⟨rfl, rfl⟩ := flush_ok flushed
  obtain ⟨o, l₁, declared, rest⟩ := Step.bind_eq_ok declares
  obtain ⟨visit, found⟩ := (runs_declare (S := fun _ => True) hr hs trivial).ok declared
  have defined (h : u.definesTag c = true) :
      ∃ g, o = some g ∧ l₁.registry.globalOf? u c = some g := by
    obtain ⟨g, ho, hg, -⟩ := found (.inr (definesTag_eq_true.1 h).2)
    exact ⟨g, ho, hg⟩
  cases o with
  | none =>
    cases rest
    refine ⟨visit.proceeds hs, rfl, .inl ⟨rfl, fun h => ?_⟩⟩
    obtain ⟨g, ho, -⟩ := defined h
    cases ho
  | some g =>
    cases rest
    refine ⟨visit.proceeds hs, ?_⟩
    split
    · rename_i waits
      rw [Bool.and_eq_true, Bool.not_eq_true'] at waits
      have h : u.definesTag c = true := by rw [definesTag, tag, waits.1]; rfl
      obtain ⟨g', ho, hg⟩ := defined h
      cases ho
      exact ⟨rfl, .inr ⟨g, rfl, h, hg, waits.2⟩⟩
    · rename_i settles
      refine ⟨rfl, .inl ⟨rfl, fun h => ?_⟩⟩
      obtain ⟨g', ho, hg⟩ := defined h
      cases ho
      rw [definesTag, Bool.and_eq_true] at h
      exact ⟨g, hg, by simpa [h.2] using settles⟩

theorem gather_cons_ok {r : Recursion} {l l' : Listing} {c : CursorId} {rest : List CursorId}
    {acc' : Gathering} (run : gather u r parent acc (c :: rest) l = (.ok acc', l')) :
    ∃ acc₁ l₁, gather u r parent acc₁ rest l₁ = (.ok acc', l') ∧
      (u.kind c = .fieldDecl ∧ addField u r parent acc c l = (.ok acc₁, l₁) ∨
        (u.kind c).isTag = true ∧ addNested u r parent acc c l = (.ok acc₁, l₁) ∨
        u.counts c = false ∧ acc₁ = acc ∧ l₁ = l) := by
  unfold gather at run
  dsimp only at run
  cases kind : u.kind c <;> rw [kind] at run <;>
    obtain ⟨acc₁, l₁, step, run⟩ := Step.bind_eq_ok run <;> refine ⟨acc₁, l₁, run, ?_⟩
  case fieldDecl => exact .inl ⟨rfl, step⟩
  case structDecl | unionDecl | enumDecl => exact .inr (.inl ⟨rfl, step⟩)
  all_goals
    cases step
    exact .inr (.inr ⟨by rw [counts, kind]; rfl, rfl, rfl⟩)

theorem proceeds_gather {r : Recursion} {n : Nat} {l l' : Listing} {rest : List CursorId}
    {acc' : Gathering} (hr : r.Faithful u n) (hs : l.Sound u)
    (run : gather u r parent acc rest l = (.ok acc', l')) : l.Proceeds u l' := by
  induction rest generalizing acc l with
  | nil =>
    cases run
    exact (Visit.done (S := fun _ => True)).proceeds hs
  | cons c rest ih =>
    obtain ⟨acc₁, l₁, later, ⟨-, step⟩ | ⟨tag, step⟩ | ⟨-, -, rfl⟩⟩ := gather_cons_ok run
    · have first := (addField_ok hr hs step).1
      exact first.trans (ih first.sound later)
    · have first := (addNested_ok hr hs tag step).1
      exact first.trans (ih first.sound later)
    · exact ih hs later

/-- After some children it is the last of them that counts which waits, if it is a definition that
is not bound elsewhere. -/
structure Waits (u : SourceUnit) (r : Registry) (before : List CursorId)
    (pending : Option (Global × CursorId)) : Prop where
  last : ∀ {g d}, pending = some (g, d) → u.lastCounting before = some d ∧
    u.definesTag d = true ∧ ∃ g', r.globalOf? u d = some g' ∧ g'.outline = g.outline ∧
      g'.isBuiltin = false
  only : ∀ {d g}, u.lastCounting before = some d → u.definesTag d = true →
    r.globalOf? u d = some g → g.isBuiltin = false → ∃ g', pending = some (g', d)

/-- What the waiting definition gives before the members of the children after it. -/
structure Settles (u : SourceUnit) (r : Registry) (parent : CursorId)
    (pending : Option (Global × CursorId)) (after : List CursorId) (first : List Member) :
    Prop where
  taken : ∀ {g d}, pending = some (g, d) → u.Taken r g.id after → first = []
  free : (∀ g d, pending = some (g, d) → ¬u.Taken r g.id after) → first = settled u parent pending

section steps

variable {m l : Listing} {before after : List CursorId} {c : CursorId} {t : CType}

theorem Settles.of_not_taken {pending : Option (Global × CursorId)} {r : Registry}
    (h : ∀ i, ¬u.Taken r i after) : Settles u r parent pending after (settled u parent pending) :=
  ⟨fun _ ht => absurd ht (h _), fun _ => rfl⟩

theorem waits_field {r : Registry} (kind : u.kind c = .fieldDecl) :
    Waits u r (before ++ [c]) none where
  last := nofun
  only last defined := by
    cases (lastCounting_snoc _ (counts_of_field kind)).symm.trans last
    exact absurd kind (kind_ne_field_of_isTag (definesTag_eq_true.1 defined).1)

theorem waits_nested {pending : Option (Global × CursorId)} (tag : (u.kind c).isTag = true)
    (grows : l.registry.Grows m.registry) (leaves : Leaves u l c pending) :
    Waits u m.registry (before ++ [c]) pending := by
  have here := lastCounting_snoc before (counts_of_isTag tag)
  rcases leaves with ⟨rfl, bound⟩ | ⟨g, rfl, defined, known, own⟩
  · refine ⟨nofun, fun {d g} last defined hg own => ?_⟩
    cases here.symm.trans last
    obtain ⟨g₁, known, builtin⟩ := bound defined
    obtain ⟨g₂, known₂, outline⟩ := grows.globalOf? known
    rw [hg] at known₂
    cases known₂
    rw [Global.isBuiltin_of_outline outline, builtin] at own
    cases own
  · obtain ⟨g', known', outline⟩ := grows.globalOf? known
    refine ⟨fun h => ?_, fun last _ _ _ => ?_⟩
    · cases h
      exact ⟨here, defined, g', known', outline, (Global.isBuiltin_of_outline outline).trans own⟩
    · cases here.symm.trans last
      exact ⟨g, rfl⟩

theorem Waits.pass {r : Registry} {pending : Option (Global × CursorId)}
    (h : Waits u r before pending) (passed : u.counts c = false) :
    Waits u r (before ++ [c]) pending := by
  refine ⟨fun hp => ?_, fun last => ?_⟩
  · rw [lastCounting_pass passed]
    exact h.last hp
  · rw [lastCounting_pass passed] at last
    exact h.only last

theorem Settles.pass {r : Registry} {pending : Option (Global × CursorId)} {first : List Member}
    (h : Settles u r parent pending after first) (passed : u.counts c = false) :
    Settles u r parent pending (c :: after) first := by
  refine ⟨fun hp taken => h.taken hp ((taken_pass passed).1 taken), fun free => h.free ?_⟩
  exact fun g d hp taken => free g d hp ((taken_pass passed).2 taken)

theorem owned?_iff_names {r : Registry} {i : Int} (type : u.Denotes r (u.cursor c).type c t) :
    acc.owned? t = some i ↔ ∃ g d, acc.pending = some (g, d) ∧ g.id = i ∧ u.Names r c i := by
  rw [owned?_eq_some, names_iff type]

theorem settles_field (kind : u.kind c = .fieldDecl) (plain : (u.cursor c).bitWidth = none)
    {r : Registry} (type : u.Denotes r (u.cursor c).type c t) :
    Settles u r parent acc.pending (c :: after)
      (settled u parent (if (acc.owned? t).isSome then none else acc.pending)) where
  taken := by
    intro g d waiting taken
    have names := ((taken_cons (counts_of_field kind)).1 taken).2.2
    rw [(owned?_iff_names type).2 ⟨g, d, waiting, rfl, names⟩]
    rfl
  free := by
    intro free
    cases owned : acc.owned? t with
    | none => rfl
    | some i =>
      obtain ⟨g, d, waiting, rfl, names⟩ := (owned?_iff_names type).1 owned
      exact absurd ((taken_cons (counts_of_field kind)).2 ⟨kind, plain, names⟩) (free g d waiting)

/-- A field owns the definition before it exactly if its type names it. A type names nothing that is
bound elsewhere, so such a definition need not wait. -/
theorem owned?_iff (hm : m.Sound u) (grows : l.registry.Grows m.registry)
    (waits : Waits u m.registry before acc.pending)
    (type : u.Denotes m.registry (u.cursor c).type c t) (anchored : ∀ i ∈ t.refs, l.Anchored u i)
    (i : Int) : acc.owned? t = some i ↔ ∃ d, u.lastCounting before = some d ∧
      u.definesTag d = true ∧ m.registry.idOf? u d = some i ∧ u.Names m.registry c i := by
  rw [owned?_iff_names type]
  constructor
  · rintro ⟨g, d, waiting, rfl, names⟩
    obtain ⟨last, defined, g', known, outline, -⟩ := waits.last waiting
    have id := (hm.registry.globalOf?_eq_some.1 known).1
    rw [Global.id_of_outline outline] at id
    exact ⟨d, last, defined, id, names⟩
  · rintro ⟨d, last, defined, id, names⟩
    obtain ⟨ref, named, rfl⟩ := (names_iff type).1 names
    obtain ⟨k, g, -, known, hid, own, -⟩ := anchored ref.id (CType.id_mem_refs_of_inner? named)
    obtain ⟨g₁, known₁, outline₁⟩ := grows.globalOf? known
    obtain ⟨-, held⟩ := hm.registry.globalOf?_eq_some.1 known₁
    have same : g₁.id = ref.id := (Global.id_of_outline outline₁).trans hid
    have here : m.registry.globalOf? u d = some g₁ :=
      hm.registry.globalOf?_eq_some.2 ⟨by rw [same]; exact id, held⟩
    obtain ⟨g', waiting⟩ :=
      waits.only last defined here ((Global.isBuiltin_of_outline outline₁).trans own)
    obtain ⟨-, -, g₂, known₂, outline₂, -⟩ := waits.last waiting
    rw [here] at known₂
    cases known₂
    exact ⟨g', d, waiting, (Global.id_of_outline outline₂).symm.trans same, names⟩

theorem contributes_nested {first : List Member} {pending : Option (Global × CursorId)}
    (hm : m.Sound u) (tag : (u.kind c).isTag = true)
    (ownKind : u.definesTag c = true → u.kind (u.canonical c) = u.kind c)
    (waits : Waits u m.registry (before ++ [c]) pending)
    (settles : Settles u m.registry parent pending after first) :
    u.Contributes m.registry parent before c after first := by
  have other := kind_ne_field_of_isTag tag
  have last := lastCounting_snoc before (counts_of_isTag tag)
  have waiting {g : Global} (h : u.UnnamedRecord m.registry c g) :
      ∃ g', pending = some (g', c) ∧ g'.id = g.id := by
    have defined : u.definesTag c = true := definesTag_eq_true.2 ⟨tag, h.self⟩
    obtain ⟨g', hp⟩ := waits.only last defined h.known h.own
    obtain ⟨-, -, g₁, known, outline, -⟩ := waits.last hp
    rw [h.known] at known
    cases known
    exact ⟨g', hp, (Global.id_of_outline outline).symm⟩
  rcases pending with - | ⟨g, d⟩
  · -- nothing waits, so this is no definition of ours
    obtain rfl : first = [] := settles.free (by nofun)
    exact .nothing other fun g h => by obtain ⟨g', hp, -⟩ := waiting h; cases hp
  obtain ⟨hd, defined, g', known, outline, own⟩ := waits.last rfl
  obtain rfl : c = d := Option.some.inj (last.symm.trans hd)
  have id := Global.id_of_outline outline
  have form : g.form.isComposite = (u.kind c).isRecord := by
    rw [← Form.isComposite_of_outline (Global.outline_eq.1 outline).2,
      Form.isComposite_of_cursorKind? (hm.registry.cursorKind?_eq known own), ownKind defined]
  by_cases taken : u.Taken m.registry g.id after
  · obtain rfl := settles.taken rfl taken
    refine .nothing other fun g₁ h => ?_
    obtain ⟨g₂, hp, hid⟩ := waiting h
    cases hp
    exact hid ▸ taken
  · obtain rfl := settles.free fun g₁ d₁ hp => by cases hp; exact taken
    by_cases unnamed : u.declSpelling c = "" ∧ (u.kind c).isRecord = true
    · have record : u.UnnamedRecord m.registry c g' :=
        ⟨unnamed.2, (definesTag_eq_true.1 defined).2, unnamed.1, known, own⟩
      have gives : u.Contributes m.registry parent before c after _ :=
        .unnamed record (id ▸ taken)
      simpa [settled, form, unnamed, id] using gives
    · have empty : settled u parent (some (g, c)) = [] := by
        rw [settled, form, if_neg (by simpa using unnamed)]
      rw [empty]
      exact .nothing other fun g₁ h => absurd ⟨h.unnamed, h.record⟩ unnamed

end steps

/-- Every child gives what it should, after what waited before them. It is judged by a later
listing, since whether a definition is taken depends on a type that is converted after it. -/
theorem gather_accounts {r : Recursion} {n : Nat} {l l' m : Listing} {before rest : List CursorId}
    {acc' : Gathering} (hr : r.Faithful u n) (hs : l.Sound u) (hm : m.Sound u)
    (run : gather u r parent acc rest l = (.ok acc', l')) (grows : l'.registry.Grows m.registry)
    (ownKind : ∀ c ∈ rest, u.definesTag c = true → u.kind (u.canonical c) = u.kind c)
    (waits : Waits u m.registry before acc.pending) :
    ∃ first parts,
      acc'.members ++ settled u parent acc'.pending = acc.members ++ (first ++ parts.flatten) ∧
      Settles u m.registry parent acc.pending rest first ∧
      u.Accounts m.registry parent before rest parts := by
  induction rest generalizing acc l before with
  | nil =>
    cases run
    exact ⟨_, [], by simp, .of_not_taken fun _ => not_taken_nil, .nil⟩
  | cons c rest ih =>
    have ownKind' := fun d hd => ownKind d (List.mem_cons_of_mem _ hd)
    obtain ⟨acc₁, l₁, later, ⟨kind, step⟩ | ⟨tag, step⟩ | ⟨passed, rfl, rfl⟩⟩ := gather_cons_ok run
    · obtain ⟨proceeds, t, type, anchored, given⟩ := addField_ok hr hs step
      have grows₁ := (proceeds_gather hr proceeds.sound later).succeeds.registry.trans grows
      have type' := type.grows grows₁
      have empty : acc₁.pending = none := by rcases given with ⟨_, -, rfl⟩ | ⟨-, rfl⟩ <;> rfl
      obtain ⟨first, parts, members, settles, accounts⟩ :=
        ih proceeds.sound later ownKind' (empty ▸ waits_field kind)
      rw [empty] at settles
      obtain rfl : first = [] := settles.free (by nofun)
      rcases given with ⟨width, narrow, rfl⟩ | ⟨plain, rfl⟩
      · refine ⟨_, [_] :: parts, by simpa using members, .of_not_taken fun i taken => ?_,
          .cons (.bitfield kind narrow type') accounts⟩
        rw [taken_cons (counts_of_field kind), narrow] at taken
        cases taken.2.1
      · exact ⟨_, [_] :: parts, by simpa using members, settles_field kind plain type',
          .cons (.field kind plain type' (owned?_iff hm grows₁ waits type' anchored)) accounts⟩
    · obtain ⟨proceeds, kept, leaves⟩ := addNested_ok hr hs tag step
      have grows₁ := (proceeds_gather hr proceeds.sound later).succeeds.registry.trans grows
      have waits₁ : Waits u m.registry (before ++ [c]) acc₁.pending :=
        waits_nested tag grows₁ leaves
      obtain ⟨first, parts, members, settles, accounts⟩ := ih proceeds.sound later ownKind' waits₁
      have gives := contributes_nested hm tag (ownKind c (List.mem_cons_self ..)) waits₁ settles
      refine ⟨settled u parent acc.pending, first :: parts, ?_, .of_not_taken fun i taken => ?_,
        .cons gives accounts⟩
      · simpa [kept] using members
      · rw [taken_cons (counts_of_isTag tag)] at taken
        exact kind_ne_field_of_isTag tag taken.1
    · obtain ⟨first, parts, members, settles, accounts⟩ := ih hs later ownKind' (waits.pass passed)
      refine ⟨first, [] :: parts, by simpa using members, settles.pass passed,
        .cons (.nothing ?_ fun g h => ?_) accounts⟩
      · intro kind
        rw [counts_of_field kind] at passed
        cases passed
      · rw [counts_of_isTag (CursorKind.isTag_of_isRecord h.record)] at passed
        cases passed

theorem visitMembers_ok {r : Recursion} {l l' : Listing} {ms : List Member}
    (run : visitMembers u r parent l = (.ok ms, l')) :
    ∃ acc, gather u r parent {} (u.children parent) l = (.ok acc, l') ∧
      ms = acc.members ++ settled u parent acc.pending := by
  obtain ⟨acc, l₁, gathering, rest⟩ := Step.bind_eq_ok run
  obtain ⟨acc₁, l₂, flushed, last⟩ := Step.bind_eq_ok rest
  obtain ⟨rfl, rfl⟩ := flush_ok flushed
  cases last
  exact ⟨acc, gathering, rfl⟩

theorem visitMembers_accounts {r : Recursion} {n : Nat} {l l' : Listing} {ms : List Member}
    (hr : r.Faithful u n) (hs : l.Sound u) (run : visitMembers u r parent l = (.ok ms, l'))
    (ownKind : ∀ c ∈ u.children parent, u.definesTag c = true → u.kind (u.canonical c) = u.kind c) :
    ∃ parts, ms = parts.flatten ∧ u.Accounts l'.registry parent [] (u.children parent) parts := by
  obtain ⟨acc, gathering, rfl⟩ := visitMembers_ok run
  have hs' := (proceeds_gather hr hs gathering).sound
  have start : Waits u l'.registry [] none := ⟨nofun, nofun⟩
  obtain ⟨first, parts, members, settles, accounts⟩ :=
    gather_accounts hr hs hs' gathering (.refl _) ownKind start
  obtain rfl : first = [] := settles.free (by nofun)
  exact ⟨parts, members, accounts⟩

end Gathering

namespace SourceUnit.Accounts

variable {u : SourceUnit} {r : Registry} {parent c d : CursorId} {before rest : List CursorId}
  {parts : List (List Member)} {i : Int}

theorem origin (hr : r.Sound u) (h : u.Accounts r parent before rest parts)
    (hi : i ∈ parts.flatten.filterMap Member.owns?) :
    (∃ d ∈ rest, u.definesTag d = true ∧ r.idOf? u d = some i) ∨
      ∃ d, u.lastCounting before = some d ∧ u.definesTag d = true ∧ r.idOf? u d = some i ∧
        u.Taken r i rest := by
  induction h with
  | nil => cases hi
  | @cons before k after part parts gives rest ih =>
    rw [List.flatten_cons, List.filterMap_append, List.mem_append] at hi
    rcases hi with hi | hi
    · cases gives with
      | bitfield => cases hi
      | @field t owns kind plain type owned =>
        have own : owns = some i := by
          simpa [Member.owns?, eq_comm] using hi
        obtain ⟨d, last, defined, id, names⟩ := (owned i).1 own
        have taken : u.Taken r i (k :: after) :=
          (taken_cons (counts_of_field kind)).2 ⟨kind, plain, names⟩
        exact .inr ⟨d, last, defined, id, taken⟩
      | @unnamed g record free =>
        obtain rfl : i = g.id := by simpa [Member.owns?] using hi
        exact .inl ⟨k, List.mem_cons_self .., definesTag_eq_true.2
          ⟨CursorKind.isTag_of_isRecord record.record, record.self⟩,
          (hr.globalOf?_eq_some.1 record.known).1⟩
      | nothing => cases hi
    · rcases ih hi with ⟨d, hd, found⟩ | ⟨d, last, defined, id, taken⟩
      · exact .inl ⟨d, List.mem_cons_of_mem _ hd, found⟩
      · cases counted : u.counts k with
        | true =>
          rw [lastCounting_snoc _ counted] at last
          cases last
          exact .inl ⟨k, List.mem_cons_self .., defined, id⟩
        | false =>
          rw [lastCounting_pass counted] at last
          exact .inr ⟨d, last, defined, id, (taken_pass counted).2 taken⟩

theorem apart (hr : r.Sound u)
    (distinct : ((before ++ rest).filter u.definesTag).Pairwise fun c d =>
      u.canonical c ≠ u.canonical d)
    (hc : c ∈ before) (hd : d ∈ rest) (defc : u.definesTag c = true) (defd : u.definesTag d = true)
    (idc : r.idOf? u c = some i) (idd : r.idOf? u d = some i) : False := by
  rw [List.filter_append, List.pairwise_append] at distinct
  exact distinct.2.2 c (List.mem_filter.2 ⟨hc, defc⟩) d (List.mem_filter.2 ⟨hd, defd⟩)
    (hr.canonical_eq idc idd)

theorem nodup_owned (hr : r.Sound u) (h : u.Accounts r parent before rest parts)
    (distinct : ((before ++ rest).filter u.definesTag).Pairwise fun c d =>
      u.canonical c ≠ u.canonical d) : (parts.flatten.filterMap Member.owns?).Nodup := by
  induction h with
  | nil => exact .nil
  | @cons before k after part parts gives rest ih =>
    have split : before ++ k :: after = before ++ [k] ++ after := by simp
    rw [split] at distinct
    have later := ih distinct
    rw [List.flatten_cons, List.filterMap_append]
    cases gives with
    | bitfield | nothing => exact later
    | @field t owns kind plain type owned =>
      cases owns with
      | none => exact later
      | some i =>
        refine List.nodup_cons.2 ⟨fun again => ?_, later⟩
        obtain ⟨d, last, defined, id, -⟩ := (owned i).1 rfl
        rcases origin hr rest again with ⟨d', hd', defined', id'⟩ | ⟨d', last', defined', -⟩
        · exact apart hr distinct (List.mem_append_left _ (mem_of_lastCounting last)) hd' defined
            defined' id id'
        · cases (lastCounting_snoc _ (counts_of_field kind)).symm.trans last'
          exact kind_ne_field_of_isTag (definesTag_eq_true.1 defined').1 kind
    | @unnamed g record free =>
      refine List.nodup_cons.2 ⟨fun again => ?_, later⟩
      rcases origin hr rest again with ⟨d', hd', defined', id'⟩ | ⟨_, -, -, -, taken⟩
      · have tag := CursorKind.isTag_of_isRecord record.record
        exact apart hr distinct (by simp) hd' (definesTag_eq_true.2 ⟨tag, record.self⟩) defined'
          (hr.globalOf?_eq_some.1 record.known).1 id'
      · exact free taken

theorem mem_owned_of_taken (h : u.Accounts r parent before rest parts)
    (last : u.lastCounting before = some d) (defined : u.definesTag d = true)
    (id : r.idOf? u d = some i) (taken : u.Taken r i rest) :
    i ∈ parts.flatten.filterMap Member.owns? := by
  induction h with
  | nil => exact absurd taken not_taken_nil
  | @cons before k after part parts gives rest ih =>
    rw [List.flatten_cons, List.filterMap_append, List.mem_append]
    cases counted : u.counts k with
    | false =>
      exact .inr (ih (by rw [lastCounting_pass counted]; exact last) ((taken_pass counted).1 taken))
    | true =>
      obtain ⟨kind, plain, names⟩ := (taken_cons counted).1 taken
      cases gives with
      | bitfield _ narrow => rw [plain] at narrow; cases narrow
      | @field t owns _ _ _ owned =>
        have own := (owned i).2 ⟨d, last, defined, id, names⟩
        exact .inl (by simp [Member.owns?, own])
      | unnamed record =>
        exact absurd kind (kind_ne_field_of_isTag (CursorKind.isTag_of_isRecord record.record))
      | nothing other => exact absurd kind other

theorem mem_owned_of_unnamed {g : Global} (hr : r.Sound u)
    (h : u.Accounts r parent before rest parts) (hc : c ∈ rest)
    (record : u.UnnamedRecord r c g) : g.id ∈ parts.flatten.filterMap Member.owns? := by
  have tag := CursorKind.isTag_of_isRecord record.record
  induction h with
  | nil => cases hc
  | @cons before k after part parts gives rest ih =>
    rw [List.flatten_cons, List.filterMap_append, List.mem_append]
    rcases List.mem_cons.1 hc with rfl | hc
    · cases gives with
      | bitfield kind | field kind => exact absurd kind (kind_ne_field_of_isTag tag)
      | unnamed record' =>
        cases record.known.symm.trans record'.known
        exact .inl (by simp [Member.owns?])
      | nothing other taken =>
        exact .inr (rest.mem_owned_of_taken (lastCounting_snoc _ (counts_of_isTag tag))
          (definesTag_eq_true.2 ⟨tag, record.self⟩) (hr.globalOf?_eq_some.1 record.known).1
          (taken g record))
    · exact .inr (ih hc)

end SourceUnit.Accounts

/-- The members of a record are what its children give, in their order. A field gives one member,
and owns the definition before it exactly if its type names that; an unnamed record that is not
taken gives one. So unnamed records are owned by one member each, and nothing is owned twice. -/
theorem members_account_for_children {u : SourceUnit} {b : List BuiltinEntry} {l l' : Listing}
    {n : Nat} {parent : CursorId} {ms : List Member}
    (reached : Passes u (.ofBuiltins (.ofEntries b)) l)
    (run : visitMembers u (u.recursionWithin n) parent l = (.ok ms, l'))
    (distinct : ((u.children parent).filter u.definesTag).Pairwise fun c d =>
      u.canonical c ≠ u.canonical d)
    (ownKind : ∀ c ∈ u.children parent, u.definesTag c = true → u.kind (u.canonical c) = u.kind c) :
    (∃ parts, ms = parts.flatten ∧
      u.Accounts l'.registry parent [] (u.children parent) parts) ∧
    (ms.filterMap Member.owns?).Nodup ∧
    ∀ c ∈ u.children parent, u.definesTag c = true → ∃ g, l'.registry.globalOf? u c = some g ∧
      ((u.kind c).isRecord = true → u.declSpelling c = "" → g.isBuiltin = false →
        (ms.filterMap Member.owns?).count g.id = 1) := by
  have hr := u.recursionWithin_faithful n
  have hs := (reached.grounded (Listing.grounded_start u b)).1.sound
  obtain ⟨visit, gathered⟩ := (runs_visitMembers hr hs parent).ok run
  have hs' := (visit.proceeds hs).sound
  obtain ⟨parts, rfl, accounts⟩ := Gathering.visitMembers_accounts hr hs run ownKind
  have nodup := accounts.nodup_owned hs'.registry distinct
  refine ⟨⟨parts, rfl, accounts⟩, nodup, fun c hc defined => ?_⟩
  obtain ⟨tag, self⟩ := SourceUnit.definesTag_eq_true.1 defined
  obtain ⟨g, known, -⟩ := gathered.nested c hc tag self
  refine ⟨g, known, fun record unnamed own => ?_⟩
  exact List.nodup_iff_count_eq_one.1 nodup _
    (accounts.mem_owned_of_unnamed hs'.registry hc ⟨record, self, unnamed, known, own⟩)

/-- In `struct R` a pointer takes `struct A`; a bitfield does not take the unnamed struct before it;
an array takes the unnamed union before it, past an attribute. -/
def takingUnit : SourceUnit where
  spelling := "test.c"
  cursors := #[
    { kind := .other "TRANSLATION_UNIT", spelling := "test.c", children := [.node 1] },
    { kind := .structDecl, spelling := "R", file := some "test.c", line := 1, column := 8,
      definition := some (.node 1), type := .node 1, usr := "c:@S@R",
      children := [.node 2, .node 4, .node 5, .node 7, .node 8, .node 10, .node 11] },
    { kind := .structDecl, spelling := "A", file := some "test.c", line := 2, column := 10,
      definition := some (.node 2), type := .node 2, usr := "c:@S@A", children := [.node 3] },
    { kind := .fieldDecl, spelling := "x", file := some "test.c", line := 2, column := 18,
      type := .node 0, offset := 0 },
    { kind := .fieldDecl, spelling := "a", file := some "test.c", line := 2, column := 24,
      type := .node 3, offset := 0 },
    { kind := .structDecl, file := some "test.c", line := 3, column := 3, anonymous := true,
      definition := some (.node 5), type := .node 4, usr := "c:@S@R@Sa", children := [.node 6] },
    { kind := .fieldDecl, spelling := "y", file := some "test.c", line := 3, column := 16,
      type := .node 0, offset := 0 },
    { kind := .fieldDecl, spelling := "b", file := some "test.c", line := 4, column := 7,
      type := .node 0, offset := 96, bitWidth := some 3 },
    { kind := .unionDecl, file := some "test.c", line := 5, column := 3, anonymous := true,
      definition := some (.node 8), type := .node 5, usr := "c:@S@R@Ua", children := [.node 9] },
    { kind := .fieldDecl, spelling := "z", file := some "test.c", line := 5, column := 15,
      type := .node 0, offset := 0 },
    { kind := .other "PACKED_ATTR" },
    { kind := .fieldDecl, spelling := "c", file := some "test.c", line := 5, column := 20,
      type := .node 6, offset := 128 }]
  types := #[
    { kind := .int, spelling := "int" },
    { kind := .record, spelling := "struct R", decl := .node 1, size := 24, align := 8,
      offsets := [("y", 64)] },
    { kind := .record, spelling := "struct A", decl := .node 2, size := 4, align := 4 },
    { kind := .pointer, spelling := "struct A *", pointee := .node 2 },
    { kind := .record, spelling := "struct R::(unnamed)", decl := .node 5, size := 4, align := 4,
      offsets := [("y", 0)] },
    { kind := .record, spelling := "union R::(unnamed)", decl := .node 8, size := 4, align := 4 },
    { kind := .constantArray, spelling := "union R::(unnamed)[2]", element := .node 5, count := 2 }]

/-- Of the four members three own something, and both unnamed records are owned. -/
theorem takingUnit_accounted : ∃ ms l parts,
    visitMembers takingUnit takingUnit.recursion (.node 1) (.ofBuiltins (.ofEntries [])) =
      (.ok ms, l) ∧
    ms.map (fun m => (m.name, m.owns?)) =
      [("a", some 0), ("", some 1), ("b", none), ("c", some 2)] ∧
    ms = parts.flatten ∧
    takingUnit.Accounts l.registry (.node 1) [] (takingUnit.children (.node 1)) parts ∧
    ∀ c ∈ [CursorId.node 5, .node 8], ∃ g, l.registry.globalOf? takingUnit c = some g ∧
      (ms.filterMap Member.owns?).count g.id = 1 := by
  have given : Step.gives (do
      let ms ← visitMembers takingUnit takingUnit.recursion (.node 1)
      let own ← Step.read fun l : Listing => decide (∀ c ∈ [CursorId.node 5, .node 8],
        (l.registry.globalOf? takingUnit c).map Global.isBuiltin = some false)
      return (ms.map (fun m => (m.name, m.owns?)), own)) (.ofBuiltins (.ofEntries []))
      (fun found => decide (found =
        ([("a", some 0), ("", some 1), ("b", none), ("c", some 2)], true))) = true := by
    decide +kernel
  obtain ⟨found, l, ran, listed⟩ := Step.exists_of_gives given
  obtain ⟨ms, l₁, run, rest⟩ := Step.bind_eq_ok ran
  cases rest
  obtain ⟨named, own⟩ := Prod.mk.inj (of_decide_eq_true listed)
  obtain ⟨⟨parts, flat, accounts⟩, -, owned⟩ :=
    members_account_for_children .here run (by decide +kernel) (by decide +kernel)
  refine ⟨ms, l, parts, run, named, flat, accounts, fun c hc => ?_⟩
  have unnamed : ∀ c ∈ [CursorId.node 5, .node 8], c ∈ takingUnit.children (.node 1) ∧
      takingUnit.definesTag c = true ∧ (takingUnit.kind c).isRecord = true ∧
      takingUnit.declSpelling c = "" := by decide +kernel
  obtain ⟨child, defined, record, noName⟩ := unnamed c hc
  obtain ⟨g, known, once⟩ := owned c child defined
  have bound := of_decide_eq_true own c hc
  rw [known] at bound
  exact ⟨g, known, once record noName (Option.some.inj bound)⟩

end DeclAtlas
