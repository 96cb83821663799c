import DeclAtlas.Proofs.Extracted

/-! What a front end can be relied on for: canonical cursors agree with the cursors they stand for
in kind and definition. A declaration then has one definition, and what is listed as incomplete
has none. -/

namespace DeclAtlas

namespace CursorKind

variable {k : CursorKind}

/-- The kinds of the cursors that a global is registered for. -/
def isGlobal : CursorKind → Bool
  | structDecl | unionDecl | enumDecl | typedefDecl | varDecl | functionDecl => true
  | _ => false

theorem isTag_of_isRecord (h : k.isRecord = true) : k.isTag = true := by
  cases k <;> first | rfl | cases h

theorem isTypeDecl_of_isTag (h : k.isTag = true) : k.isTypeDecl = true := by
  cases k <;> first | rfl | cases h

theorem isGlobal_of_isTypeDecl (h : k.isTypeDecl = true) : k.isGlobal = true := by
  cases k <;> first | rfl | cases h

theorem isGlobal_of_isTag (h : k.isTag = true) : k.isGlobal = true :=
  isGlobal_of_isTypeDecl (isTypeDecl_of_isTag h)

theorem isInvalid_of_isGlobal (h : k.isGlobal = true) : k.isInvalid = false := by
  cases k <;> first | rfl | cases h

end CursorKind

namespace SourceUnit

/-- Canonical cursors have the kind of the cursors they stand for, and redeclarations of a record or
enum share one definition, which is a redeclaration itself, or have none. -/
structure Coherent (u : SourceUnit) : Prop where
  kind : ∀ {c}, u.isFound c = true ∨ u.Named c → u.kind (u.canonical c) = u.kind c
  shared : ∀ {c d}, (u.kind c).isTag = true → (u.kind d).isTag = true →
    u.canonical c = u.canonical d → u.definition? c = u.definition? d
  canonical : ∀ {c k}, (u.kind c).isTag = true → u.definition? c = some k →
    u.canonical k = u.canonical c

variable {u : SourceUnit} {c d k : CursorId}

theorem isFound_of_isGlobal (h : (u.kind c).isGlobal = true) : u.isFound c = true := by
  rw [isFound, CursorKind.isInvalid_of_isGlobal h]
  rfl

theorem isFound_of_isTypeDecl (h : (u.kind c).isTypeDecl = true) : u.isFound c = true :=
  isFound_of_isGlobal (CursorKind.isGlobal_of_isTypeDecl h)

theorem isFound_of_isTag (h : (u.kind c).isTag = true) : u.isFound c = true :=
  isFound_of_isGlobal (CursorKind.isGlobal_of_isTag h)

theorem isGlobal_of_isTyped (h : u.isTyped c = true) : (u.kind c).isGlobal = true := by
  unfold isTyped at h
  cases hk : u.kind c <;> rw [hk] at h <;> first | rfl | cases h

theorem isFound_of_isTyped (h : u.isTyped c = true) : u.isFound c = true :=
  isFound_of_isGlobal (isGlobal_of_isTyped h)

theorem isFound_of_definition (h : u.definition? c = some k) : u.isFound k = true :=
  (Option.filter_eq_some_iff.1 h).2

theorem Coherent.kind_eq (hu : u.Coherent) (hc : u.isFound c = true) (hd : u.isFound d = true)
    (same : u.canonical c = u.canonical d) : u.kind c = u.kind d := by
  rw [← hu.kind (.inl hc), same, hu.kind (.inl hd)]

theorem Coherent.kind_definition (hu : u.Coherent) (tag : (u.kind c).isTag = true)
    (h : u.definition? c = some k) : u.kind k = u.kind c :=
  hu.kind_eq (isFound_of_definition h) (isFound_of_isTag tag) (hu.canonical tag h)

theorem Coherent.definition_self (hu : u.Coherent) (tag : (u.kind c).isTag = true)
    (h : u.definition? c = some k) : u.definition? k = some k := by
  have tag' : (u.kind k).isTag = true := by rwa [hu.kind_definition tag h]
  exact (hu.shared tag' tag (hu.canonical tag h)).trans h

def cursorIds (u : SourceUnit) : List CursorId := (List.range u.cursors.size).map .node

def typeIds (u : SourceUnit) : List TypeId := (List.range u.types.size).map .node

theorem mem_cursorIds (h : u.isFound c = true) : c ∈ u.cursorIds := by
  cases c with
  | absent => cases h
  | node i =>
    refine List.mem_map.2 ⟨i, List.mem_range.2 (Nat.lt_of_not_le fun hi => ?_), rfl⟩
    simp [isFound, kind, cursor, Array.getElem?_eq_none hi,
      CursorKind.isInvalid] at h

theorem mem_typeIds {t : TypeId} (h : u.typeKind t ≠ .invalid) : t ∈ u.typeIds := by
  cases t with
  | invalid => exact absurd rfl h
  | node i =>
    refine List.mem_map.2 ⟨i, List.mem_range.2 (Nat.lt_of_not_le fun hi => ?_), rfl⟩
    simp [typeKind, typeNode, Array.getElem?_eq_none hi] at h

theorem coherent_iff : u.Coherent ↔
    (∀ c ∈ u.cursorIds, u.isFound c = true → u.kind (u.canonical c) = u.kind c) ∧
    (∀ c ∈ u.cursorIds, (u.kind c).isTag = true →
      (∀ d ∈ u.cursorIds, (u.kind d).isTag = true → u.canonical c = u.canonical d →
        u.definition? c = u.definition? d) ∧
      ∀ k ∈ u.definition? c, u.canonical k = u.canonical c) ∧
    ∀ t ∈ u.typeIds, u.typeKind t = .record ∨ u.typeKind t = .enum →
      u.kind (u.canonical (u.typeNode t).decl) = u.kind (u.typeNode t).decl := by
  constructor
  · intro h
    refine ⟨fun c _ hc => h.kind (.inl hc), fun c _ tag => ⟨fun d _ => h.shared tag, fun k => ?_⟩,
      fun t _ ht => h.kind (.inr ⟨t, ht, rfl⟩)⟩
    exact h.canonical tag
  · rintro ⟨kinds, tags, types⟩
    have known {c : CursorId} (tag : (u.kind c).isTag = true) := mem_cursorIds (isFound_of_isTag tag)
    refine ⟨fun h => ?_, fun hc hd => (tags _ (known hc) hc).1 _ (known hd) hd,
      fun hc => (tags _ (known hc) hc).2 _⟩
    rcases h with hc | ⟨t, ht, rfl⟩
    · exact kinds _ (mem_cursorIds hc) hc
    · exact types t (mem_typeIds (by rcases ht with ht | ht <;> simp [ht])) ht

instance (u : SourceUnit) : Decidable u.Coherent := decidable_of_iff _ coherent_iff.symm

end SourceUnit

namespace Listing

variable {u : SourceUnit} {c d k : CursorId} {l l' : Listing} {g : Global} {id : Int}

open SourceUnit

theorem Sound.definition_eq (hs : l.Sound u) (hu : u.Coherent) (hc : u.isFound c = true)
    (tag : (u.kind d).isTag = true) (hidc : l.registry.idOf? u c = some id)
    (hidd : l.registry.idOf? u d = some id) :
    (u.kind c).isTag = true ∧ u.definition? c = u.definition? d := by
  have same := hs.registry.canonical_eq hidc hidd
  have tag' : (u.kind c).isTag = true := by rwa [hu.kind_eq hc (isFound_of_isTag tag) same]
  exact ⟨tag', hu.shared tag' tag same⟩

theorem Sound.isTag_kind (hs : l.Sound u) (hu : u.Coherent) (hd : u.isFound d = true ∨ u.Named d)
    (hg : l.registry.globalOf? u d = some g) (hb : g.isBuiltin = false) :
    (u.kind d).isTag = g.form.isTag := by
  have h := hs.registry.cursorKind?_eq hg hb
  rw [hu.kind hd] at h
  exact (Form.isTag_of_cursorKind? h).symm

theorem Sound.isTag_of_holdsTag (hs : l.Sound u) (hu : u.Coherent) (hd : u.isFound d = true)
    (hid : l.registry.idOf? u d = some id) (held : l.registry.HoldsTag id) :
    (u.kind d).isTag = true := by
  obtain ⟨g, hg, form⟩ := held
  obtain rfl := hs.registry.own hg
  have known := hs.registry.globalOf?_eq_some.2 ⟨hid, hg⟩
  rwa [hs.isTag_kind hu (.inl hd) known (Form.isBuiltin_of_isTag form)]

theorem OnDemand.unlisted (h : l.OnDemand u k) (hs : l.Sound u) (hu : u.Coherent) :
    u.definition? k = some k ∧ ∃ id, l.registry.idOf? u k = some id ∧ id ∉ l.order := by
  obtain ⟨-, d, g, hd, hk, hg, form, hl⟩ := h
  have tag : (u.kind d).isTag = true := by
    rwa [hs.isTag_kind hu (.inl (isFound_of_isTypeDecl hd)) hg (Form.isBuiltin_of_isTag form)]
  refine ⟨hu.definition_self tag hk, g.id, ?_, hl⟩
  rw [Registry.idOf?, hu.canonical tag hk]
  exact (hs.registry.globalOf?_eq_some.1 hg).1

theorem Defines.definition_self {S : CursorId → Prop} (h : l.Defines u S c) (hs : l.Sound u)
    (hu : u.Coherent) : u.definition? c = some c := by
  rcases h with h | h
  · exact h.2
  · exact (h.unlisted hs hu).1

/-- What is listed as incomplete is a record or enum without a definition. -/
def Undefined (u : SourceUnit) (l : Listing) : Prop :=
  ∀ id ∈ l.incomplete, ∃ d, (u.kind d).isTag = true ∧ u.definition? d = none ∧
    l.registry.idOf? u d = some id

theorem Undefined.grows (h : l.Undefined u) (hi : l'.incomplete = l.incomplete)
    (hr : l.registry.Grows l'.registry) : l'.Undefined u := by
  intro id hid
  obtain ⟨d, ht, hd, hid⟩ := h id (hi ▸ hid)
  exact ⟨d, ht, hd, hr.idOf? hid⟩

theorem Undefined.not_mem (h : l.Undefined u) (hs : l.Sound u) (hu : u.Coherent)
    (hk : u.definition? k = some k) (hid : l.registry.idOf? u k = some id) : id ∉ l.incomplete := by
  intro hm
  obtain ⟨d, ht, hd, hid'⟩ := h id hm
  have same := (hs.definition_eq hu (isFound_of_definition hk) ht hid hid').2
  rw [hk, hd] at same
  cases same

end Listing

open Listing SourceUnit in
/-- No visit marks a declaration incomplete that has a definition. -/
theorem Visit.undefined {u : SourceUnit} {S : CursorId → Prop} {l l' : Listing} {o : Option Fault}
    (h : Visit u S l o l') (hu : u.Coherent) (hS : ∀ d, S d → u.isFound d = true ∨ u.Named d)
    (ho : ∀ e, o = some e → e.isLocal = true) (hs : l.Sound u) (hl : l.Undefined u) :
    l'.Undefined u := by
  have nests : ∀ {c d}, u.Nests c d → u.isFound d = true ∨ u.Named d :=
    fun h => .inl (isFound_of_isTag h.2)
  induction h with
  | done | halt => exact hl
  | noted n rest ih => exact ih hS ho (hs.congr rfl rfl rfl) hl
  | looked look rest ih =>
    have hp := proceeds_lookup hs look
    exact ih hS ho hp.sound (hl.grows (lookup_incomplete hs look) hp.moves.registry)
  | undeclarable id fatal => rw [ho _ rfl] at fatal; cases fatal
  | @incomplete _ _ _ _ d g place undefined known tag unlisted rest ih =>
    have hp := proceeds_enterIncomplete hs known tag
    refine ih hS ho hp.sound fun id hid => ?_
    rw [enterIncomplete_incomplete] at hid
    rcases IdSet.mem_insert.1 hid with rfl | hid
    · have hb := Form.isBuiltin_of_isTag tag
      have hd := place.elim .inl (hS d)
      refine ⟨d, (hs.isTag_kind hu hd known hb).trans tag, undefined, hp.moves.registry.idOf? ?_⟩
      exact (hs.registry.globalOf?_eq_some.1 known).1
    · obtain ⟨d, ht, hd, hid⟩ := hl id hid
      exact ⟨d, ht, hd, hp.moves.registry.idOf? hid⟩
  | enumerated place look form rest ih =>
    have hp := proceeds_enterEnum hs look form
    refine ih hS ho hp.sound (hl.grows ?_ hp.moves.registry)
    simp [enterEnum, stopDefining, setEnumItems, startDefining, lookup_incomplete hs look]
  | @recorded _ _ l₁ _ _ _ _ g ms place look form inside gathered rest ihin ih =>
    have hl₁ := proceeds_lookup hs look
    have hs₁ := hl₁.sound.startDefining g.id
    have start : l₁.Undefined u := hl.grows (lookup_incomplete hs look) hl₁.moves.registry
    have hin := inside.proceeds hs₁
    have hp := proceeds_enterRecord ms hs look form hin
    have hl₂ := ihin (fun _ h => nests h) (fun _ h => by cases h) hs₁ start
    refine ih hS ho hp.sound (hl₂.grows ?_ (grows_enterRecord ms hs look hin))
    simp [enterRecord, stopDefining, setMembers]
  | @failed _ _ l₁ _ _ _ g _ _ place look tag inside given ihin =>
    have hl₁ := proceeds_lookup hs look
    have hs₁ := hl₁.sound.startDefining g.id
    have start : l₁.Undefined u := hl.grows (lookup_incomplete hs look) hl₁.moves.registry
    have hs₂ := (inside.frame hs₁).1
    obtain rfl := (abandon_error hs₂ given).1
    have hr := reverts_abandon hs₂ given
    have hl₂ := ihin (fun _ h => nests h) ho hs₁ start
    exact hl₂.grows hr.incomplete hr.grows

section steps

open Listing SourceUnit

variable {u : SourceUnit} {c : CursorId} {l l' : Listing}

theorem isFound_or_named_of_near {d : CursorId} (h : u.Near c d) :
    u.isFound d = true ∨ u.Named d :=
  h.imp_left fun h => isFound_of_isTag h.2

theorem Extracted.undefined (h : Extracted u c l l') (hu : u.Coherent) (hs : l.Sound u)
    (hl : l.Undefined u) : l'.Undefined u := by
  have near : ∀ d, u.Near c d → u.isFound d = true ∨ u.Named d :=
    fun _ h => isFound_or_named_of_near h
  cases h with
  | declared _ declared =>
    cases declared with
    | visited visit _ => exact visit.undefined hu near (fun _ h => by cases h) hs hl
    | @typed l₁ g g₁ t visit _ _ known outline own _ =>
      have hl₁ := visit.undefined hu near (fun _ h => by cases h) hs hl
      exact hl₁.grows (addTyped_incomplete own)
        (succeeds_addTyped t (visit.proceeds hs).sound known outline own).registry
  | @skipped l₁ e id _ own visit known =>
    have hl₁ := visit.undefined hu near (fun e h => by cases h; exact own) hs hl
    rw [skipped_eq known]
    exact hl₁.grows rfl (Registry.grows_poison _ id)

end steps

end DeclAtlas
