import DeclAtlas.Proofs.Tabulated

/-! References in types. A type is built from the links that the registry gives to declarations, so
each reference in it is of the sort that its declaration is of, and a declaration that is bound
elsewhere is referred to by its external name only. -/

namespace DeclAtlas

namespace CType

mutual

/-- A type and the types that stand in it, at any depth. -/
def parts : CType → List CType
  | .pointer t k => .pointer t k :: t.parts
  | .array t n => .array t n :: t.parts
  | .prototype ret args v => .prototype ret args v :: (ret.parts ++ argParts args)
  | .functionPointer ret args v => .functionPointer ret args v :: (ret.parts ++ argParts args)
  | t => [t]

def argParts : List (Param CType) → List CType
  | [] => []
  | ⟨_, t⟩ :: rest => t.parts ++ argParts rest

end

/-- The identity that a type refers to itself, not through the types that stand in it. -/
def target? : CType → Option Int
  | .named _ _ ref => ref
  | .enum ref => some ref
  | .composite ref => some ref
  | _ => none

mutual

theorem mem_refs_iff {i : Int} : ∀ t : CType, i ∈ t.refs ↔ ∃ p ∈ t.parts, p.target? = some i
  | .void | .base _ | .enum _ | .composite _ => by simp [refs, parts, target?, eq_comm]
  | .named _ _ ref => by simp [refs, parts, target?]
  | .pointer t _ | .array t _ => by simp [refs, parts, target?, mem_refs_iff t]
  | .prototype ret args _ | .functionPointer ret args _ => by
    simp [refs, parts, target?, mem_refs_iff ret, mem_argRefs_iff args, or_and_right, exists_or]

theorem mem_argRefs_iff {i : Int} :
    ∀ args, i ∈ argRefs args ↔ ∃ p ∈ argParts args, p.target? = some i
  | [] => by simp [argRefs, argParts]
  | ⟨_, t⟩ :: rest => by
    simp [argRefs, argParts, mem_refs_iff t, mem_argRefs_iff rest, or_and_right, exists_or]

end

theorem mem_argParts {p : CType} {args : List (Param CType)} :
    p ∈ argParts args ↔ ∃ a ∈ args, p ∈ a.type.parts := by
  induction args with
  | nil => simp [argParts]
  | cons a rest ih => simp [argParts, ih]

end CType

def Form.isTypedef : Form → Bool
  | typedef .. => true
  | _ => false

namespace Registry

variable {r : Registry} {b : List BuiltinEntry}

/-- A type is what it refers to: a record, an enum, or a typedef of that name. A name that refers to
nothing is the external name of a builtin. -/
def Resolves (r : Registry) (b : List BuiltinEntry) : CType → Prop
  | .composite i => r.HoldsForm Form.isComposite i
  | .enum i => r.HoldsForm Form.isEnum i
  | .named name external (some i) =>
    external = false ∧ ∃ d, r.globals.get? i = some d ∧ d.form.isTypedef = true ∧ d.name.text = name
  | .named name external none => external = true ∧ ∃ e ∈ b, e.name = name
  | _ => True

/-- All parts of a type are resolved. -/
def Links (r : Registry) (b : List BuiltinEntry) (t : CType) : Prop :=
  ∀ p ∈ t.parts, r.Resolves b p

def LinksSignature (r : Registry) (b : List BuiltinEntry) (s : Signature) : Prop :=
  r.Links b s.ret ∧ ∀ a ∈ s.args, r.Links b a.type

@[simp] theorem links_pointer {t : CType} {k : Bool} : r.Links b (.pointer t k) ↔ r.Links b t := by
  simp [Links, CType.parts, Resolves]

@[simp] theorem links_array {t : CType} {n : Int} : r.Links b (.array t n) ↔ r.Links b t := by
  simp [Links, CType.parts, Resolves]

theorem links_args {args : List (Param CType)} :
    (∀ p ∈ CType.argParts args, r.Resolves b p) ↔ ∀ a ∈ args, r.Links b a.type := by
  simp only [CType.mem_argParts, Links]
  grind

@[simp] theorem links_toPrototype {s : Signature} :
    r.Links b s.toPrototype ↔ r.LinksSignature b s := by
  rw [LinksSignature, ← links_args]
  simp [Signature.toPrototype, Links, CType.parts, Resolves, or_imp, forall_and]

@[simp] theorem links_toPointer {s : Signature} : r.Links b s.toPointer ↔ r.LinksSignature b s := by
  rw [LinksSignature, ← links_args]
  simp [Signature.toPointer, Links, CType.parts, Resolves, or_imp, forall_and]

@[simp] theorem links_void : r.Links b .void := by simp [Links, CType.parts, Resolves]

@[simp] theorem links_base {k : BaseKind} : r.Links b (.base k) := by
  simp [Links, CType.parts, Resolves]

theorem Resolves.target {p : CType} {i : Int} (h : r.Resolves b p) (hi : p.target? = some i) :
    ∃ d, r.globals.get? i = some d ∧ d.isBuiltin = false := by
  have own {form : Form → Bool} (hf : ∀ t, form (.builtin t) = false) (h : r.HoldsForm form i) :
      ∃ d, r.globals.get? i = some d ∧ d.isBuiltin = false := by
    obtain ⟨d, hd, hform⟩ := h
    refine ⟨d, hd, ?_⟩
    unfold Global.isBuiltin
    cases hf' : d.form with
    | builtin t => rw [hf', hf] at hform; cases hform
    | _ => rfl
  cases p with
  | composite => cases hi; exact own (fun _ => rfl) h
  | enum => cases hi; exact own (fun _ => rfl) h
  | named name external ref =>
    cases hi
    obtain ⟨-, d, hd, hform, -⟩ := h
    exact own (fun _ => rfl) ⟨d, hd, hform⟩
  | _ => cases hi

end Registry

namespace SourceUnit

/-- An answer, where there is one, has the property `P`. -/
def Ensures {α : Type} (P : α → Prop) (x : Option α) : Prop := ∀ a, x = some a → P a

namespace Ensures

variable {α β : Type} {P : α → Prop} {R : β → Prop} {x y : Option α}

theorem some {a : α} (h : P a) : Ensures P (some a) := by
  intro _ ha
  cases ha
  exact h

theorem map {f : α → β} (h : Ensures P x) (hf : ∀ {a}, P a → R (f a)) : Ensures R (x.map f) := by
  intro b hb
  obtain ⟨a, ha, rfl⟩ := Option.map_eq_some_iff.1 hb
  exact hf (h a ha)

theorem bind {f : α → Option β} (h : Ensures P x) (hf : ∀ {a}, P a → Ensures R (f a)) :
    Ensures R (x.bind f) := by
  intro b hb
  obtain ⟨a, ha, hb⟩ := Option.bind_eq_some_iff.1 hb
  exact hf (h a ha) b hb

theorem ite {p : Prop} [Decidable p] (h : p → Ensures P x) (h' : ¬p → Ensures P y) :
    Ensures P (if p then x else y) := by
  split
  · exact h ‹_›
  · exact h' ‹_›

end Ensures

section pieces

variable {u : SourceUnit} {r : Registry} {b : List BuiltinEntry} {link : CursorId → Option Link}
  {conv : TypeId → CursorId → Option CType}

theorem links_declaredMeanings (hc : ∀ t c, Ensures (r.Links b) (conv t c)) (ps : List CursorId) :
    Ensures (fun args => ∀ a ∈ args, r.Links b a.type) (u.declaredMeanings conv ps) := by
  induction ps with
  | nil => exact .some (by simp)
  | cons p rest ih => exact .bind (hc _ _) fun ht => .map ih fun hrest => by simpa using ⟨ht, hrest⟩

theorem links_unnamedMeanings (hc : ∀ t c, Ensures (r.Links b) (conv t c)) (c : CursorId)
    (ts : List TypeId) :
    Ensures (fun args => ∀ a ∈ args, r.Links b a.type) (unnamedMeanings conv c ts) := by
  induction ts with
  | nil => exact .some (by simp)
  | cons t rest ih => exact .bind (hc _ _) fun ht => .map ih fun hrest => by simpa using ⟨ht, hrest⟩

theorem links_signatureMeaning (hc : ∀ t c, Ensures (r.Links b) (conv t c)) (f : TypeId)
    (c : CursorId) : Ensures (r.LinksSignature b) (u.signatureMeaning conv f c) := by
  refine .bind (hc _ _) fun hret => .ite (fun _ => .some ⟨hret, by simp⟩) fun _ => ?_
  have args : Ensures (fun args => ∀ a ∈ args, r.Links b a.type) (u.parameterMeanings conv f c) :=
    .ite (fun _ => links_declaredMeanings hc _) fun _ => links_unnamedMeanings hc _ _
  exact .map args fun hargs => ⟨hret, hargs⟩

variable (hl : ∀ d, (u.kind d).isTypeDecl = true → Ensures (fun k => r.Links b k.type) (link d))
  (hc : ∀ t c, Ensures (r.Links b) (conv t c))

include hl hc

theorem links_declaredMeaning (d : CursorId) :
    Ensures (r.Links b) (u.declaredMeaning link conv d) := by
  refine .ite (fun _ => .some Registry.links_void) fun hd => ?_
  refine .bind (hl d (by simpa using hd)) fun hk => ?_
  exact .ite (fun _ => .some hk) fun _ => .ite (fun _ => hc _ _) fun _ => .some hk

theorem links_pointerMeaning (t : TypeId) (c : CursorId) :
    Ensures (r.Links b) (u.pointerMeaning link conv t c) := by
  refine .ite (fun _ => ?_) fun _ => .ite (fun _ => ?_) fun _ => .ite (fun _ => ?_) fun _ =>
    .ite (fun _ => ?_) fun _ => .ite (fun _ => hc _ _) fun _ => ?_
  · exact .map (hc _ _) Registry.links_pointer.2
  · exact .map (links_signatureMeaning hc _ _) Registry.links_toPointer.2
  · exact .some (by simp)
  · exact .map (links_declaredMeaning hl hc _) Registry.links_pointer.2
  · exact .some (by simp)

theorem links_typeMeaning (t : TypeId) (c : CursorId) :
    Ensures (r.Links b) (u.typeMeaning link conv t c) := by
  have base (x : Option BaseKind) : Ensures (r.Links b) (x.map .base) :=
    .map (P := fun _ => True) (fun _ _ => trivial) fun _ => Registry.links_base
  unfold typeMeaning
  generalize u.typeNode t = node
  dsimp only
  split
  case h_1 | h_2 => exact .some Registry.links_void
  case h_3 => exact .some Registry.links_base
  case h_5 => exact links_pointerMeaning hl hc t c
  case h_6 | h_7 | h_8 | h_9 => exact .map (hc _ _) Registry.links_array.2
  case h_10 | h_11 => exact .map (links_signatureMeaning hc _ _) Registry.links_toPrototype.2
  case h_12 => exact hc _ _
  case h_13 | h_14 | h_15 => exact links_declaredMeaning hl hc _
  case h_16 =>
    exact .ite (fun _ => links_declaredMeaning hl hc _) fun _ =>
      .ite (fun _ => hc _ _) fun _ => .some Registry.links_void
  case h_17 | h_18 | h_19 => exact fun _ h => by cases h
  all_goals exact base _

omit hc in
/-- Where the links are resolved, so are the meanings of types. -/
theorem links_meaningWithin (n : Nat) (t : TypeId) (c : CursorId) :
    Ensures (r.Links b) (u.meaningWithin link n t c) := by
  induction n generalizing t c with
  | zero => intro m h; cases h
  | succ n ih => exact links_typeMeaning hl ih t c

end pieces

theorem links_typedMeaning {u : SourceUnit} {r : Registry} {b : List BuiltinEntry}
    {conv : TypeId → CursorId → Option CType} (hc : ∀ t c, Ensures (r.Links b) (conv t c))
    (c : CursorId) : Ensures (r.Links b) (u.typedMeaning conv c) := by
  unfold typedMeaning
  split
  · exact .map (links_signatureMeaning hc _ _) Registry.links_toPointer.2
  · exact hc _ _
  · exact hc _ _
  · exact fun _ h => by cases h

/-- Canonical cursors have the kind of the cursors they stand for. -/
def KeepsKinds (u : SourceUnit) : Prop :=
  ∀ c, u.isFound c = true → u.kind (u.canonical c) = u.kind c

theorem keepsKinds_iff {u : SourceUnit} : u.KeepsKinds ↔
    ∀ c ∈ u.cursorIds, u.isFound c = true → u.kind (u.canonical c) = u.kind c :=
  ⟨fun h c _ => h c, fun h c hc => h c (mem_cursorIds hc) hc⟩

instance (u : SourceUnit) : Decidable u.KeepsKinds := decidable_of_iff _ keepsKinds_iff.symm

end SourceUnit

section links

open SourceUnit

variable {u : SourceUnit} {r : Registry} {b : List BuiltinEntry} {d : CursorId} {g : Global}

theorem Builtins.exists_entry {external : String}
    (h : (Builtins.ofEntries b).resolve? u d = some external) : ∃ e ∈ b, e.name = external := by
  obtain ⟨e, he, hpair⟩ := List.mem_map.1 (Table.mem_of_get?_ofList h)
  exact ⟨e, he, congrArg Prod.snd hpair⟩

theorem Registry.Sound.links_reference (hs : r.Sound u) (hk : u.KeepsKinds)
    (hb : r.builtins = .ofEntries b) (hd : (u.kind d).isTypeDecl = true)
    (hg : r.globalOf? u d = some g) : r.Links b g.reference := by
  have hget := (hs.globalOf?_eq_some.1 hg).2
  have alone {p : CType} (hp : p.parts = [p]) (h : r.Resolves b p) : r.Links b p := by
    intro q hq
    rw [hp, List.mem_singleton] at hq
    exact hq ▸ h
  have kind (own : g.isBuiltin = false) : g.form.cursorKind? = some (u.kind d) := by
    rw [hs.cursorKind?_eq hg own, hk d (isFound_of_isTypeDecl hd)]
  unfold Global.isBuiltin at kind
  unfold Global.reference
  cases form : g.form with
  | builtin t =>
    obtain ⟨external, hext, rfl⟩ := hs.external_of_builtin hg form
    exact alone rfl ⟨rfl, Builtins.exists_entry (hb ▸ hext)⟩
  | composite => exact alone rfl ⟨g, hget, by rw [form]; rfl⟩
  | enum => exact alone rfl ⟨g, hget, by rw [form]; rfl⟩
  | typedef => exact alone rfl ⟨rfl, g, hget, by rw [form]; rfl, rfl⟩
  | var | function =>
    -- a variable or function is no declaration that a type can refer to
    rw [form] at kind
    rw [← Option.some.inj (kind rfl)] at hd
    cases hd

theorem Registry.Sound.links_link? (hs : r.Sound u) (hk : u.KeepsKinds)
    (hb : r.builtins = .ofEntries b) (d : CursorId) (hd : (u.kind d).isTypeDecl = true) :
    Ensures (fun k => r.Links b k.type) (r.link? u d) := by
  intro k hlink
  obtain ⟨g, hg, rfl⟩ := Option.map_eq_some_iff.1 hlink
  exact hs.links_reference hk hb hd hg

end links

namespace Listing

open SourceUnit

variable {u : SourceUnit} {S : CursorId → Prop} {l l' : Listing} {t : CType}

/-- A type that some function, variable or typedef of the unit is listed with. -/
def Types (u : SourceUnit) (l : Listing) (t : CType) : Prop :=
  ∃ c n, u.typedMeaning (l.meaning u n) c = some t

theorem Types.grows (h : l.Types u t) (grows : l.registry.Grows l'.registry) : l'.Types u t := by
  obtain ⟨c, n, hn⟩ := h
  exact ⟨c, n, typedMeaning_mono (meaningWithin_mono (grows.link u) (Nat.le_refl n)) c t hn⟩

/-- Every type of a listed declaration and every member on record is what the unit says, read over
the registry. -/
structure Meant (u : SourceUnit) (l : Listing) : Prop where
  typed : ∀ {id g t}, id ∈ l.order → l.registry.globals.get? id = some g → g.type? = some t →
    l.Types u t
  members : l.OnRecord fun l _ m => ∃ cs, l.Made u cs m

theorem meant_ofBuiltins (u : SourceUnit) (b : Builtins) : (ofBuiltins b).Meant u where
  typed h := by cases h
  members _ _ h := by cases h

theorem Meant.keeps (h : l.Meant u) (grows : l.registry.Grows l'.registry)
    (members : l'.members = l.members)
    (typed : ∀ {id g t}, id ∈ l'.order → l'.registry.globals.get? id = some g → g.type? = some t →
      l.Types u t ∨ id ∈ l.order ∧ l.registry.globals.get? id = some g) : l'.Meant u where
  typed hid hg ht := by
    rcases typed hid hg ht with meant | ⟨hid, hg⟩
    · exact meant.grows grows
    · exact (h.typed hid hg ht).grows grows
  members := h.members.grows (fun ⟨cs, made⟩ => ⟨cs, made.grows grows⟩) members

theorem Meant.visit {o : Option Fault} (h : l.Meant u) (hs : l.Sound u) (hv : Visit u S l o l') :
    l'.Meant u where
  typed hid hg ht := by
    obtain ⟨hid, hg⟩ := typed_of_visit hv hs hid hg ht
    exact (h.typed hid hg ht).grows (hv.frame hs).2.1.registry
  members := hv.onRecord hs (fun grows ⟨cs, made⟩ => ⟨cs, made.grows grows⟩)
    (fun _ _ _ _ _ gathered m hm => ⟨_, gathered.made m hm⟩) h.members

theorem Types.links {b : List BuiltinEntry} (h : l.Types u t) (hs : l.Sound u) (hk : u.KeepsKinds)
    (hb : l.registry.builtins = .ofEntries b) : l.registry.Links b t := by
  obtain ⟨c, n, hn⟩ := h
  exact links_typedMeaning (links_meaningWithin (hs.registry.links_link? hk hb) n) c t hn

theorem Made.links {b : List BuiltinEntry} {cs : List CursorId} {m : Member} (h : l.Made u cs m)
    (hs : l.Sound u) (hk : u.KeepsKinds) (hb : l.registry.builtins = .ofEntries b) :
    l.registry.Links b m.type := by
  rcases h.type with ⟨f, -, -, n, hn⟩ | ⟨k, g, nested, form, hm⟩
  · exact links_meaningWithin (hs.registry.links_link? hk hb) n _ _ _ hn
  · have typeDecl : (u.kind k).isTypeDecl = true := by
      have tag := nested.tag
      cases hkind : u.kind k <;> rw [hkind] at tag <;> first | rfl | cases tag
    have := hs.registry.links_reference hk hb typeDecl nested.known
    rw [hm]
    unfold Global.reference at this
    cases hf : g.form <;> rw [hf] at form this <;> first | exact this | cases form

end Listing

section steps

open Listing SourceUnit

variable {u : SourceUnit} {c : CursorId} {l l' : Listing}

theorem Extracted.meant (h : Extracted u c l l') (hk : u.KeepsKinds) (hs : l.Sound u)
    (hl : l.Meant u) : l'.Meant u := by
  cases h with
  | declared _ declared =>
    cases declared with
    | visited visit _ => exact hl.visit hs visit
    | @typed l₁ g g₁ t visit kind _ known outline own meant =>
      have hs₁ := (visit.proceeds hs).sound
      have tag := hs₁.isTag_eq_false_of_typed (hk c (isFound_of_isTyped kind)) kind known outline own
      refine (hl.visit hs visit).keeps (succeeds_addTyped t hs₁ known outline own).registry
        (addTyped_members own) fun hid hd ht => ?_
      rcases eq_or_listed_of_addTyped tag own hid hd with rfl | listed
      · rw [Global.type?_withType tag] at ht
        cases ht
        obtain ⟨n, hn, -⟩ := meant
        exact .inl ⟨c, n, hn⟩
      · exact .inr listed
  | @skipped l₁ e id _ own visit known =>
    rw [skipped_eq known]
    refine (hl.visit hs visit).keeps (Registry.grows_poison _ id) rfl fun hid hg _ => .inr ?_
    exact ⟨List.mem_of_mem_erase hid, hg⟩

end steps

/-- A type that the graph holds: that of a declaration, or that of a member of one. -/
def Graph.Stores (g : Graph) (t : CType) : Prop :=
  ∃ d ∈ g.declarations, d.type? = some t ∨
    ∃ ms, g.members.get? d.id = some ms ∧ ∃ m ∈ ms, m.type = t

namespace Completed

open Listing SourceUnit

variable {u : SourceUnit} {b : List BuiltinEntry} {walked l : Listing} {g : Graph}

theorem meant (h : Completed u b walked l g) (hk : u.KeepsKinds) : l.Meant u := by
  have hw : walked.Meant u :=
    h.walk.keeps (sound_start u b) (fun hs hl step => step.meant hk hs hl) (meant_ofBuiltins u _)
  exact hw.keeps h.grows_pruned h.pruned.members fun hid hg _ =>
    .inr ⟨h.pruned.order.subset hid, h.pruned.globals ▸ hg⟩

theorem builtins (h : Completed u b walked l g) : l.registry.builtins = .ofEntries b :=
  h.pruned.builtins.trans (h.walk.advances (sound_start u b)).registry.builtins

theorem links (h : Completed u b walked l g) (hk : u.KeepsKinds) {t : CType} (ht : g.Stores t) :
    l.registry.Links b t := by
  obtain ⟨d, hd, ht⟩ := ht
  obtain ⟨hid, hget⟩ := h.mem_declarations.1 hd
  have hl := h.meant hk
  rcases ht with ht | ⟨ms, hms, m, hm, rfl⟩
  · exact (hl.typed hid hget ht).links h.sound hk h.builtins
  · rw [h.members hid] at hms
    obtain ⟨cs, made⟩ := hl.members d.id ms hms m hm
    exact made.links h.sound hk h.builtins

end Completed

open SourceUnit in
/-- No declaration of an extracted graph is bound elsewhere. In the types that the graph holds, at
any depth, references to records, enums and typedefs lead to registered records, enums and typedefs
of that name, a name without a reference is an external name of a builtin, and so no reference leads
to a declaration that is bound elsewhere. -/
theorem references_well_typed {u : SourceUnit} {b : List BuiltinEntry} {g : Graph} {l : Listing}
    (hk : u.KeepsKinds) (h : u.extract b = (.ok g, l)) :
    (∀ d ∈ g.declarations, d.isBuiltin = false) ∧
    ∀ t, g.Stores t → (∀ p ∈ t.parts, l.registry.Resolves b p) ∧
      ∀ i ∈ t.refs, ∃ d, l.registry.globals.get? i = some d ∧ d.isBuiltin = false := by
  obtain ⟨walked, hc⟩ := extract_completed h
  refine ⟨fun d hd => ?_, fun t ht => ⟨hc.links hk ht, fun i hi => ?_⟩⟩
  · obtain ⟨hid, hget⟩ := hc.mem_declarations.1 hd
    obtain ⟨d', hd', own⟩ := hc.sound.listed hid
    rw [hget] at hd'
    cases hd'
    exact own
  · obtain ⟨p, hp, target⟩ := (CType.mem_refs_iff t).1 hi
    exact (hc.links hk ht p hp).target target

/-- Here `f` returns a pointer to a typedef of `struct S`, and takes a `size_t`. -/
def boundUnit : SourceUnit where
  spelling := "test.c"
  cursors := #[
    { kind := .other "TRANSLATION_UNIT", spelling := "test.c",
      children := [.node 1, .node 3, .node 4, .node 5] },
    { kind := .structDecl, spelling := "S", file := some "test.c", line := 1, column := 8,
      definition := some (.node 1), type := .node 0, children := [.node 2], usr := "c:@S@S" },
    { kind := .fieldDecl, spelling := "a", file := some "test.c", line := 1, column := 16,
      type := .node 1, offset := 0 },
    { kind := .typedefDecl, spelling := "T", file := some "test.c", line := 2, column := 18,
      underlying := .node 0 },
    { kind := .typedefDecl, spelling := "size_t", file := some "test.c", line := 3, column := 23,
      underlying := .node 2 },
    { kind := .functionDecl, spelling := "f", file := some "test.c", line := 4, column := 4,
      type := .node 6, children := [.node 6], args := [.node 6], linkage := .external },
    { kind := .parmDecl, spelling := "n", file := some "test.c", line := 4, column := 13,
      type := .node 4 }]
  types := #[
    { kind := .record, spelling := "struct S", decl := .node 1, size := 4, align := 4 },
    { kind := .int, spelling := "int" },
    { kind := .ulong, spelling := "unsigned long" },
    { kind := .typedef, spelling := "T", decl := .node 3 },
    { kind := .typedef, spelling := "size_t", decl := .node 4 },
    { kind := .pointer, spelling := "T *", pointee := .node 3 },
    { kind := .functionProto, spelling := "T *(size_t)", result := .node 5, params := [.node 4] }]

/-- `size_t` is bound elsewhere. -/
def boundEntries : List BuiltinEntry :=
  [⟨⟨⟨"test.c", 3, 23⟩, "size_t", "TYPEDEF_DECL"⟩, "libc.size_t"⟩]

/-- Whether a type is the name of something bound elsewhere. -/
def CType.isExternal : CType → Bool
  | .named _ external _ => external
  | _ => false

section bound

open SourceUnit

theorem boundUnit_yields : boundUnit.yields boundEntries fun g _ => g.declarations.any fun d =>
    d.type?.any fun t => t.refs.any (fun _ => true) && t.parts.any CType.isExternal := by
  decide +kernel

/-- The type of `f` refers to `T`, and has `size_t` under its external name. -/
theorem bound_typedef_named_externally : boundUnit.KeepsKinds ∧ ∃ g l t i d,
    boundUnit.extract boundEntries = (.ok g, l) ∧ g.Stores t ∧ i ∈ t.refs ∧
    l.registry.globals.get? i = some d ∧ d.isBuiltin = false ∧
    .named "libc.size_t" true none ∈ t.parts := by
  have kinds : boundUnit.KeepsKinds := by decide +kernel
  obtain ⟨g, l, h, hp⟩ := exists_of_yields boundUnit_yields
  obtain ⟨d, hd, hp⟩ := List.any_eq_true.1 hp
  obtain ⟨t, ht, hp⟩ := (Option.any_eq_true _ _).1 hp
  obtain ⟨hrefs, hparts⟩ := Bool.and_eq_true_iff.1 hp
  obtain ⟨i, hi, -⟩ := List.any_eq_true.1 hrefs
  obtain ⟨p, hpart, external⟩ := List.any_eq_true.1 hparts
  have stored : g.Stores t := ⟨d, hd, .inl ht⟩
  obtain ⟨resolved, own⟩ := (references_well_typed kinds h).2 t stored
  obtain ⟨d', hd', hown⟩ := own i hi
  refine ⟨kinds, g, l, t, i, d', h, stored, hi, hd', hown, ?_⟩
  cases p with
  | named name ext ref =>
    cases external
    cases ref with
    | some => cases (resolved _ hpart).1
    | none =>
      obtain ⟨-, e, he, rfl⟩ := resolved _ hpart
      rw [List.mem_singleton.1 he] at hpart
      exact hpart
  | _ => cases external

end bound

end DeclAtlas
