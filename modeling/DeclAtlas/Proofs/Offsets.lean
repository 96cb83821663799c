import DeclAtlas.Proofs.Contributed
import Mathlib.Algebra.Ring.Int.Defs
import Mathlib.Data.List.Pairwise
import Mathlib.Data.List.Perm.Subperm

/-! Offsets of unnamed members. The front end answers where a name stands in a record, and a name
is visible there directly or through unnamed structs and unions that no field consumes. The offset
of such a member is found through a name that the record and the member both know; the names that
are tried include those of consumed records, but whichever name is known to both gives the same
answer. So the offsets on the way down to a field add up. -/

namespace DeclAtlas

namespace SourceUnit

/-- A type names a declaration, directly or through pointers and arrays. Other spellings of a type
are looked through, and so are typedefs that the compiler provides. -/
inductive Designates (u : SourceUnit) : TypeId → CursorId → Prop where
  | declared {t} : Designates u t (u.typeNode t).decl
  | provided {t d} (kind : u.kind (u.typeNode t).decl = .typedefDecl)
      (implicit : u.isImplicit (u.canonical (u.typeNode t).decl) = true)
      (rest : Designates u (u.cursor (u.typeNode t).decl).underlying d) : Designates u t d
  | named {t d} (kind : u.typeKind t = .elaborated) (rest : Designates u (u.typeNode t).named d) :
      Designates u t d
  | canonical {t d} (kind : u.typeKind t = .unexposed)
      (rest : Designates u (u.canonicalType t) d) : Designates u t d
  | element {t d} (kind : u.typeKind t ∈ [TypeKind.constantArray, .incompleteArray, .variableArray,
      .dependentSizedArray]) (rest : Designates u (u.typeNode t).element d) : Designates u t d
  | pointee {t d} (kind : u.typeKind t = .pointer) (rest : Designates u (u.pointerTarget t) d) :
      Designates u t d

/-- The first child that counts after a definition is a field whose type names it. -/
def Consumed (u : SourceUnit) (k : CursorId) (after : List CursorId) : Prop :=
  ∃ f d, u.nextCounting after = some f ∧ u.kind f = .fieldDecl ∧ (u.cursor f).bitWidth = none ∧
    u.Designates (u.cursor f).type d ∧ u.canonical d = u.canonical k

/-- A struct or union without a name, defined in `r`, that no field consumes. -/
structure AnonymousMember (u : SourceUnit) (r k : CursorId) : Prop where
  record : (u.kind k).isRecord = true
  unnamed : u.isAnonymous k = true
  self : u.definition? k = some k
  free : ∃ before after, u.children r = before ++ k :: after ∧ ¬u.Consumed k after

/-- A named field is visible in a record through unnamed members, each inside the one before. -/
inductive Visible (u : SourceUnit) : CursorId → List CursorId → CursorId → Prop where
  | here {r f} (child : f ∈ u.children r) (kind : u.kind f = .fieldDecl)
      (named : u.fieldSpelling f ≠ "") : Visible u r [] f
  | into {r k path f} (member : u.AnonymousMember r k) (rest : Visible u k path f) :
      Visible u r (k :: path) f

/-- The bit offset of a field in a record, given that of every child in the record around it. -/
def distance (layout : CursorId → CursorId → Nat) : CursorId → List CursorId → CursorId → Nat
  | r, [], f => layout r f
  | r, k :: path, f => layout r k + distance layout k path f

/-- The front end knows the layout of a record: it answers with the offset of every visible name,
and with a negative number for any other. -/
structure Answers (u : SourceUnit) (layout : CursorId → CursorId → Nat) (r : CursorId) : Prop where
  visible : ∀ {path f}, u.Visible r path f →
    u.offsetOf r (u.fieldSpelling f) = distance layout r path f
  hidden : ∀ {name}, (∀ path f, u.Visible r path f → u.fieldSpelling f ≠ name) →
    u.offsetOf r name < 0

section designation

variable {u : SourceUnit} {r : Registry} {conv : TypeId → CursorId → Option CType} {n : Nat}
  {t : TypeId} {c d : CursorId}

/-- The record or enum that a meaning names is registered for a declaration that the type names. -/
def NamedBy (u : SourceUnit) (r : Registry) (t : TypeId) (m : CType) : Prop :=
  ∀ {ref}, m.inner? = some ref → ∃ d g, u.Designates t d ∧ r.globalOf? u d = some g ∧ g.id = ref.id

theorem namedBy_of_inner?_eq_none {m : CType} (h : m.inner? = none) : u.NamedBy r t m := by
  intro ref hm
  rw [h] at hm
  cases hm

theorem inner?_reference {g : Global} {ref : TagRef} (own : g.isBuiltin = false)
    (h : g.reference.inner? = some ref) : g.id = ref.id := by
  obtain ⟨name, form⟩ := g
  cases form with
  | builtin => cases own
  | _ => cases h <;> rfl

theorem namedBy_declaredMeaning (hs : r.Sound u)
    (hc : ∀ t c, u.kind c ≠ .varDecl → Ensures (u.NamedBy r t) (conv t c)) (t : TypeId) :
    Ensures (u.NamedBy r t) (u.declaredMeaning (r.link? u) conv (u.typeNode t).decl) := by
  refine .ite (fun _ => .some (namedBy_of_inner?_eq_none rfl)) fun _ => ?_
  intro m hm
  obtain ⟨k, hk, hm⟩ := Option.bind_eq_some_iff.1 hm
  obtain ⟨g, known, rfl⟩ := Option.map_eq_some_iff.1 hk
  change (if g.isBuiltin then some g.reference else _) = some m at hm
  split at hm
  · rename_i bound
    obtain ⟨external, form⟩ := Form.exists_of_isBuiltin bound
    obtain ⟨name, -, rfl⟩ := hs.external_of_builtin known form
    cases hm
    exact namedBy_of_inner?_eq_none (by simp [Global.reference, form, CType.inner?])
  · rename_i own
    split at hm
    · rename_i provided
      rw [Bool.and_eq_true, decide_eq_true_iff] at provided
      intro ref inner
      have other : u.kind (u.typeNode t).decl ≠ .varDecl := by rw [provided.1]; decide
      obtain ⟨d, g', designates, found⟩ := hc _ _ other m hm inner
      exact ⟨d, g', .provided provided.1 provided.2 designates, found⟩
    · cases hm
      exact fun inner => ⟨_, g, .declared, known, inner?_reference (by simpa using own) inner⟩

theorem NamedBy.pointer {m : CType} {isConst : Bool} (kind : u.typeKind t = .pointer)
    (h : u.NamedBy r (u.pointerTarget t) m) : u.NamedBy r t (.pointer m isConst) := by
  intro ref inner
  obtain ⟨d, g, designates, found⟩ := h inner
  exact ⟨d, g, .pointee kind designates, found⟩

theorem namedBy_pointerMeaning (hs : r.Sound u)
    (hc : ∀ t c, u.kind c ≠ .varDecl → Ensures (u.NamedBy r t) (conv t c))
    (kind : u.typeKind t = .pointer) (other : u.kind c ≠ .varDecl) :
    Ensures (u.NamedBy r t) (u.pointerMeaning (r.link? u) conv t c) := by
  refine .ite (fun _ => ?_) fun _ => .ite (fun _ => ?_) fun _ => .ite (fun _ => ?_) fun _ =>
    .ite (fun _ => ?_) fun _ => .ite (fun h => ?_) fun _ => ?_
  · exact .map (hc _ c other) (.pointer kind)
  · exact .map (P := fun _ => True) (fun _ _ => trivial) fun _ => namedBy_of_inner?_eq_none rfl
  · exact .some (namedBy_of_inner?_eq_none rfl)
  · exact .map (namedBy_declaredMeaning hs hc _) (.pointer kind)
  · exact absurd (by simpa using And.left (by simpa using h)) other
  · exact .some (namedBy_of_inner?_eq_none rfl)

theorem namedBy_typeMeaning (hs : r.Sound u)
    (hc : ∀ t c, u.kind c ≠ .varDecl → Ensures (u.NamedBy r t) (conv t c))
    (other : u.kind c ≠ .varDecl) (t : TypeId) :
    Ensures (u.NamedBy r t) (u.typeMeaning (r.link? u) conv t c) := by
  have plain {α : Type} {x : Option α} {f : α → CType} (h : ∀ a, (f a).inner? = none) :
      Ensures (u.NamedBy r t) (x.map f) :=
    .map (P := fun _ => True) (fun _ _ => trivial) fun _ => namedBy_of_inner?_eq_none (h _)
  have array {size : Int} (kind : u.typeKind t ∈ [TypeKind.constantArray, .incompleteArray,
      .variableArray, .dependentSizedArray]) :
      Ensures (u.NamedBy r t) ((conv (u.typeNode t).element c).map fun m => .array m size) := by
    refine .map (hc _ c other) fun h ref inner => ?_
    obtain ⟨d, g, designates, found⟩ := h inner
    exact ⟨d, g, .element kind designates, found⟩
  have through {t' : TypeId} (h : ∀ {d}, u.Designates t' d → u.Designates t d) :
      Ensures (u.NamedBy r t) (conv t' c) := by
    intro m hm ref inner
    obtain ⟨d, g, designates, found⟩ := hc t' c other m hm inner
    exact ⟨d, g, h designates, found⟩
  unfold typeMeaning
  dsimp only
  split
  case h_1 | h_2 | h_3 => exact .some (namedBy_of_inner?_eq_none rfl)
  case h_4 => exact plain fun _ => rfl
  case h_5 kind => exact namedBy_pointerMeaning hs hc kind other
  case h_6 kind | h_7 kind | h_8 kind | h_9 kind => exact array (by simp [typeKind, kind])
  case h_10 | h_11 => exact plain fun _ => rfl
  case h_12 kind => exact through (.named kind)
  case h_13 | h_14 | h_15 => exact namedBy_declaredMeaning hs hc t
  case h_16 kind =>
    exact .ite (fun _ => namedBy_declaredMeaning hs hc t) fun _ =>
      .ite (fun _ => through (.canonical kind)) fun _ => .some (namedBy_of_inner?_eq_none rfl)
  case h_17 | h_18 | h_19 => exact fun _ h => by cases h
  all_goals exact plain fun _ => rfl

theorem namedBy_meaningWithin (hs : r.Sound u) (n : Nat) (other : u.kind c ≠ .varDecl) :
    Ensures (u.NamedBy r t) (u.meaningWithin (r.link? u) n t c) := by
  induction n generalizing t c with
  | zero => exact fun _ h => by cases h
  | succ n ih => exact namedBy_typeMeaning hs (fun _ _ other => ih other) other t

theorem consumed_of_taken {k : CursorId} {g : Global} {after : List CursorId} (hs : r.Sound u)
    (known : r.globalOf? u k = some g) (h : u.Taken r g.id after) : u.Consumed k after := by
  obtain ⟨f, next, kind, plain, m, ref, ⟨n, meaning⟩, inner, same⟩ := h
  obtain ⟨d, g', designates, found, id⟩ :=
    namedBy_meaningWithin hs n (by rw [kind]; decide) m meaning inner
  have idd := (hs.globalOf?_eq_some.1 found).1
  rw [id, same] at idd
  exact ⟨f, d, next, kind, plain, designates,
    hs.canonical_eq idd (hs.globalOf?_eq_some.1 known).1⟩

end designation

section lookups

variable {u : SourceUnit} {layout : CursorId → CursorId → Nat} {r k f : CursorId}
  {path : List CursorId} {name : String} {n : Nat}

theorem AnonymousMember.child (h : u.AnonymousMember r k) : k ∈ u.children r := by
  obtain ⟨before, after, children, -⟩ := h.free
  simp [children]

theorem Visible.mem_visibleNames (h : u.Visible r path f) (short : path.length < n) :
    some (u.fieldSpelling f) ∈ u.visibleNames n r := by
  induction h generalizing n with
  | here child kind named =>
    obtain ⟨n, rfl⟩ : ∃ m, n = m + 1 := ⟨n - 1, by omega⟩
    rw [mem_visibleNames_succ]
    exact ⟨_, child, .inl ⟨kind, named, rfl⟩⟩
  | into member _ ih =>
    obtain ⟨n, rfl⟩ : ∃ m, n = m + 1 := ⟨n - 1, by omega⟩
    rw [mem_visibleNames_succ]
    exact ⟨_, member.child, .inr ⟨member.record, member.unnamed, ih (by simpa using short)⟩⟩

theorem Visible.from_mem (h : u.Visible r path f) (hk : k ∈ r :: path) :
    ∃ rest, u.Visible k rest f ∧ k :: rest <:+ r :: path := by
  induction h with
  | here child kind named =>
    obtain rfl := List.mem_singleton.1 hk
    exact ⟨[], .here child kind named, List.suffix_rfl⟩
  | into member later ih =>
    rcases List.mem_cons.1 hk with rfl | hk
    · exact ⟨_, .into member later, List.suffix_rfl⟩
    · obtain ⟨rest, visible, suffix⟩ := ih hk
      exact ⟨rest, visible, suffix.trans (List.suffix_cons ..)⟩

/-- A way that comes back to a record can leave the round trip out. -/
theorem Visible.exists_nodup (h : u.Visible r path f) :
    ∃ path, u.Visible r path f ∧ (r :: path).Nodup := by
  induction h with
  | here child kind named => exact ⟨[], .here child kind named, by simp⟩
  | @into r k path f member _ ih =>
    obtain ⟨path, visible, nodup⟩ := ih
    by_cases again : r ∈ k :: path
    · obtain ⟨rest, visible, suffix⟩ := visible.from_mem again
      exact ⟨rest, visible, nodup.sublist suffix.sublist⟩
    · exact ⟨k :: path, .into member visible, List.nodup_cons.2 ⟨again, nodup⟩⟩

theorem Visible.mem_cursorIds (h : u.Visible r path f) : ∀ k ∈ path, k ∈ u.cursorIds := by
  induction h with
  | here => nofun
  | into member _ ih =>
    refine List.forall_mem_cons.2 ⟨SourceUnit.mem_cursorIds ?_, ih⟩
    exact isFound_of_isTag (CursorKind.isTag_of_isRecord member.record)

theorem Visible.mem_memberNames (h : u.Visible r path f) :
    u.fieldSpelling f ∈ u.memberNames r := by
  obtain ⟨path, visible, nodup⟩ := h.exists_nodup
  have few := (List.subperm_of_subset nodup.of_cons visible.mem_cursorIds).length_le
  rw [cursorIds, List.length_map, List.length_range] at few
  exact List.mem_filterMap.2 ⟨_, visible.mem_visibleNames (by unfold depthBound; omega), rfl⟩

theorem Answers.nonneg (h : u.Answers layout r) (visible : u.Visible r path f) :
    0 ≤ u.offsetOf r (u.fieldSpelling f) := by
  rw [h.visible visible]
  omega

theorem Answers.exists_visible (h : u.Answers layout r) (known : 0 ≤ u.offsetOf r name) :
    ∃ path f, u.Visible r path f ∧ u.fieldSpelling f = name := by
  by_contra none
  have hidden := h.hidden fun path f visible same => none ⟨path, f, visible, same⟩
  omega

/-- A name that both a record and its member know stands in them as far apart as they do. -/
theorem Answers.offsetOf_eq (outer : u.Answers layout r) (inner : u.Answers layout k)
    (member : u.AnonymousMember r k) (known : 0 ≤ u.offsetOf k name) :
    u.offsetOf r name = layout r k + u.offsetOf k name := by
  obtain ⟨path, f, visible, rfl⟩ := inner.exists_visible known
  rw [inner.visible visible, outer.visible (.into member visible), distance]
  push_cast
  rfl

/-- The offset that is found for an unnamed member with a visible name is its true one. -/
theorem anonymousOffset_eq (outer : u.Answers layout r) (inner : u.Answers layout k)
    (member : u.AnonymousMember r k) (visible : u.Visible k path f) :
    u.anonymousOffset r k = layout r k := by
  unfold anonymousOffset
  split
  · -- Whichever name the search stops at, the member knows it, so it is visible there.
    rename_i name found
    have known := List.find?_some found
    rw [isShared, Bool.and_eq_true, decide_eq_true_iff, decide_eq_true_iff] at known
    rw [outer.offsetOf_eq inner member known.2]
    omega
  · rename_i none
    have tried := List.find?_eq_none.1 none _ visible.mem_memberNames
    simp [isShared, outer.nonneg (.into member visible), inner.nonneg visible] at tried

/-- The offsets found for members inside one another, from the outermost record on. -/
def memberOffsets (u : SourceUnit) (r : CursorId) (path : List CursorId) : List Int :=
  ((r :: path).zip path).map fun link => u.anonymousOffset link.1 link.2

theorem sum_memberOffsets (visible : u.Visible r path f)
    (answers : ∀ q ∈ r :: path, u.Answers layout q) :
    (u.memberOffsets r path).sum + u.offsetOf (path.getLastD r) (u.fieldSpelling f) =
      u.offsetOf r (u.fieldSpelling f) := by
  induction visible with
  | here => simp [memberOffsets]
  | @into r k path f member rest ih =>
    have outer := answers r (List.mem_cons_self ..)
    have later := fun q hq => answers q (List.mem_cons_of_mem r hq)
    have inner := later k (List.mem_cons_self ..)
    calc (u.memberOffsets r (k :: path)).sum +
          u.offsetOf ((k :: path).getLastD r) (u.fieldSpelling f)
        = u.anonymousOffset r k + ((u.memberOffsets k path).sum +
            u.offsetOf (path.getLastD k) (u.fieldSpelling f)) := by
          rw [List.getLastD_cons, ← Int.add_assoc]
          rfl
      _ = layout r k + u.offsetOf k (u.fieldSpelling f) := by
          rw [ih later, anonymousOffset_eq outer inner member rest]
      _ = u.offsetOf r (u.fieldSpelling f) :=
          (outer.offsetOf_eq inner member (inner.nonneg rest)).symm

end lookups

end SourceUnit

namespace Gathering

open SourceUnit

variable {u : SourceUnit} {parent : CursorId} {acc acc' : Gathering} {r : Recursion} {n : Nat}
  {l l' m : Listing} {rest before after : List CursorId}

theorem gather_append (acc : Gathering) (before after : List CursorId) :
    gather u r parent acc (before ++ after) =
      gather u r parent acc before >>= fun acc => gather u r parent acc after := by
  induction before generalizing acc with
  | nil => rfl
  | cons c rest ih =>
    rw [List.cons_append, gather, gather]
    cases u.kind c <;> simp only [ih, bind_assoc]

theorem members_lead (hr : r.Faithful u n) (hs : l.Sound u)
    (run : gather u r parent acc rest l = (.ok acc', l')) : acc.members <+: acc'.members := by
  induction rest generalizing acc l with
  | nil =>
    cases run
    exact List.prefix_rfl
  | cons c rest ih =>
    obtain ⟨acc₁, l₁, later, ⟨-, step⟩ | ⟨tag, step⟩ | ⟨-, rfl, rfl⟩⟩ := gather_cons_ok run
    · obtain ⟨proceeds, t, -, -, given⟩ := addField_ok hr hs step
      refine .trans ?_ (ih proceeds.sound later)
      rcases given with ⟨_, -, rfl⟩ | ⟨-, rfl⟩ <;> simp
    · obtain ⟨proceeds, kept, -⟩ := addNested_ok hr hs tag step
      refine .trans ?_ (ih proceeds.sound later)
      simp [kept]
    · exact ih hs later

theorem settled_leads (hr : r.Faithful u n) (hs : l.Sound u)
    (run : gather u r parent acc rest l = (.ok acc', l'))
    (free : ∀ g d, acc.pending = some (g, d) → ¬u.Taken l'.registry g.id rest) :
    acc.members ++ settled u parent acc.pending <+:
      acc'.members ++ settled u parent acc'.pending := by
  induction rest generalizing acc l with
  | nil =>
    cases run
    exact List.prefix_rfl
  | cons c rest ih =>
    have flushed := List.prefix_append acc'.members (settled u parent acc'.pending)
    obtain ⟨acc₁, l₁, later, ⟨kind, step⟩ | ⟨tag, step⟩ | ⟨passed, rfl, rfl⟩⟩ := gather_cons_ok run
    · obtain ⟨proceeds, t, type, -, given⟩ := addField_ok hr hs step
      have grows := (proceeds_gather hr proceeds.sound later).succeeds.registry
      have gathered := (members_lead hr proceeds.sound later).trans flushed
      refine .trans ?_ gathered
      rcases given with ⟨_, -, rfl⟩ | ⟨plain, rfl⟩
      · simp
      · rw [(settles_field kind plain (type.grows grows)).free free]
        simp
    · obtain ⟨proceeds, kept, -⟩ := addNested_ok hr hs tag step
      rw [← kept]
      exact (members_lead hr proceeds.sound later).trans flushed
    · exact ih hs later fun g d hp taken => free g d hp ((taken_pass passed).2 taken)

theorem mem_members_of_not_taken {k : CursorId} {g : Global} (hr : r.Faithful u n) (hs : l.Sound u)
    (run : gather u r parent acc (k :: after) l = (.ok acc', l'))
    (record : u.UnnamedRecord l'.registry k g) (composite : g.form.isComposite = true)
    (free : ¬u.Taken l'.registry g.id after) :
    .field "" (.composite g.id) (u.anonymousOffset parent k) (some g.id) ∈
      acc'.members ++ settled u parent acc'.pending := by
  have tag := CursorKind.isTag_of_isRecord record.record
  obtain ⟨acc₁, l₁, later, ⟨kind, -⟩ | ⟨-, step⟩ | ⟨passed, -⟩⟩ := gather_cons_ok run
  · exact absurd kind (kind_ne_field_of_isTag tag)
  · obtain ⟨proceeds, -, leaves⟩ := addNested_ok hr hs tag step
    have grows := (proceeds_gather hr proceeds.sound later).succeeds.registry
    rcases leaves with ⟨-, bound⟩ | ⟨g₁, waiting, -, known₁, -⟩
    · obtain ⟨g₁, known₁, builtin⟩ := bound (definesTag_eq_true.2 ⟨tag, record.self⟩)
      obtain ⟨g₂, known₂, outline⟩ := grows.globalOf? known₁
      cases record.known.symm.trans known₂
      have own := record.own
      rw [Global.isBuiltin_of_outline outline, builtin] at own
      cases own
    · obtain ⟨g₂, known₂, outline⟩ := grows.globalOf? known₁
      cases record.known.symm.trans known₂
      have id := Global.id_of_outline outline
      have form := Form.isComposite_of_outline (Global.outline_eq.1 outline).2
      have settles := settled_leads hr proceeds.sound later fun g' d hp taken => by
        rw [waiting] at hp
        cases hp
        exact free (id ▸ taken)
      apply settles.subset
      simp [settled, waiting, record.unnamed, ← form, composite, id]
  · rw [counts_of_isTag tag] at passed
    cases passed

end Gathering

namespace SourceUnit

variable {u : SourceUnit} {b : List BuiltinEntry} {n : Nat} {l l' : Listing} {ms : List Member}
  {r k : CursorId}

theorem AnonymousMember.mem_members (member : u.AnonymousMember r k)
    (reached : Passes u (.ofBuiltins (.ofEntries b)) l)
    (run : visitMembers u (u.recursionWithin n) r l = (.ok ms, l')) :
    ∃ g, l'.registry.globalOf? u k = some g ∧ (g.form.isComposite = true →
      .field "" (.composite g.id) (u.anonymousOffset r k) (some g.id) ∈ ms) := by
  have hr := u.recursionWithin_faithful n
  have hs := (reached.grounded (Listing.grounded_start u b)).1.sound
  obtain ⟨visit, gathered⟩ := (runs_visitMembers hr hs r).ok run
  have hs' := (visit.proceeds hs).sound
  obtain ⟨g, known, -⟩ := gathered.nested k member.child
    (CursorKind.isTag_of_isRecord member.record) member.self
  refine ⟨g, known, fun composite => ?_⟩
  have record : u.UnnamedRecord l'.registry k g :=
    { record := member.record
      self := member.self
      unnamed := by simp [declSpelling, member.unnamed]
      known
      own := Form.isBuiltin_of_isTag (Form.isTag_of_isComposite composite) }
  -- The children before `k` are gathered first, into whatever state they leave.
  obtain ⟨before, after, children, free⟩ := member.free
  obtain ⟨acc, gathering, rfl⟩ := Gathering.visitMembers_ok run
  rw [children, Gathering.gather_append] at gathering
  obtain ⟨acc₁, l₁, earlier, later⟩ := Step.bind_eq_ok gathering
  have hs₁ := (Gathering.proceeds_gather hr hs earlier).sound
  exact Gathering.mem_members_of_not_taken hr hs₁ later record composite fun taken =>
    free (consumed_of_taken hs'.registry known taken)

/-- The definitions nested in a record have canonical cursors of their own, of their own kind. -/
structure SeparatelyDefined (u : SourceUnit) (r : CursorId) : Prop where
  distinct : ((u.children r).filter u.definesTag).Pairwise fun c d => u.canonical c ≠ u.canonical d
  ownKind : ∀ c ∈ u.children r, u.definesTag c = true → u.kind (u.canonical c) = u.kind c

theorem nodup_owned_of_visit (reached : Passes u (.ofBuiltins (.ofEntries b)) l)
    (run : visitMembers u (u.recursionWithin n) r l = (.ok ms, l'))
    (apart : u.SeparatelyDefined r) : (ms.filterMap Member.owns?).Nodup := by
  have hr := u.recursionWithin_faithful n
  have hs := (reached.grounded (Listing.grounded_start u b)).1.sound
  obtain ⟨parts, rfl, accounts⟩ := Gathering.visitMembers_accounts hr hs run apart.ownKind
  have hs' := (((runs_visitMembers hr hs r).ok run).1.proceeds hs).sound
  exact accounts.nodup_owned hs'.registry apart.distinct

theorem eq_of_owns?_eq {m m' : Member} {i : Int} (nodup : (ms.filterMap Member.owns?).Nodup)
    (hm : m ∈ ms) (hm' : m' ∈ ms) (owns : m.owns? = some i) (owns' : m'.owns? = some i) :
    m = m' := by
  have agree : ms.Pairwise fun m m' => m.owns? = some i → m'.owns? = some i → m = m' :=
    (List.pairwise_filterMap.1 nodup).imp fun apart owns owns' => absurd rfl (apart i owns i owns')
  have symm : Std.Symm fun m m' : Member => m.owns? = some i → m'.owns? = some i → m = m' :=
    ⟨fun _ _ same owns owns' => (same owns' owns).symm⟩
  exact agree.forall_of_forall (fun _ _ _ _ => rfl) hm hm' owns owns'

/-- Every visit of `r` that returns gives an unnamed member for `k` at an offset, unless `k` is
bound to a builtin or else registered as no record. No other member owns `k` if the nested
definitions are separate. -/
def RecordsAt (u : SourceUnit) (r k : CursorId) (offset : Int) : Prop :=
  ∀ {b n l ms l'}, Passes u (.ofBuiltins (.ofEntries b)) l →
    visitMembers u (u.recursionWithin n) r l = (.ok ms, l') →
    ∃ g, l'.registry.globalOf? u k = some g ∧ (g.form.isComposite = true →
      .field "" (.composite g.id) offset (some g.id) ∈ ms ∧
      (u.SeparatelyDefined r → ∀ m ∈ ms, m.owns? = some g.id →
        m = .field "" (.composite g.id) offset (some g.id)))

theorem AnonymousMember.recordsAt (member : u.AnonymousMember r k) :
    u.RecordsAt r k (u.anonymousOffset r k) := by
  intro b n l ms l' reached run
  obtain ⟨g, known, recorded⟩ := member.mem_members reached run
  refine ⟨g, known, fun composite => ⟨recorded composite, fun apart m hm owns => ?_⟩⟩
  exact eq_of_owns?_eq (nodup_owned_of_visit reached run apart) hm (recorded composite) owns rfl

/-- A visible field is in the last record of a way on which each record is an unnamed member of the
one before. -/
theorem visible_iff {path : List CursorId} {f : CursorId} : u.Visible r path f ↔
    (∀ link ∈ (r :: path).zip path, u.AnonymousMember link.1 link.2) ∧
      f ∈ u.children (path.getLastD r) ∧ u.kind f = .fieldDecl ∧ u.fieldSpelling f ≠ "" := by
  induction path generalizing r with
  | nil =>
    constructor
    · rintro (⟨child, kind, named⟩ | _)
      exact ⟨nofun, child, kind, named⟩
    · rintro ⟨-, child, kind, named⟩
      exact .here child kind named
  | cons k path ih =>
    rw [List.zip_cons_cons, List.forall_mem_cons, List.getLastD_cons, and_assoc, ← ih]
    constructor
    · rintro (_ | ⟨member, rest⟩)
      exact ⟨member, rest⟩
    · rintro ⟨member, rest⟩
      exact .into member rest

end SourceUnit

/-- What is recorded for unnamed members inside one another, down to the record with the field `f`,
and the offset of `f` there add up to its offset in the outermost record. -/
theorem anonymous_offsets_add_up {u : SourceUnit} {layout : CursorId → CursorId → Nat}
    {r f : CursorId} {path : List CursorId} (visible : u.Visible r path f)
    (answers : ∀ q ∈ r :: path, u.Answers layout q) :
    List.Forall₂ (fun link offset => u.RecordsAt link.1 link.2 offset) ((r :: path).zip path)
      (u.memberOffsets r path) ∧
    (u.memberOffsets r path).sum + u.offsetOf (path.getLastD r) (u.fieldSpelling f) =
      u.offsetOf r (u.fieldSpelling f) := by
  refine ⟨?_, SourceUnit.sum_memberOffsets visible answers⟩
  rw [SourceUnit.memberOffsets, List.forall₂_map_right_iff, List.forall₂_same]
  exact fun link hl => ((SourceUnit.visible_iff.1 visible).1 link hl).recordsAt

/-- In `struct R` an unnamed struct holds a named field `n` of an unnamed struct with an `x`, and
after it an unnamed union with an `x` of its own. -/
def chainUnit : SourceUnit where
  spelling := "test.c"
  cursors := #[
    { kind := .other "TRANSLATION_UNIT", spelling := "test.c", children := [.node 1] },
    { kind := .structDecl, spelling := "R", file := some "test.c", line := 1, column := 8,
      definition := some (.node 1), type := .node 1, usr := "c:@S@R",
      children := [.node 2, .node 3] },
    { kind := .fieldDecl, spelling := "pad", file := some "test.c", line := 2, column := 7,
      type := .node 0, offset := 0 },
    { kind := .structDecl, file := some "test.c", line := 3, column := 3, anonymous := true,
      definition := some (.node 3), type := .node 2, usr := "c:@S@R@Sa",
      children := [.node 4, .node 6, .node 7, .node 10] },
    { kind := .structDecl, file := some "test.c", line := 4, column := 5, anonymous := true,
      definition := some (.node 4), type := .node 3, usr := "c:@S@R@Sa@Sa", children := [.node 5] },
    { kind := .fieldDecl, spelling := "x", file := some "test.c", line := 4, column := 18,
      type := .node 0, offset := 0 },
    { kind := .fieldDecl, spelling := "n", file := some "test.c", line := 4, column := 23,
      type := .node 3, offset := 0 },
    { kind := .unionDecl, file := some "test.c", line := 5, column := 5, anonymous := true,
      definition := some (.node 7), type := .node 4, usr := "c:@S@R@Sa@Ua",
      children := [.node 8, .node 9] },
    { kind := .fieldDecl, spelling := "x", file := some "test.c", line := 5, column := 17,
      type := .node 0, offset := 0 },
    { kind := .fieldDecl, spelling := "y", file := some "test.c", line := 5, column := 24,
      type := .node 0, offset := 0 },
    { kind := .fieldDecl, spelling := "z", file := some "test.c", line := 6, column := 9,
      type := .node 0, offset := 64 }]
  types := #[
    { kind := .int, spelling := "int" },
    { kind := .record, spelling := "struct R", decl := .node 1, size := 16, align := 4,
      offsets := [("pad", 0), ("n", 32), ("x", 64), ("y", 64), ("z", 96)] },
    { kind := .record, spelling := "struct R::(unnamed)", decl := .node 3, size := 12, align := 4,
      offsets := [("n", 0), ("x", 32), ("y", 32), ("z", 64)] },
    { kind := .record, spelling := "struct R::(unnamed)", decl := .node 4, size := 4, align := 4,
      offsets := [("x", 0)] },
    { kind := .record, spelling := "union R::(unnamed)", decl := .node 7, size := 4, align := 4,
      offsets := [("x", 0), ("y", 0)] }]

/-- The bit offsets of the children of `chainUnit`'s records. -/
def chainLayout : CursorId → CursorId → Nat
  | .node 1, .node 3 => 32
  | .node 3, .node 7 => 32
  | .node 3, .node 10 => 64
  | _, _ => 0

namespace SourceUnit

/-- A list of all that is visible in a record through known members, with a name for every answer,
is enough to see that the record is answered for. -/
theorem answers_of_listed {u : SourceUnit} {layout : CursorId → CursorId → Nat} {r : CursorId}
    {seen : List (List CursorId × CursorId)} {links : List (CursorId × CursorId)}
    (members : ∀ link ∈ links, u.AnonymousMember link.1 link.2)
    (complete : ∀ path f, u.Visible r path f → (path, f) ∈ seen)
    (listed : ∀ s ∈ seen, (∀ link ∈ (r :: s.1).zip s.1, link ∈ links) ∧
      s.2 ∈ u.children (s.1.getLastD r) ∧ u.kind s.2 = .fieldDecl ∧ u.fieldSpelling s.2 ≠ "")
    (right : ∀ s ∈ seen, u.offsetOf r (u.fieldSpelling s.2) = distance layout r s.1 s.2)
    (only : ∀ x ∈ (u.typeNode (u.cursor r).type).offsets, ∃ s ∈ seen, u.fieldSpelling s.2 = x.1) :
    u.Answers layout r where
  visible {path f} h := right (path, f) (complete path f h)
  hidden {name} hidden := by
    have unknown : (u.typeNode (u.cursor r).type).offsets.lookup name = none := by
      refine List.lookup_eq_none_iff.2 fun x hx => ?_
      obtain ⟨s, hs, spelled⟩ := only x hx
      obtain ⟨inside, ends⟩ := listed s hs
      have visible := visible_iff.2 ⟨fun link hl => members link (inside link hl), ends⟩
      exact bne_iff_ne.2 fun same => hidden _ _ visible (spelled.trans same.symm)
    rw [offsetOf, unknown, Option.getD_none]
    decide

theorem Visible.cases_of_children {u : SourceUnit} {r f : CursorId} {path : List CursorId}
    (visible : u.Visible r path f) (fields members : List CursorId)
    (isField : ∀ c ∈ u.children r, u.kind c = .fieldDecl → c ∈ fields)
    (isMember : ∀ c ∈ u.children r, (u.kind c).isRecord = true → c ∈ members) :
    path = [] ∧ f ∈ fields ∨ ∃ k rest, k ∈ members ∧ u.AnonymousMember r k ∧ path = k :: rest ∧
      u.Visible k rest f := by
  cases visible with
  | here child kind => exact .inl ⟨rfl, isField f child kind⟩
  | into member rest => exact .inr ⟨_, _, isMember _ member.child member.record, member, rfl, rest⟩

end SourceUnit

namespace chainUnit

open SourceUnit

variable {path : List CursorId} {f k : CursorId}

theorem outer_member : chainUnit.AnonymousMember (.node 1) (.node 3) where
  record := rfl
  unnamed := by decide +kernel
  self := by decide +kernel
  free := ⟨[.node 2], [], rfl, fun ⟨_, _, next, _⟩ => by cases next⟩

theorem inner_member : chainUnit.AnonymousMember (.node 3) (.node 7) where
  record := rfl
  unnamed := by decide +kernel
  self := by decide +kernel
  free := by
    refine ⟨[.node 4, .node 6], [.node 10], rfl, ?_⟩
    rintro ⟨f, d, next, -, -, designates, same⟩
    cases next
    cases designates with
    | declared => revert same; decide +kernel
    | provided kind | named kind | canonical kind | pointee kind => cases kind
    | element kind => revert kind; decide +kernel

theorem not_member : ¬chainUnit.AnonymousMember (.node 3) (.node 4) := by
  intro member
  obtain ⟨before, after, children, free⟩ := member.free
  cases before with
  | nil =>
    cases children
    exact free ⟨.node 6, .node 4, rfl, rfl, rfl, .declared, rfl⟩
  | cons first before =>
    have again : CursorId.node 4 ∈ [CursorId.node 6, .node 7, .node 10] := by
      rw [(List.cons.inj children).2]
      simp
    revert again
    decide

theorem mem_of_visible_union (h : chainUnit.Visible (.node 7) path f) :
    (path, f) ∈ [([], CursorId.node 8), ([], .node 9)] := by
  obtain ⟨rfl, field⟩ | ⟨k, rest, record, -⟩ :=
    h.cases_of_children [.node 8, .node 9] [] (by decide +kernel) (by decide +kernel)
  · simpa using field
  · cases record

theorem mem_of_visible_inner (h : chainUnit.Visible (.node 3) path f) :
    (path, f) ∈ [([], CursorId.node 6), ([], .node 10), ([.node 7], .node 8),
      ([.node 7], .node 9)] := by
  obtain ⟨rfl, field⟩ | ⟨k, rest, record, member, rfl, visible⟩ := h.cases_of_children
    [.node 6, .node 10] [.node 4, .node 7] (by decide +kernel) (by decide +kernel)
  · simpa using field
  · rcases List.mem_pair.1 record with rfl | rfl
    · exact absurd member not_member
    · simpa using mem_of_visible_union visible

theorem mem_of_visible_outer (h : chainUnit.Visible (.node 1) path f) :
    (path, f) ∈ [([], CursorId.node 2), ([.node 3], .node 6), ([.node 3], .node 10),
      ([.node 3, .node 7], .node 8), ([.node 3, .node 7], .node 9)] := by
  obtain ⟨rfl, field⟩ | ⟨k, rest, record, member, rfl, visible⟩ := h.cases_of_children
    [.node 2] [.node 3] (by decide +kernel) (by decide +kernel)
  · simpa using field
  · cases List.mem_singleton.1 record
    simpa using mem_of_visible_inner visible

theorem answers : ∀ q ∈ [CursorId.node 1, .node 3, .node 7], chainUnit.Answers chainLayout q := by
  have members : ∀ link ∈ [(CursorId.node 1, CursorId.node 3), (.node 3, .node 7)],
      chainUnit.AnonymousMember link.1 link.2 := by simp [outer_member, inner_member]
  have outer : chainUnit.Answers chainLayout (.node 1) :=
    answers_of_listed members (fun _ _ => mem_of_visible_outer) (by decide +kernel)
      (by decide +kernel) (by decide +kernel)
  have inner : chainUnit.Answers chainLayout (.node 3) :=
    answers_of_listed members (fun _ _ => mem_of_visible_inner) (by decide +kernel)
      (by decide +kernel) (by decide +kernel)
  have union : chainUnit.Answers chainLayout (.node 7) :=
    answers_of_listed members (fun _ _ => mem_of_visible_union) (by decide +kernel)
      (by decide +kernel) (by decide +kernel)
  simp [outer, inner, union]

theorem exists_recorded {r k : CursorId} {offset : Int} (recorded : chainUnit.RecordsAt r k offset)
    (apart : chainUnit.SeparatelyDefined r)
    (given : Step.gives (do
      let _ ← visitMembers chainUnit chainUnit.recursion r
      Step.read fun l : Listing =>
        (l.registry.globalOf? chainUnit k).any fun g => g.form.isComposite)
      (.ofBuiltins (.ofEntries [])) id = true) :
    ∃ ms l g, visitMembers chainUnit chainUnit.recursion r (.ofBuiltins (.ofEntries [])) =
        (.ok ms, l) ∧ l.registry.globalOf? chainUnit k = some g ∧
      .field "" (.composite g.id) offset (some g.id) ∈ ms ∧
      ∀ m ∈ ms, m.owns? = some g.id → m = .field "" (.composite g.id) offset (some g.id) := by
  obtain ⟨found, l, ran, composite⟩ := Step.exists_of_gives given
  obtain ⟨ms, l₁, run, rest⟩ := Step.bind_eq_ok ran
  cases rest
  obtain ⟨g, known, records⟩ := recorded .here run
  change (l.registry.globalOf? chainUnit k).any _ = true at composite
  rw [known, Option.any_some] at composite
  obtain ⟨mem, once⟩ := records composite
  exact ⟨ms, l, g, run, known, mem, once apart⟩

end chainUnit

/-- For the unnamed struct in `R` the name tried first is the `x` of the struct that `n` consumes.
Both records know that name, by the `x` of the union, and the offsets add up. -/
theorem chained_union_adds_up :
    chainUnit.Visible (.node 1) [.node 3, .node 7] (.node 8) ∧
    (∀ q ∈ [CursorId.node 1, .node 3, .node 7], chainUnit.Answers chainLayout q) ∧
    (∀ link ∈ [(CursorId.node 1, CursorId.node 3), (.node 3, .node 7)], ∃ ms l g,
      visitMembers chainUnit chainUnit.recursion link.1 (.ofBuiltins (.ofEntries [])) =
        (.ok ms, l) ∧ l.registry.globalOf? chainUnit link.2 = some g ∧
      .field "" (.composite g.id) 32 (some g.id) ∈ ms ∧
      ∀ m ∈ ms, m.owns? = some g.id → m = .field "" (.composite g.id) 32 (some g.id)) ∧
    32 + 32 + chainUnit.offsetOf (.node 7) "x" = chainUnit.offsetOf (.node 1) "x" := by
  have field : chainUnit.Visible (.node 7) [] (.node 8) :=
    .here (by decide +kernel) (by decide +kernel) (by decide +kernel)
  have below := SourceUnit.Visible.into chainUnit.inner_member field
  have visible := SourceUnit.Visible.into chainUnit.outer_member below
  have outer : chainUnit.anonymousOffset (.node 1) (.node 3) = 32 :=
    SourceUnit.anonymousOffset_eq (chainUnit.answers _ (by simp)) (chainUnit.answers _ (by simp))
      chainUnit.outer_member below
  have inner : chainUnit.anonymousOffset (.node 3) (.node 7) = 32 :=
    SourceUnit.anonymousOffset_eq (chainUnit.answers _ (by simp)) (chainUnit.answers _ (by simp))
      chainUnit.inner_member field
  have spelled : chainUnit.fieldSpelling (.node 8) = "x" := by decide +kernel
  have offsets : chainUnit.memberOffsets (.node 1) [.node 3, .node 7] = [32, 32] := by
    simp [SourceUnit.memberOffsets, outer, inner]
  obtain ⟨recorded, sum⟩ := anonymous_offsets_add_up visible chainUnit.answers
  rw [offsets] at recorded sum
  obtain ⟨outerAt, below⟩ := List.forall₂_cons.1 recorded
  obtain ⟨innerAt, -⟩ := List.forall₂_cons.1 below
  refine ⟨visible, chainUnit.answers, ?_, ?_⟩
  · refine List.forall_mem_cons.2 ⟨?_, List.forall_mem_singleton.2 ?_⟩
    · exact chainUnit.exists_recorded outerAt ⟨by decide +kernel, by decide +kernel⟩
        (by decide +kernel)
    · exact chainUnit.exists_recorded innerAt ⟨by decide +kernel, by decide +kernel⟩
        (by decide +kernel)
  · rw [spelled] at sum
    exact sum

end DeclAtlas
