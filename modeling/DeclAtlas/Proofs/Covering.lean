import DeclAtlas.Proofs.Coherence

/-! What a listing keeps track of. A listed record has its text taken care of: every field has a
meaning whose references are answered for, and every definition nested in it has been visited. The
members on record come from that text, and nothing leaves the list without a trace. -/

namespace DeclAtlas

theorem Form.isComposite_of_cursorKind? {f : Form} {k : CursorKind} (h : f.cursorKind? = some k) :
    f.isComposite = k.isRecord := by
  cases f with
  | composite _ kind _ => cases kind <;> cases h <;> rfl
  | builtin => cases h
  | _ => cases h; rfl

namespace SourceUnit

/-- A declaration of a type whose listing is left to the walk: a record or enum that the source
defines, or a typedef that it declares. -/
def InSource (u : SourceUnit) (d : CursorId) : Prop :=
  (u.kind d).isTag = true ∧ (∃ k, u.definition? d = some k ∧ u.isImplicit k = false) ∨
    u.kind d = .typedefDecl ∧ u.isImplicit (u.canonical d) = false

end SourceUnit

namespace Listing

open SourceUnit

variable {u : SourceUnit} {c : CursorId} {l l' : Listing} {g : Global} {i : Int}

/-- A reference that is answered for: the declaration is listed or skipped, or its definition is
being visited, or its listing is left to the walk. -/
def Owed (u : SourceUnit) (l : Listing) (i : Int) : Prop :=
  i ∈ l.order ∨ i ∈ l.registry.poisoned ∨ i ∈ l.defining ∨
    ∃ d g, l.registry.globalOf? u d = some g ∧ g.id = i ∧ g.isBuiltin = false ∧ u.InSource d

/-- What is listed or under way does not get lost. -/
structure Keeps (l l' : Listing) : Prop where
  registry : l.registry.Grows l'.registry
  listed : ∀ {id}, id ∈ l.order → id ∈ l'.order ∨ id ∈ l'.registry.poisoned
  underway : ∀ {id}, id ∈ l.defining → id ∈ l'.order ∨ id ∈ l'.registry.poisoned ∨ id ∈ l'.defining

/-- A record whose text is taken care of. -/
structure Covered (u : SourceUnit) (l : Listing) (k : CursorId) : Prop where
  fields : ∀ f ∈ u.children k, u.kind f = .fieldDecl →
    ∃ m, u.Denotes l.registry (u.cursor f).type f m ∧ ∀ i ∈ m.refs, l.Owed u i
  nested : ∀ j ∈ u.children k, (u.kind j).isTag = true → u.definition? j = some j →
    l.Answered u j

/-- Every listed record that has a definition is covered. -/
def Covering (u : SourceUnit) (l : Listing) : Prop :=
  ∀ id ∈ l.order, ∃ c, (u.isFound c = true ∨ u.Named c) ∧ l.registry.idOf? u c = some id ∧
    ((u.kind c).isRecord = true → ∀ k, u.definition? c = some k → l.Covered u k)

/-- Every member on record has the property `Q`, under the identity of its record. -/
def OnRecord (Q : Listing → Int → Member → Prop) (l : Listing) : Prop :=
  ∀ id ms, l.members.get? id = some ms → ∀ m ∈ ms, Q l id m

/-- Members on record come from the text of the record. -/
def Described (u : SourceUnit) : Listing → Prop :=
  OnRecord fun l id m => ∃ c, (u.kind c).isRecord = true ∧ u.definition? c = some c ∧
    l.registry.idOf? u c = some id ∧ l.Made u (u.children c) m

/-- What was listed once is listed still, or skipped, or incomplete. -/
def Traced (l : Listing) : Prop :=
  ∀ id ∈ l.added, id ∈ l.order ∨ id ∈ l.registry.poisoned ∨ id ∈ l.incomplete

theorem Owed.keeps (h : l.Owed u i) (hk : Keeps l l') : l'.Owed u i := by
  rcases h with h | h | h | ⟨d, g, hg, hi, hb, hd⟩
  · rcases hk.listed h with h | h
    · exact .inl h
    · exact .inr (.inl h)
  · exact .inr (.inl (hk.registry.poisoned h))
  · rcases hk.underway h with h | h | h
    · exact .inl h
    · exact .inr (.inl h)
    · exact .inr (.inr (.inl h))
  · obtain ⟨g', hg', ho⟩ := hk.registry.globalOf? hg
    exact .inr (.inr (.inr ⟨d, g', hg', (Global.id_of_outline ho).trans hi,
      (Global.isBuiltin_of_outline ho).trans hb, hd⟩))

theorem Covered.keeps (h : l.Covered u c) (hk : Keeps l l') : l'.Covered u c where
  fields f hf hfield := by
    obtain ⟨m, hm, ho⟩ := h.fields f hf hfield
    exact ⟨m, hm.grows hk.registry, fun i hi => (ho i hi).keeps hk⟩
  nested j hj ht hd := (h.nested j hj ht hd).kept hk.registry hk.listed

theorem Covering.keeps (h : l.Covering u) (hk : Keeps l l')
    (ho : ∀ {id}, id ∈ l'.order → id ∈ l.order) : l'.Covering u := by
  intro id hid
  obtain ⟨c, hc, hidc, hcov⟩ := h id (ho hid)
  exact ⟨c, hc, hk.registry.idOf? hidc, fun hr k hd => (hcov hr k hd).keeps hk⟩

theorem Covering.snoc {id : Int} (h : l.Covering u) (hk : Keeps l l')
    (ho : ∀ {i}, i ∈ l'.order → i ∈ l.order ∨ i = id) (hc : u.isFound c = true ∨ u.Named c)
    (hid : l'.registry.idOf? u c = some id)
    (hcov : (u.kind c).isRecord = true → ∀ k, u.definition? c = some k → l'.Covered u k) :
    l'.Covering u := by
  intro i hi
  rcases ho hi with hi | rfl
  · obtain ⟨c, hc, hidc, hcov⟩ := h i hi
    exact ⟨c, hc, hk.registry.idOf? hidc, fun hr k hd => (hcov hr k hd).keeps hk⟩
  · exact ⟨c, hc, hid, hcov⟩

theorem OnRecord.grows {Q : Listing → Int → Member → Prop} (h : l.OnRecord Q)
    (keeps : ∀ {id m}, Q l id m → Q l' id m) (hm : l'.members = l.members) : l'.OnRecord Q :=
  fun id ms hms m hmem => keeps (h id ms (hm ▸ hms) m hmem)

theorem Described.grows (h : l.Described u) (hm : l'.members = l.members)
    (grows : l.registry.Grows l'.registry) : l'.Described u := by
  refine OnRecord.grows h ?_ hm
  rintro id m ⟨c, hr, hd, hid, made⟩
  exact ⟨c, hr, hd, grows.idOf? hid, made.grows grows⟩

theorem enterIncomplete_members {d : CursorId} {id : Int} {ms : List Member}
    (h : (l.enterIncomplete u d g).members.get? id = some ms) :
    l.members.get? id = some ms ∨ ms = [] := by
  unfold enterIncomplete at h
  split at h
  · rw [add_members] at h
    change (l.members.insert g.id []).get? id = some ms at h
    rw [Table.get?_insert] at h
    split at h
    · cases h; exact .inr rfl
    · exact .inl h
  · rw [add_members] at h
    exact .inl h

theorem Traced.succeeds (h : l.Traced) (hs : Succeeds l l')
    (hi : ∀ {id}, id ∈ l.incomplete → id ∈ l'.incomplete) : l'.Traced := by
  intro id hid
  obtain ⟨new, ha, ho⟩ := hs.listings
  rw [ha] at hid
  rcases List.mem_append.1 hid with hid | hid
  · rcases h id hid with h | h | h
    · exact .inl (hs.mem_order h)
    · exact .inr (.inl (hs.registry.poisoned h))
    · exact .inr (.inr (hi h))
  · exact .inl (ho ▸ List.mem_append_right _ hid)

theorem Traced.poison (h : l.Traced) (id : Int) : (l.poison id).Traced :=
  fun i hi => (h i hi).imp_right (.imp_left (Registry.grows_poison _ id).poisoned)

theorem Traced.withdrawn {ids : List Int} (h : l.Traced) (hw : Withdrawn ids l l') : l'.Traced := by
  intro id hid
  rw [hw.poisoned, hw.incomplete, hw.order, List.mem_filter, decide_eq_true_eq]
  rcases h id (hw.added ▸ hid) with h | h | h <;> grind

theorem Proceeds.keeps (h : l.Proceeds u l') : Keeps l l' :=
  ⟨h.succeeds.registry, fun hid => .inl (h.succeeds.mem_order hid), fun hid =>
    (h.succeeds.underway (.inr hid)).imp_right .inr⟩

theorem keeps_startDefining (id : Int) (l : Listing) : Keeps l (l.startDefining id) :=
  ⟨.refl _, .inl, fun h => .inr (.inr (IdSet.mem_insert.2 (.inr h)))⟩

theorem keeps_enterRecord {l₁ l₂ : Listing} (ms : List Member) (hs : l.Sound u)
    (look : lookup u c l = (.ok g, l₁)) (hin : Proceeds u (l₁.startDefining g.id) l₂) :
    Keeps l₂ (l₂.enterRecord u c g ms) := by
  refine ⟨grows_enterRecord ms hs look hin, fun h => .inl (mem_enterRecord_order.2 (.inl h)),
    fun {id} h => ?_⟩
  by_cases he : id = g.id
  · exact .inl (mem_enterRecord_order.2 (.inr he))
  · refine .inr (.inr ?_)
    rw [enterRecord, add_defining]
    exact IdSet.mem_erase.2 ⟨h, he⟩

theorem Sound.isRecord_eq (hs : l.Sound u) (hu : u.Coherent)
    (hc : u.isFound c = true ∨ u.Named c) (hg : l.registry.globalOf? u c = some g)
    (hb : g.isBuiltin = false) : (u.kind c).isRecord = g.form.isComposite := by
  have h := hs.registry.cursorKind?_eq hg hb
  rw [hu.kind hc] at h
  exact (Form.isComposite_of_cursorKind? h).symm

theorem Anchored.owed (h : l.Anchored u i) (hs : l.Sound u) (hu : u.Coherent) : l.Owed u i := by
  obtain ⟨d, g, hd, hg, rfl, hb, htag, hname⟩ := h
  have found := isFound_of_isTypeDecl hd
  have kind := hs.isTag_kind hu (.inl found) hg hb
  cases ht : g.form.isTag with
  | false =>
    have typedef : u.kind d = .typedefDecl := by
      rw [ht] at kind
      cases hk : u.kind d <;> rw [hk] at hd kind <;> first | rfl | cases hd <;> cases kind
    refine .inr (.inr (.inr ⟨d, g, hg, rfl, hb, .inr ⟨typedef, ?_⟩⟩))
    simpa [typedef] using hname ht
  | true =>
    rcases htag ht with h | h | ⟨k, hk, hf⟩
    · exact .inl h
    · exact .inr (.inr (.inl h))
    cases hi : u.isImplicit k with
    | false => exact .inr (.inr (.inr ⟨d, g, hg, rfl, hb, .inl ⟨kind.trans ht, k, hk, hi⟩⟩))
    | true =>
      obtain ⟨g', hg', hl⟩ := hf hi
      have : l.registry.globalOf? u k = l.registry.globalOf? u d := by
        simp only [Registry.globalOf?, Registry.idOf?, hu.canonical (kind.trans ht) hk]
      rw [this, hg] at hg'
      cases hg'
      exact .inl (hl.resolve_left (by simp [hb]))

theorem Gathered.covered {ms : List Member} (h : l.Gathered u (u.children c) ms) (hs : l.Sound u)
    (hu : u.Coherent) : l.Covered u c where
  fields f hf hfield := by
    obtain ⟨m, hm, ha⟩ := h.fields f hf hfield
    exact ⟨m, hm, fun i hi => (ha i hi).owed hs hu⟩
  nested j hj ht hd := (h.nested j hj ht hd).answered

theorem Covered.owed (h : l.Covered u c) (hi : l.Holds u (u.children c) i) : l.Owed u i := by
  rcases hi with ⟨f, hf, hfield, m, hm, hi⟩ | ⟨j, g, hg, rfl⟩
  · obtain ⟨m', hm', ho⟩ := h.fields f hf hfield
    obtain rfl := hm.unique hm'
    exact ho i hi
  · obtain ⟨g', hg', ha⟩ := h.nested j hg.place hg.tag hg.self
    rw [hg.known] at hg'
    cases hg'
    rcases ha with ha | ha | ha
    · rw [hg.own] at ha; cases ha
    · exact .inr (.inl ha)
    · exact .inl ha

/-- The definition of a listed record is covered, whatever cursor it was listed for. -/
theorem Covering.covered {id : Int} (h : l.Covering u) (hs : l.Sound u) (hu : u.Coherent)
    (hid : id ∈ l.order) (hr : (u.kind c).isRecord = true) (hd : u.definition? c = some c)
    (hidc : l.registry.idOf? u c = some id) : l.Covered u c := by
  obtain ⟨d, hplace, hidd, hcov⟩ := h id hid
  have found := isFound_of_definition hd
  have same := hs.registry.canonical_eq hidc hidd
  have kind : u.kind d = u.kind c := by rw [← hu.kind hplace, ← hu.kind (.inl found), same]
  have hr' : (u.kind d).isRecord = true := by rwa [kind]
  refine hcov hr' c ?_
  rw [← hd]
  exact hu.shared (CursorKind.isTag_of_isRecord hr') (CursorKind.isTag_of_isRecord hr) same.symm

end Listing

section visits

open Listing SourceUnit

variable {u : SourceUnit} {S : CursorId → Prop} {l l' : Listing} {o : Option Fault}

theorem Visit.covering (h : Visit u S l o l') (ho : o = none) (hu : u.Coherent)
    (hS : ∀ d, S d → u.isFound d = true ∨ u.Named d) (hs : l.Sound u) (hl : l.Covering u) :
    l'.Covering u := by
  have nests : ∀ {c d}, u.Nests c d → u.isFound d = true ∨ u.Named d :=
    fun h => .inl (isFound_of_isTag h.2)
  induction h with
  | done => exact hl
  | halt | undeclarable | failed => cases ho
  | @noted _ l _ _ n rest ih =>
    have hk : Keeps l (l.note n) := ⟨.refl _, .inl, fun h => .inr (.inr h)⟩
    exact ih ho hS (hs.congr rfl rfl rfl) (hl.keeps hk fun h => h)
  | looked look rest ih =>
    have hp := proceeds_lookup hs look
    exact ih ho hS hp.sound (hl.keeps hp.keeps fun h => lookup_order hs look ▸ h)
  | @incomplete _ l _ _ d g place undefined known tag unlisted rest ih =>
    have hp := proceeds_enterIncomplete hs known tag
    have hid := hp.moves.registry.idOf? (hs.registry.globalOf?_eq_some.1 known).1
    refine ih ho hS hp.sound (hl.snoc hp.keeps (fun h => mem_enterIncomplete_order.1 h)
      (place.elim .inl (hS d)) hid fun _ k hk => ?_)
    rw [undefined] at hk
    cases hk
  | @enumerated _ l l₁ _ _ c g loc place look form rest ih =>
    have hp := proceeds_enterEnum hs look form
    have known := known_of_lookup hs look
    have found := isFound_of_definition (place.definition_self hs hu)
    have hb : g.isBuiltin = false := by simp [Global.isBuiltin, form, Form.isBuiltin]
    have hid : (l₁.enterEnum u c g).registry.idOf? u c = some g.id := by
      rw [enterEnum, add_registry]
      exact known.1
    refine ih ho hS hp.sound (hl.snoc hp.keeps (fun h => ?_) (.inl found) hid fun hr => ?_)
    · exact lookup_order hs look ▸ mem_enterEnum_order.1 h
    · have hs₁ := (proceeds_lookup hs look).sound
      rw [hs₁.isRecord_eq hu (.inl found) (hs₁.registry.globalOf?_eq_some.2 known) hb, form] at hr
      cases hr
  | @recorded _ l l₁ l₂ _ _ c g ms place look form inside gathered rest ihin ih =>
    have hl₁ := proceeds_lookup hs look
    have hs₁ := hl₁.sound.startDefining g.id
    have hin := inside.proceeds hs₁
    have hp := proceeds_enterRecord ms hs look form hin
    have self := place.definition_self hs hu
    have hk := keeps_enterRecord ms hs look hin
    have hl₂ : l₂.Covering u := by
      refine ihin rfl (fun _ h => nests h) hs₁ ?_
      exact (hl.keeps hl₁.keeps fun h => lookup_order hs look ▸ h).keeps
        (keeps_startDefining g.id l₁) fun h => h
    have hid := hk.registry.idOf? (hin.moves.registry.idOf? (known_of_lookup hs look).1)
    refine ih ho hS hp.sound (hl₂.snoc hk (fun h => mem_enterRecord_order.1 h)
      (.inl (isFound_of_definition self)) hid fun _ k hd => ?_)
    -- what is gathered at the end of the text stays covered when the record is listed
    rw [self] at hd
    cases hd
    exact (gathered.covered hin.sound hu).keeps hk

/-- What holds of members when they are gathered, and is not lost as the registry grows, holds of
all members on record, whatever faults occur. -/
theorem Visit.onRecord {Q : Listing → Int → Member → Prop} (h : Visit u S l o l') (hs : l.Sound u)
    (keeps : ∀ {l l' id m}, l.registry.Grows l'.registry → Q l id m → Q l' id m)
    (gathers : ∀ {S l l₁ l₂ c g ms}, l.Sound u → l.Defines u S c → lookup u c l = (.ok g, l₁) →
      g.form.isComposite = true → l₁.registry.Grows l₂.registry → l₂.Gathered u (u.children c) ms →
      ∀ m ∈ ms, Q l₂ g.id m)
    (hl : l.OnRecord Q) : l'.OnRecord Q := by
  induction h with
  | done | halt => exact hl
  | undeclarable => exact hl.grows (keeps (.refl _)) rfl
  | noted n rest ih => exact ih (hs.congr rfl rfl rfl) (hl.grows (keeps (.refl _)) rfl)
  | looked look rest ih =>
    have hp := proceeds_lookup hs look
    exact ih hp.sound (hl.grows (keeps hp.moves.registry) (lookup_members hs look))
  | @incomplete _ l _ _ d g place undefined known tag unlisted rest ih =>
    have hp := proceeds_enterIncomplete hs known tag
    refine ih hp.sound fun id ms hms m hm => ?_
    rcases enterIncomplete_members hms with hms | rfl
    · exact keeps hp.moves.registry (hl id ms hms m hm)
    · cases hm
  | @enumerated _ l l₁ _ _ c g _ place look form rest ih =>
    have hp := proceeds_enterEnum hs look form
    refine ih hp.sound (hl.grows (keeps hp.moves.registry) ?_)
    rw [enterEnum, add_members, ← lookup_members hs look]
    rfl
  | @recorded _ l l₁ l₂ _ _ c g ms place look form inside gathered rest ihin ih =>
    have hl₁ := proceeds_lookup hs look
    have hs₁ := hl₁.sound.startDefining g.id
    have hin := inside.proceeds hs₁
    have entered := grows_enterRecord ms hs look hin
    have start : l₁.OnRecord Q := hl.grows (keeps hl₁.moves.registry) (lookup_members hs look)
    have hl₂ : l₂.OnRecord Q := ihin hs₁ (start.grows (keeps (.refl _)) rfl)
    refine ih (proceeds_enterRecord ms hs look form hin).sound fun id ms' hms m hm => keeps entered ?_
    rw [enterRecord, add_members] at hms
    change (l₂.members.insert g.id ms).get? id = some ms' at hms
    rw [Table.get?_insert] at hms
    split at hms
    · rename_i he
      cases hms
      exact he ▸ gathers hs place look form hin.moves.registry gathered m hm
    · exact hl₂ id ms' hms m hm
  | @failed _ _ l₁ l₂ _ _ g _ _ place look tag inside given ihin =>
    have hl₁ := proceeds_lookup hs look
    have hs₁ := hl₁.sound.startDefining g.id
    have hr := reverts_abandon (inside.frame hs₁).1 given
    have start : l₁.OnRecord Q := hl.grows (keeps hl₁.moves.registry) (lookup_members hs look)
    have hl₂ : l₂.OnRecord Q := ihin hs₁ (start.grows (keeps (.refl _)) rfl)
    exact hl₂.grows (keeps hr.grows) hr.members

theorem Visit.described (h : Visit u S l o l') (hu : u.Coherent) (hs : l.Sound u)
    (hl : l.Described u) : l'.Described u := by
  refine h.onRecord hs (fun grows => ?_) ?_ hl
  · rintro ⟨c, hr, hd, hid, made⟩
    exact ⟨c, hr, hd, grows.idOf? hid, made.grows grows⟩
  · intro _ _ _ _ c _ _ hs place look form grows gathered m hm
    have hs₁ := (proceeds_lookup hs look).sound
    have known := known_of_lookup hs look
    have self := place.definition_self hs hu
    have hb := Form.isBuiltin_of_isTag (Form.isTag_of_isComposite form)
    have hr := hs₁.isRecord_eq hu (.inl (isFound_of_definition self))
      (hs₁.registry.globalOf?_eq_some.2 known) hb
    exact ⟨c, hr.trans form, self, grows.idOf? known.1, gathered.made m hm⟩

theorem Visit.traced (h : Visit u S l o l') (hs : l.Sound u) (hl : l.Traced) : l'.Traced := by
  induction h with
  | done | halt => exact hl
  | undeclarable id _ =>
    exact fun i hi => (hl i hi).imp_right (.imp_right fun h => IdSet.mem_insert.2 (.inr h))
  | noted n rest ih => exact ih (hs.congr rfl rfl rfl) hl
  | looked look rest ih =>
    have hp := proceeds_lookup hs look
    exact ih hp.sound (hl.succeeds hp.succeeds hp.moves.incomplete)
  | incomplete place undefined known tag unlisted rest ih =>
    have hp := proceeds_enterIncomplete hs known tag
    exact ih hp.sound (hl.succeeds hp.succeeds hp.moves.incomplete)
  | enumerated place look form rest ih =>
    have hp := proceeds_enterEnum hs look form
    exact ih hp.sound (hl.succeeds hp.succeeds hp.moves.incomplete)
  | @recorded _ _ _ _ _ _ _ g ms place look form inside gathered rest ihin ih =>
    have hs₁ := (proceeds_lookup hs look).sound.startDefining g.id
    have hp := proceeds_enterRecord ms hs look form (inside.proceeds hs₁)
    exact ih hp.sound (hl.succeeds hp.succeeds hp.moves.incomplete)
  | @failed _ _ l₁ l₂ l₃ _ g e _ place look tag inside given ihin =>
    have hl₁ := proceeds_lookup hs look
    have hs₁ := hl₁.sound.startDefining g.id
    have start : l₁.Traced := hl.succeeds hl₁.succeeds hl₁.moves.incomplete
    have hl₂ : l₂.Traced := ihin hs₁ start
    obtain ⟨-, hlocal, hother⟩ := abandon_error (inside.frame hs₁).1 given
    cases he : e.isLocal with
    | false => rw [hother he]; exact hl₂
    | true =>
      have : l₃.Traced := (hl₂.poison g.id).withdrawn (hlocal he)
      exact this

/-- A visit that a fault of its own stops does nothing to the list that one without a fault could
not have done. -/
theorem Visit.before_fault {e : Fault} (h : Visit u S l o l') (ho : o = some e)
    (he : e.isLocal = true) (hs : l.Sound u) :
    ∃ l₀, Visit u S l none l₀ ∧ Moves l₀ l' ∧ l'.order = l₀.order := by
  induction h with
  | done => cases ho
  | @halt _ l _ => exact ⟨l, .done, .refl l, rfl⟩
  | undeclarable id fatal => cases ho; rw [he] at fatal; cases fatal
  | noted n rest ih =>
    obtain ⟨l₀, hv, h⟩ := ih ho (hs.congr rfl rfl rfl)
    exact ⟨l₀, .noted n hv, h⟩
  | looked look rest ih =>
    obtain ⟨l₀, hv, h⟩ := ih ho (proceeds_lookup hs look).sound
    exact ⟨l₀, .looked look hv, h⟩
  | incomplete place undefined known tag unlisted rest ih =>
    obtain ⟨l₀, hv, h⟩ := ih ho (proceeds_enterIncomplete hs known tag).sound
    exact ⟨l₀, .incomplete place undefined known tag unlisted hv, h⟩
  | enumerated place look form rest ih =>
    obtain ⟨l₀, hv, h⟩ := ih ho (proceeds_enterEnum hs look form).sound
    exact ⟨l₀, .enumerated place look form hv, h⟩
  | @recorded _ _ _ _ _ _ _ g ms place look form inside gathered rest _ ih =>
    have hin := inside.proceeds ((proceeds_lookup hs look).sound.startDefining g.id)
    obtain ⟨l₀, hv, h⟩ := ih ho (proceeds_enterRecord ms hs look form hin).sound
    exact ⟨l₀, .recorded place look form inside gathered hv, h⟩
  | @failed _ _ l₁ _ _ _ g _ _ place look tag inside given =>
    obtain ⟨hs₂, hm, -⟩ := inside.frame ((proceeds_lookup hs look).sound.startDefining g.id)
    obtain rfl := (abandon_error hs₂ given).1
    cases ho
    have ho := abandon_order hs₂ hm given he
    exact ⟨l₁, .of_lookup look, moves_abandon hs₂ hm given, ho⟩

end visits

end DeclAtlas
