import DeclAtlas.Proofs.Closure
import Mathlib.Data.List.Nodup

/-! The tables beside the list. Members and constants are put on record before their declaration
is listed, and stay on record when it is withdrawn; so the tables hold more than the list does.
But whatever is written under an identity is what the definition behind that identity says, and
nothing is listed without it. -/

namespace DeclAtlas

namespace Form

def isEnum : Form → Bool
  | enum _ => true
  | _ => false

def layout? : Form → Option Layout
  | composite _ _ layout => some layout
  | _ => none

theorem isEnum_of_outline {f f' : Form} (h : f'.outline = f.outline) : f'.isEnum = f.isEnum := by
  cases f <;> cases f' <;> simp_all [outline, isEnum]

theorem isTag_iff {f : Form} : f.isTag = true ↔ f.isComposite = true ∨ f.isEnum = true := by
  cases f <;> simp [isTag, isComposite, isEnum]

theorem isEnum_eq_false_of_isComposite {f : Form} (h : f.isComposite = true) : f.isEnum = false := by
  cases f <;> first | rfl | cases h

theorem layout?_withLayout {f : Form} (h : f.isComposite = true) (y : Layout) :
    (f.withLayout y).layout? = some y := by
  cases f <;> first | rfl | cases h

end Form

namespace Listing

open SourceUnit

variable {u : SourceUnit} {c : CursorId} {l l₁ l' : Listing} {g : Global}

/-- What is on record for a record or enum that `c` declares, and what its global says, is what the
definition of `c` says. -/
structure Recorded (u : SourceUnit) (l : Listing) (c : CursorId) (g : Global) : Prop where
  members : g.form.isComposite = true → ∃ ms, l.members.get? g.id = some ms ∧
    (u.definition? c = none → ms = []) ∧
    ∀ k, u.definition? c = some k → g.form.layout? = some (u.layoutOf k)
  items : g.form.isEnum = true → ∃ s, l.enumItems.get? g.id = some s ∧
    s.items = (u.definition? c).elim [] u.enumItems

/-- Members are on record for records only, and constants for enums only; the irregular records
are those with irregular members; and what is listed is on record. -/
structure Filed (u : SourceUnit) (l : Listing) : Prop where
  members : ∀ {id ms}, l.members.get? id = some ms → l.registry.HoldsForm Form.isComposite id
  enumItems : ∀ {id s}, l.enumItems.get? id = some s → l.registry.HoldsForm Form.isEnum id
  irregular : ∀ {id}, id ∈ l.irregular ↔
    ∃ ms, l.members.get? id = some ms ∧ Member.irregular ms = true
  listed : ∀ {id g}, id ∈ l.order → l.registry.globals.get? id = some g → g.form.isTag = true →
    ∃ c, u.isFound c = true ∧ l.registry.idOf? u c = some id ∧ l.Recorded u c g

theorem filed_ofBuiltins (u : SourceUnit) (b : Builtins) : (ofBuiltins b).Filed u where
  members h := by cases h
  enumItems h := by cases h
  irregular := by simp [ofBuiltins]
  listed h := by cases h

theorem Filed.keeps (h : l.Filed u) (tables : l'.tables = l.tables)
    (grows : l.registry.Grows l'.registry)
    (same : ∀ {id g}, id ∈ l'.order → l'.registry.globals.get? id = some g → g.form.isTag = true →
      id ∈ l.order ∧ l.registry.globals.get? id = some g) : l'.Filed u := by
  simp only [Listing.tables, Prod.mk.injEq] at tables
  obtain ⟨hm, he, hi⟩ := tables
  refine ⟨fun hms => ?_, fun hs => ?_, ?_, fun {id g} hid hg ht => ?_⟩
  · exact grows.holdsForm Form.isComposite_of_outline (h.members (hm ▸ hms))
  · exact grows.holdsForm Form.isEnum_of_outline (h.enumItems (he ▸ hs))
  · rw [hi, hm]
    exact h.irregular
  · obtain ⟨hid, hg⟩ := same hid hg ht
    obtain ⟨c, hc, hidc, recorded⟩ := h.listed hid hg ht
    exact ⟨c, hc, grows.idOf? hidc, hm ▸ recorded.members, he ▸ recorded.items⟩

theorem Recorded.congr (h : l.Recorded u c g) (hm : l'.members.get? g.id = l.members.get? g.id)
    (he : l'.enumItems.get? g.id = l.enumItems.get? g.id) : l'.Recorded u c g :=
  ⟨hm ▸ h.members, he ▸ h.items⟩

@[simp] theorem add_enumItems (g : Global) (l : Listing) : (l.add g).enumItems = l.enumItems := by
  unfold add list; split <;> rfl

@[simp] theorem add_irregular (g : Global) (l : Listing) : (l.add g).irregular = l.irregular := by
  unfold add list; split <;> rfl

/-- `g`, which `c` declares, is about to be listed, and only the tables have changed. -/
structure Enters (u : SourceUnit) (l l₁ : Listing) (c : CursorId) (g : Global) : Prop where
  registry : l₁.registry = l.registry
  order : l₁.order = l.order
  outline : ∃ g₀, l.registry.globals.get? g.id = some g₀ ∧ g.outline = g₀.outline
  found : u.isFound c = true
  known : l.registry.idOf? u c = some g.id

theorem Enters.grows (e : l.Enters u l₁ c g) : l.registry.Grows (l₁.add g).registry := by
  obtain ⟨g₀, hg₀, ho⟩ := e.outline
  rw [add_registry, e.registry]
  exact Registry.grows_update hg₀ ho

/-- Where something was put on record under the identity of `g` only, all that is listed together
with `g` is on record. -/
theorem Enters.listed {id : Int} {d : Global} (e : l.Enters u l₁ c g) (h : l.Filed u)
    (hs : l.Sound u) (members : ∀ {i}, i ≠ g.id → l₁.members.get? i = l.members.get? i)
    (items : ∀ {i}, i ≠ g.id → l₁.enumItems.get? i = l.enumItems.get? i)
    (recorded : l₁.Recorded u c g) (hid : id ∈ (l₁.add g).order)
    (hd : (l₁.add g).registry.globals.get? id = some d) (ht : d.form.isTag = true) :
    ∃ c, u.isFound c = true ∧ (l₁.add g).registry.idOf? u c = some id ∧
      (l₁.add g).Recorded u c d := by
  rw [add_registry, e.registry] at hd ⊢
  rw [Registry.update, Table.get?_insert] at hd
  by_cases he : id = g.id
  · rw [if_pos he] at hd
    cases hd
    exact ⟨c, e.found, he ▸ e.known, recorded.congr (by rw [add_members]) (by rw [add_enumItems])⟩
  · rw [if_neg he] at hd
    rw [mem_add_order, e.order] at hid
    obtain ⟨c', found', known', recorded'⟩ := h.listed (hid.resolve_right he) hd ht
    obtain rfl := hs.registry.own hd
    refine ⟨c', found', known', recorded'.congr ?_ ?_⟩
    · rw [add_members, members he]
    · rw [add_enumItems, items he]

theorem Filed.addRecord {ms : List Member} (h : l.Filed u) (hs : l.Sound u)
    (e : l.Enters u l₁ c g) (form : g.form.isComposite = true)
    (tables : l₁.tables = (l.members.insert g.id ms, l.enumItems,
      if Member.irregular ms then l.irregular.insert g.id else l.irregular.erase g.id))
    (defined : (u.definition? c = none → ms = []) ∧
      ∀ k, u.definition? c = some k → g.form.layout? = some (u.layoutOf k)) :
    (l₁.add g).Filed u := by
  simp only [Listing.tables, Prod.mk.injEq] at tables
  obtain ⟨hm, he, hi⟩ := tables
  have recorded : l₁.Recorded u c g := by
    refine ⟨fun _ => ⟨ms, by simp [hm], defined⟩, fun hf => ?_⟩
    rw [Form.isEnum_eq_false_of_isComposite form] at hf
    cases hf
  refine ⟨fun {id ms'} hms => ?_, fun {id s} hs => ?_, fun {id} => ?_,
    e.listed h hs (fun hne => by simp [hm, hne]) (fun _ => by rw [he]) recorded⟩
  · rw [add_members, hm, Table.get?_insert] at hms
    split at hms
    · rename_i hid
      rw [hid, add_registry]
      exact Registry.holdsForm_update _ form
    · exact e.grows.holdsForm Form.isComposite_of_outline (h.members hms)
  · rw [add_enumItems, he] at hs
    exact e.grows.holdsForm Form.isEnum_of_outline (h.enumItems hs)
  · rw [add_irregular, add_members, hi, hm]
    by_cases hid : id = g.id
    · cases hr : Member.irregular ms <;> simp [hid, hr]
    · rw [Table.get?_insert, if_neg hid, ← h.irregular]
      split <;> simp [hid]

theorem Filed.addEnum {s : EnumItems} (h : l.Filed u) (hs : l.Sound u) (e : l.Enters u l₁ c g)
    (form : g.form.isEnum = true)
    (tables : l₁.tables = (l.members, l.enumItems.insert g.id s, l.irregular))
    (defined : s.items = (u.definition? c).elim [] u.enumItems) : (l₁.add g).Filed u := by
  simp only [Listing.tables, Prod.mk.injEq] at tables
  obtain ⟨hm, he, hi⟩ := tables
  have recorded : l₁.Recorded u c g := by
    refine ⟨fun hf => ?_, fun _ => ⟨s, by simp [he], defined⟩⟩
    rw [Form.isEnum_eq_false_of_isComposite hf] at form
    cases form
  refine ⟨fun {id ms} hms => ?_, fun {id s'} hs => ?_, fun {id} => ?_,
    e.listed h hs (fun _ => by rw [hm]) (fun hne => by simp [he, hne]) recorded⟩
  · rw [add_members, hm] at hms
    exact e.grows.holdsForm Form.isComposite_of_outline (h.members hms)
  · rw [add_enumItems, he, Table.get?_insert] at hs
    split at hs
    · rename_i hid
      rw [hid, add_registry]
      exact Registry.holdsForm_update _ form
    · exact e.grows.holdsForm Form.isEnum_of_outline (h.enumItems hs)
  · rw [add_irregular, add_members, hi, hm]
    exact h.irregular

theorem Filed.lookup (h : l.Filed u) (hs : l.Sound u) (look : lookup u c l = (.ok g, l₁)) :
    l₁.Filed u := by
  have grows := (proceeds_lookup hs look).moves.registry
  obtain ⟨r, notes, rfl, -, -, -, keep, -⟩ := lookup_ok hs look
  refine h.keeps rfl grows fun {id d} hid hd _ => ⟨hid, ?_⟩
  obtain ⟨d', hd', -⟩ := hs.listed hid
  rw [← hd]
  exact hd'.trans (keep hd').symm

theorem Filed.enterIncomplete {d : CursorId} (h : l.Filed u) (hs : l.Sound u) (hu : u.Coherent)
    (place : u.isFound d = true ∨ u.Named d) (undefined : u.definition? d = none)
    (known : l.registry.globalOf? u d = some g) (tag : g.form.isTag = true) :
    (l.enterIncomplete u d g).Filed u := by
  obtain ⟨hid, hg⟩ := hs.registry.globalOf?_eq_some.1 known
  have found : u.isFound d = true := by
    apply isFound_of_isTag
    rw [hs.isTag_kind hu place known (Form.isBuiltin_of_isTag tag)]
    exact tag
  have enters : ∀ {l₁ : Listing}, l₁.registry = l.registry → l₁.order = l.order →
      l.Enters u l₁ d g :=
    fun registry order => ⟨registry, order, ⟨g, hg, rfl⟩, found, hid⟩
  unfold Listing.enterIncomplete
  cases form : g.form with
  | composite =>
    refine h.addRecord hs (enters rfl rfl) (by rw [form]; rfl) rfl
      ⟨fun _ => rfl, fun k hk => ?_⟩
    rw [undefined] at hk
    cases hk
  | enum =>
    refine h.addEnum hs (enters rfl rfl) (by rw [form]; rfl) rfl ?_
    rw [undefined]
    rfl
  | typedef | var | function | builtin => rw [form] at tag; cases tag

end Listing

section steps

open Listing SourceUnit

variable {u : SourceUnit} {S : CursorId → Prop} {c : CursorId} {l l' : Listing} {o : Option Fault}

/-- Whatever faults occur, what is listed is on record. -/
theorem Visit.filed (h : Visit u S l o l') (hu : u.Coherent)
    (hS : ∀ d, S d → u.isFound d = true ∨ u.Named d) (hs : l.Sound u) (hl : l.Filed u) :
    l'.Filed u := by
  have nests : ∀ {c d}, u.Nests c d → u.isFound d = true ∨ u.Named d :=
    fun h => .inl (isFound_of_isTag h.2)
  induction h with
  | done | halt => exact hl
  | undeclarable => exact hl.keeps rfl (.refl _) fun hid hg _ => ⟨hid, hg⟩
  | noted n rest ih =>
    exact ih hS (hs.congr rfl rfl rfl) (hl.keeps rfl (.refl _) fun hid hg _ => ⟨hid, hg⟩)
  | looked look rest ih => exact ih hS (proceeds_lookup hs look).sound (hl.lookup hs look)
  | @incomplete _ l _ _ d g place undefined known tag unlisted rest ih =>
    refine ih hS (proceeds_enterIncomplete hs known tag).sound ?_
    exact hl.enterIncomplete hs hu (place.elim .inl (hS d)) undefined known tag
  | @enumerated _ l l₁ _ _ c g loc place look form rest ih =>
    have hs₁ := (proceeds_lookup hs look).sound
    have known := known_of_lookup hs look
    have self := place.definition_self hs hu
    refine ih hS (proceeds_enterEnum hs look form).sound ?_
    refine (hl.lookup hs look).addEnum (c := c) hs₁
      ⟨rfl, rfl, ⟨g, known.2, rfl⟩, isFound_of_definition self, known.1⟩ (by rw [form]; rfl) rfl ?_
    rw [self]
    rfl
  | @recorded _ l l₁ l₂ _ _ c g ms place look form inside gathered rest ihin ih =>
    have hs₁ := (proceeds_lookup hs look).sound.startDefining g.id
    have hin := inside.proceeds hs₁
    have known := known_of_lookup hs look
    have self := place.definition_self hs hu
    have start : (l₁.startDefining g.id).Filed u :=
      (hl.lookup hs look).keeps rfl (.refl _) fun hid hg _ => ⟨hid, hg⟩
    have hl₂ : l₂.Filed u := ihin (fun _ h => nests h) hs₁ start
    refine ih hS (proceeds_enterRecord ms hs look form hin).sound ?_
    obtain ⟨g₂, hg₂, ho⟩ := hin.moves.registry.globals known.2
    have outline : (g.withLayout (u.layoutOf c)).outline = g₂.outline := by
      rw [Global.outline_withLayout]
      exact ho.symm
    have layout : (g.withLayout (u.layoutOf c)).form.layout? = some (u.layoutOf c) :=
      Form.layout?_withLayout form _
    refine hl₂.addRecord (c := c) hin.sound ⟨rfl, rfl, ⟨g₂, hg₂, outline⟩,
      isFound_of_definition self, hin.moves.registry.idOf? known.1⟩ ?_ rfl ⟨?_, ?_⟩
    · exact (Form.isComposite_of_outline (Form.outline_withLayout ..)).trans form
    · rw [self]
      exact fun h => by cases h
    · rw [self]
      intro k hk
      cases hk
      exact layout
  | @failed _ _ l₁ l₂ l₃ _ g _ _ place look tag inside given ihin =>
    have hs₁ := (proceeds_lookup hs look).sound.startDefining g.id
    have hr := reverts_abandon (inside.frame hs₁).1 given
    have start : (l₁.startDefining g.id).Filed u :=
      (hl.lookup hs look).keeps rfl (.refl _) fun hid hg _ => ⟨hid, hg⟩
    have hl₂ : l₂.Filed u := ihin (fun _ h => nests h) hs₁ start
    exact hl₂.keeps hr.tables hr.grows fun hid hg _ => ⟨hr.order hid, hr.globals ▸ hg⟩

theorem addTyped_tables {g : Global} (own : g.isBuiltin = false) (t : CType) :
    (l.addTyped g t).tables = l.tables := by
  obtain ⟨recast, g', he, -⟩ := addTyped_eq own t l
  rw [he]
  simp [Listing.tables, withRecast]

theorem Extracted.filed (h : Extracted u c l l') (hu : u.Coherent) (hs : l.Sound u)
    (hl : l.Filed u) : l'.Filed u := by
  have near : ∀ d, u.Near c d → u.isFound d = true ∨ u.Named d :=
    fun _ h => isFound_or_named_of_near h
  cases h with
  | declared _ declared =>
    cases declared with
    | visited visit _ => exact visit.filed hu near hs hl
    | @typed l₁ g g₁ t visit kind _ known outline own _ =>
      have hs₁ := (visit.proceeds hs).sound
      have tag := hs₁.isTag_eq_false_of_typed (hu.kind (.inl (isFound_of_isTyped kind))) kind known
        outline own
      refine (visit.filed hu near hs hl).keeps (addTyped_tables own t)
        (succeeds_addTyped t hs₁ known outline own).registry fun {id d} hid hd ht => ?_
      refine (eq_or_listed_of_addTyped tag own hid hd).resolve_left ?_
      rintro rfl
      rw [Global.isTag_of_outline (Global.outline_withType own t), tag] at ht
      cases ht
  | @skipped l₁ e id _ own visit known =>
    rw [skipped_eq known]
    refine (visit.filed hu near hs hl).keeps rfl (Registry.grows_poison _ id) fun hid hg _ => ?_
    exact ⟨List.mem_of_mem_erase hid, hg⟩

theorem Walked.filed {cs : List CursorId} (h : Walked u cs l l') (hu : u.Coherent) (hs : l.Sound u)
    (hl : l.Filed u) : l'.Filed u :=
  h.keeps hs (fun hs hl step => step.filed hu hs hl) hl

end steps

namespace Graph

/-- The tables of a graph are about its declarations: members are on record for the records among
them, constants for the enums, and the irregular records are those without members or with a
bitfield. -/
structure Tabled (g : Graph) : Prop where
  distinct : (g.declarations.map Global.id).Nodup
  members : ∀ id, id ∈ g.members.keys ↔
    ∃ d ∈ g.declarations, d.id = id ∧ d.form.isComposite = true
  enumItems : ∀ id, id ∈ g.enumItems.keys ↔
    ∃ d ∈ g.declarations, d.id = id ∧ d.form.isEnum = true
  irregular : ∀ id, id ∈ g.irregular ↔
    ∃ ms, g.members.get? id = some ms ∧ (ms = [] ∨ ∃ m ∈ ms, m.isBitfield = true)

/-- What a graph says about a record or enum that `c` declares: without a definition it is empty, a
record has the size and alignment of its definition, and an enum the constants of its definition
in order. -/
structure Describes (g : Graph) (u : SourceUnit) (c : CursorId) (d : Global) : Prop where
  memberless : d.form.isComposite = true → u.definition? c = none → g.members.get? d.id = some []
  layout : d.form.isComposite = true → ∀ k, u.definition? c = some k →
    d.form.layout? = some ⟨max (u.typeNode (u.cursor k).type).size 0,
      max (u.typeNode (u.cursor k).type).align 0⟩
  itemless : d.form.isEnum = true → u.definition? c = none →
    (g.enumItems.get? d.id).map EnumItems.items = some []
  items : d.form.isEnum = true → ∀ k, u.definition? c = some k →
    (g.enumItems.get? d.id).map EnumItems.items =
      some (((u.children k).filter fun j => u.kind j == .enumConstantDecl).map fun j =>
        ⟨u.spellingOf j, (u.cursor j).enumValue⟩)

variable {g : Graph}

theorem Tabled.eq_of_id {d e : Global} (h : g.Tabled) (hd : d ∈ g.declarations)
    (he : e ∈ g.declarations) (hid : d.id = e.id) : d = e :=
  List.inj_on_of_nodup_map h.distinct hd he hid

theorem Tabled.select_form (h : g.Tabled) {form : Form → Bool} {p : Global → Bool} (id : Int) :
    (∃ d ∈ g.declarations.filter p, d.id = id ∧ form d.form = true) ↔
      (∃ d ∈ g.declarations, d.id = id ∧ form d.form = true) ∧
        id ∈ (g.declarations.filter p).map Global.id := by
  constructor
  · rintro ⟨d, hd, rfl, hf⟩
    exact ⟨⟨d, (List.mem_filter.1 hd).1, rfl, hf⟩, List.mem_map_of_mem hd⟩
  · rintro ⟨⟨d, hd, rfl, hf⟩, hid⟩
    obtain ⟨e, he, hid⟩ := List.mem_map.1 hid
    obtain rfl := h.eq_of_id (List.mem_filter.1 he).1 hd hid
    exact ⟨e, he, rfl, hf⟩

theorem Tabled.select (h : g.Tabled) (p : Global → Bool) : (g.select p).Tabled where
  distinct := h.distinct.sublist (List.filter_sublist.map _)
  members id := by
    rw [Graph.select, withDeclarations, h.select_form, Table.mem_keys_filterKeys, h.members,
      List.contains_iff_mem]
  enumItems id := by
    rw [Graph.select, withDeclarations, h.select_form, Table.mem_keys_filterKeys, h.enumItems,
      List.contains_iff_mem]
  irregular id := by
    simp only [Graph.select, withDeclarations, IdSet.mem_filter, h.irregular,
      Table.get?_filterKeys_eq_some]
    constructor
    · rintro ⟨⟨ms, hms, hirr⟩, hid⟩
      exact ⟨ms, ⟨hid, hms⟩, hirr⟩
    · rintro ⟨ms, ⟨hid, hms⟩, hirr⟩
      exact ⟨⟨ms, hms, hirr⟩, hid⟩

end Graph

namespace Completed

open Listing SourceUnit

variable {u : SourceUnit} {b : List BuiltinEntry} {walked l : Listing} {g : Graph}

theorem filed (h : Completed u b walked l g) (hu : u.Coherent) : l.Filed u := by
  have hw := h.walk.filed hu (sound_start u b) (filed_ofBuiltins u _)
  exact hw.keeps h.pruned.tables h.grows_pruned fun hid hg _ =>
    ⟨h.pruned.order.subset hid, h.pruned.globals ▸ hg⟩

theorem mem_keys_iff (h : Completed u b walked l g) {α : Type} {t : IdTable α} {form : Form → Bool}
    (held : ∀ {id a}, t.get? id = some a → l.registry.HoldsForm form id)
    (listed : ∀ {d}, d ∈ g.declarations → form d.form = true → ∃ a, t.get? d.id = some a) (id : Int) :
    id ∈ (t.filterKeys l.isListed).keys ↔
      ∃ d ∈ g.declarations, d.id = id ∧ form d.form = true := by
  rw [Table.mem_keys_filterKeys, Table.mem_keys, isListed_eq, decide_eq_true_eq, ← h.listed]
  constructor
  · rintro ⟨⟨a, ha⟩, hid⟩
    obtain ⟨d, hd, rfl⟩ := List.mem_map.1 hid
    obtain ⟨d', hd', hf⟩ := held ha
    rw [h.global hd] at hd'
    cases hd'
    exact ⟨d, hd, rfl, hf⟩
  · rintro ⟨d, hd, rfl, hf⟩
    exact ⟨listed hd hf, List.mem_map_of_mem hd⟩

theorem recorded (h : Completed u b walked l g) (hu : u.Coherent) {d : Global}
    (hd : d ∈ g.declarations) (ht : d.form.isTag = true) :
    ∃ c, u.isFound c = true ∧ l.registry.idOf? u c = some d.id ∧ l.Recorded u c d := by
  obtain ⟨hid, hget⟩ := h.mem_declarations.1 hd
  exact (h.filed hu).listed hid hget ht

theorem tabled (h : Completed u b walked l g) (hu : u.Coherent) : g.Tabled := by
  have hl := h.filed hu
  refine ⟨h.listed ▸ h.sound.nodup, fun id => ?_, fun id => ?_, fun id => ?_⟩
  · refine Iff.trans (by rw [h.graph]; rfl) (h.mem_keys_iff hl.members (fun hd hf => ?_) id)
    obtain ⟨c, -, -, recorded⟩ := h.recorded hu hd (Form.isTag_iff.2 (.inl hf))
    obtain ⟨ms, hms, -⟩ := recorded.members hf
    exact ⟨ms, hms⟩
  · refine Iff.trans (by rw [h.graph]; rfl) (h.mem_keys_iff hl.enumItems (fun hd hf => ?_) id)
    obtain ⟨c, -, -, recorded⟩ := h.recorded hu hd (Form.isTag_iff.2 (.inr hf))
    obtain ⟨s, hs, -⟩ := recorded.items hf
    exact ⟨s, hs⟩
  · rw [h.graph]
    simp only [Listing.graph, IdSet.mem_filter, hl.irregular, Table.get?_filterKeys_eq_some,
      Member.irregular, Bool.or_eq_true, List.isEmpty_iff, List.any_eq_true]
    constructor
    · rintro ⟨⟨ms, hms, hirr⟩, hid⟩
      exact ⟨ms, ⟨hid, hms⟩, hirr⟩
    · rintro ⟨ms, ⟨hid, hms⟩, hirr⟩
      exact ⟨⟨ms, hms, hirr⟩, hid⟩

/-- What is on record for one of its declarations is what the graph says about all of them. -/
theorem describes (h : Completed u b walked l g) (hu : u.Coherent) {d : Global} {c : CursorId}
    (hd : d ∈ g.declarations) (ht : d.form.isTag = true) (found : u.isFound c = true)
    (known : l.registry.idOf? u c = some d.id) : g.Describes u c d := by
  obtain ⟨c', found', known', recorded⟩ := h.recorded hu hd ht
  obtain ⟨hid, hget⟩ := h.mem_declarations.1 hd
  have tag := h.sound.isTag_of_holdsTag hu found known ⟨d, hget, ht⟩
  obtain ⟨members, items⟩ := recorded
  rw [(h.sound.definition_eq hu found' tag known' known).2] at members items
  refine ⟨fun hf hnone => ?_, fun hf k hk => ?_, fun hf hnone => ?_, fun hf k hk => ?_⟩
  · obtain ⟨ms, hms, empty, -⟩ := members hf
    rw [h.members hid, hms, empty hnone]
  · obtain ⟨ms, -, -, layout⟩ := members hf
    exact layout k hk
  · obtain ⟨s, hs, hitems⟩ := items hf
    rw [h.enumItems hid, hs, Option.map_some, hitems, hnone]
    rfl
  · obtain ⟨s, hs, hitems⟩ := items hf
    rw [h.enumItems hid, hs, Option.map_some, hitems, hk]
    rfl

end Completed

open SourceUnit in
/-- The tables of an extracted graph are about its declarations, and stay so when the graph is
narrowed. Every listed record or enum is declared by a cursor of the unit, and whichever cursor
declares it, the graph says about it what the definition says. -/
theorem tables_match_declarations {u : SourceUnit} {b : List BuiltinEntry} {g : Graph} {l : Listing}
    (hu : u.Coherent) (h : u.extract b = (.ok g, l)) :
    g.Tabled ∧ (∀ (g' : Graph) (p : Global → Bool), g'.Tabled → (g'.select p).Tabled) ∧
    ∀ d ∈ g.declarations, d.form.isTag = true →
      (∃ c, u.isFound c = true ∧ l.registry.idOf? u c = some d.id) ∧
      ∀ c, u.isFound c = true → l.registry.idOf? u c = some d.id → g.Describes u c d := by
  obtain ⟨walked, hc⟩ := extract_completed h
  refine ⟨hc.tabled hu, fun g' p hg' => hg'.select p, fun d hd ht => ⟨?_, fun c found known => ?_⟩⟩
  · obtain ⟨c, found, known, -⟩ := hc.recorded hu hd ht
    exact ⟨c, found, known⟩
  · exact hc.describes hu hd ht found known

/-- Here `struct F` and `enum G` have no definition, `struct S` has a bitfield and no known
alignment, and two constants of `enum E` have one value. -/
def tabulatedUnit : SourceUnit where
  spelling := "test.c"
  cursors := #[
    { kind := .other "TRANSLATION_UNIT", spelling := "test.c",
      children := [.node 1, .node 2, .node 4, .node 7] },
    { kind := .structDecl, spelling := "F", file := some "test.c", line := 1, column := 8,
      type := .node 0, usr := "c:@S@F" },
    { kind := .structDecl, spelling := "S", file := some "test.c", line := 2, column := 8,
      definition := some (.node 2), type := .node 1, children := [.node 3], usr := "c:@S@S" },
    { kind := .fieldDecl, spelling := "x", file := some "test.c", line := 2, column := 16,
      type := .node 2, offset := 0, bitWidth := some 3 },
    { kind := .enumDecl, spelling := "E", file := some "test.c", line := 3, column := 6,
      definition := some (.node 4), type := .node 3, enumType := .node 2,
      children := [.node 5, .node 6], usr := "c:@E@E" },
    { kind := .enumConstantDecl, spelling := "A", file := some "test.c", line := 3, column := 10,
      enumValue := 1 },
    { kind := .enumConstantDecl, spelling := "B", file := some "test.c", line := 3, column := 17,
      enumValue := 1 },
    { kind := .enumDecl, spelling := "G", file := some "test.c", line := 4, column := 6,
      type := .node 4, enumType := .node 2, usr := "c:@E@G" }]
  types := #[
    { kind := .record, spelling := "struct F", decl := .node 1 },
    { kind := .record, spelling := "struct S", decl := .node 2, size := 4, align := -1 },
    { kind := .int, spelling := "int" },
    { kind := .enum, spelling := "enum E", decl := .node 4, size := 4, align := 4 },
    { kind := .enum, spelling := "enum G", decl := .node 7 }]

section tabulated

open SourceUnit

theorem tabulatedUnit_yields : tabulatedUnit.yields [] fun g l =>
    (g.declarations.any fun d => d.form.isEnum && l.registry.idOf? tabulatedUnit (.node 4) == d.id) &&
    g.declarations.any fun d =>
      d.form.isComposite && l.registry.idOf? tabulatedUnit (.node 2) == d.id := by
  decide +kernel

/-- Both constants of `enum E` are kept, and the alignment of `struct S` counts as 0. -/
theorem equal_constants_kept : tabulatedUnit.Coherent ∧ ∃ g l d e,
    tabulatedUnit.extract [] = (.ok g, l) ∧ g.Tabled ∧ d ∈ g.declarations ∧ e ∈ g.declarations ∧
    (g.enumItems.get? d.id).map EnumItems.items = some [⟨"A", 1⟩, ⟨"B", 1⟩] ∧
    e.form.layout? = some ⟨4, 0⟩ := by
  have coherent : tabulatedUnit.Coherent := by decide +kernel
  obtain ⟨g, l, h, hp⟩ := exists_of_yields tabulatedUnit_yields
  obtain ⟨henum, hrecord⟩ := Bool.and_eq_true_iff.1 hp
  obtain ⟨d, hd, hp⟩ := List.any_eq_true.1 henum
  obtain ⟨dform, dknown⟩ := Bool.and_eq_true_iff.1 hp
  obtain ⟨e, he, hp⟩ := List.any_eq_true.1 hrecord
  obtain ⟨eform, eknown⟩ := Bool.and_eq_true_iff.1 hp
  obtain ⟨tabled, -, said⟩ := tables_match_declarations coherent h
  have items := ((said d hd (Form.isTag_iff.2 (.inr dform))).2 (.node 4) (by decide +kernel)
    (by simpa using dknown)).items dform (.node 4) (by decide +kernel)
  have layout := ((said e he (Form.isTag_iff.2 (.inl eform))).2 (.node 2) (by decide +kernel)
    (by simpa using eknown)).layout eform (.node 2) (by decide +kernel)
  exact ⟨coherent, g, l, d, e, h, tabled, hd, he, items.trans (by decide +kernel),
    layout.trans (by decide +kernel)⟩

end tabulated

end DeclAtlas
