import DeclAtlas.Listing

/-! The registry over a run. Identities are handed out in order and never again, the cursor
table and the globals stay in step, and of a registered global only the type, the constness
and the layout ever change. -/

namespace DeclAtlas

namespace Table

variable {κ α : Type} [DecidableEq κ]

theorem length_put (k : κ) (a : α) (l : List (κ × α)) :
    (put k a l).length = if (l.lookup k).isSome then l.length else l.length + 1 := by
  induction l with
  | nil => rfl
  | cons e rest ih =>
    obtain ⟨j, b⟩ := e
    by_cases h : j = k
    · simp [put, h]
    · have hk : (k == j) = false := by simpa using fun e => h e.symm
      simp only [put, h, if_false, List.length_cons, ih, List.lookup_cons, hk]
      split <;> rfl

theorem size_insert (t : Table κ α) (k : κ) (a : α) :
    (t.insert k a).size = if (t.get? k).isSome then t.size else t.size + 1 :=
  length_put k a t.entries

end Table

namespace Form

/-- A form without its type, constness and layout. -/
def outline : Form → Form
  | composite l k _ => composite l k {}
  | enum l => enum l
  | typedef l _ => typedef l .void
  | var l _ _ => var l .void false
  | function l _ => function l .void
  | builtin t => builtin t

@[simp] theorem outline_withLayout (f : Form) (y : Layout) : (f.withLayout y).outline = f.outline := by
  cases f <;> rfl

@[simp] theorem outline_withConst (f : Form) (b : Bool) : (f.withConst b).outline = f.outline := by
  cases f <;> rfl

theorem isBuiltin_of_outline {f f' : Form} (h : f'.outline = f.outline) :
    f'.isBuiltin = f.isBuiltin := by
  cases f <;> cases f' <;> simp_all [outline, isBuiltin]

def isTag : Form → Bool
  | composite .. | enum _ => true
  | _ => false

theorem isTag_of_outline {f f' : Form} (h : f'.outline = f.outline) : f'.isTag = f.isTag := by
  cases f <;> cases f' <;> simp_all [outline, isTag]

theorem isComposite_of_outline {f f' : Form} (h : f'.outline = f.outline) :
    f'.isComposite = f.isComposite := by
  cases f <;> cases f' <;> simp_all [outline, isComposite]

theorem isTag_of_isComposite {f : Form} (h : f.isComposite = true) : f.isTag = true := by
  cases f <;> first | rfl | cases h

theorem isComposite_eq_false_of_isTag {f : Form} (h : f.isTag = false) : f.isComposite = false := by
  cases f <;> first | rfl | cases h

theorem isBuiltin_of_isTag {f : Form} (h : f.isTag = true) : f.isBuiltin = false := by
  cases f <;> first | rfl | cases h

theorem exists_of_isBuiltin {f : Form} (h : f.isBuiltin = true) : ∃ t, f = builtin t := by
  cases f <;> first | exact ⟨_, rfl⟩ | cases h

theorem location?_of_outline {f f' : Form} (h : f'.outline = f.outline) :
    f'.location? = f.location? := by
  cases f <;> cases f' <;> simp_all [outline, location?]

theorem cursorKind?_of_outline {f f' : Form} (h : f'.outline = f.outline) :
    f'.cursorKind? = f.cursorKind? := by
  cases f with
  | composite _ k _ =>
    cases f' with
    | composite => cases h; cases k <;> rfl
    | _ => cases h
  | _ =>
    cases f' <;> cases h
    rfl

theorem isTag_of_cursorKind? {f : Form} {k : CursorKind} (h : f.cursorKind? = some k) :
    f.isTag = k.isTag := by
  cases f with
  | composite _ kind _ => cases kind <;> cases h <;> rfl
  | builtin => cases h
  | _ => cases h; rfl

end Form

namespace Global

/-- What stays of a global for good. -/
def outline (g : Global) : Global := ⟨g.name, g.form.outline⟩

theorem outline_eq {g g' : Global} :
    g'.outline = g.outline ↔ g'.name = g.name ∧ g'.form.outline = g.form.outline := by
  simp [outline]

theorem id_of_outline {g g' : Global} (h : g'.outline = g.outline) : g'.id = g.id :=
  congrArg Name.id (outline_eq.1 h).1

theorem isBuiltin_of_outline {g g' : Global} (h : g'.outline = g.outline) :
    g'.isBuiltin = g.isBuiltin :=
  Form.isBuiltin_of_outline (outline_eq.1 h).2

theorem isTag_of_outline {g g' : Global} (h : g'.outline = g.outline) :
    g'.form.isTag = g.form.isTag :=
  Form.isTag_of_outline (outline_eq.1 h).2

theorem isTag_eq_false_of_type? {g : Global} {t : CType} (h : g.type? = some t) :
    g.form.isTag = false := by
  unfold type? at h
  cases hf : g.form <;> rw [hf] at h <;> first | rfl | cases h

theorem type?_withType {g : Global} (h : g.form.isTag = false) (t : CType) :
    (g.withType t).type? = some t := by
  unfold withType type?
  cases hf : g.form <;> rw [hf] at h <;> first | rfl | cases h

@[simp] theorem outline_withLayout (g : Global) (y : Layout) :
    (g.withLayout y).outline = g.outline := by
  simp [outline, withLayout]

theorem outline_withType {g : Global} (own : g.isBuiltin = false) (t : CType) :
    (g.withType t).outline = g.outline := by
  obtain ⟨name, form⟩ := g
  cases form <;> first | rfl | cases own

end Global

namespace Registry

/-- The identities are those below the number of globals, each global knows its own, and each
came from the one canonical cursor that is registered under it. -/
structure Sound (u : SourceUnit) (r : Registry) : Prop where
  held : ∀ id, (∃ g, r.globals.get? id = some g) ↔ 0 ≤ id ∧ id < r.size
  own : ∀ {id g}, r.globals.get? id = some g → g.id = id
  born : ∀ {c id}, r.ids.get? c = some id →
    ∃ g g₀ notes, r.globals.get? id = some g ∧ r.newGlobal u c id = .ok (g₀, notes) ∧
      g.outline = g₀.outline
  single : ∀ {c c' id}, r.ids.get? c = some id → r.ids.get? c' = some id → c = c'

/-- What a later registry has kept of an earlier one. -/
structure Grows (r r' : Registry) : Prop where
  builtins : r'.builtins = r.builtins
  ids : ∀ {c id}, r.ids.get? c = some id → r'.ids.get? c = some id
  globals : ∀ {id g}, r.globals.get? id = some g →
    ∃ g', r'.globals.get? id = some g' ∧ g'.outline = g.outline
  poisoned : ∀ {id}, id ∈ r.poisoned → id ∈ r'.poisoned

theorem Grows.refl (r : Registry) : Grows r r := ⟨rfl, id, fun h => ⟨_, h, rfl⟩, id⟩

theorem Grows.trans {a b c : Registry} (h : Grows a b) (h' : Grows b c) : Grows a c where
  builtins := h'.builtins.trans h.builtins
  ids hc := h'.ids (h.ids hc)
  globals hg := by
    obtain ⟨g', hg', he'⟩ := h.globals hg
    obtain ⟨g'', hg'', he''⟩ := h'.globals hg'
    exact ⟨g'', hg'', he''.trans he'⟩
  poisoned hp := h'.poisoned (h.poisoned hp)

theorem newGlobal_congr {r r' : Registry} (h : r'.builtins = r.builtins) (u : SourceUnit)
    (c : CursorId) (id : Int) : r'.newGlobal u c id = r.newGlobal u c id := by
  simp only [newGlobal, h]

theorem Sound.congr {u : SourceUnit} {r r' : Registry} (h : r.Sound u)
    (hg : r'.globals = r.globals) (hi : r'.ids = r.ids) (hb : r'.builtins = r.builtins) :
    r'.Sound u where
  held id := by simpa only [size, hg] using h.held id
  own h' := h.own (hg ▸ h')
  born h' := by
    obtain ⟨g, g₀, notes, hget, hnew, ho⟩ := h.born (hi ▸ h')
    exact ⟨g, g₀, notes, hg ▸ hget, (newGlobal_congr hb u _ _).trans hnew, ho⟩
  single h₁ h₂ := h.single (hi ▸ h₁) (hi ▸ h₂)

theorem newGlobal_id {r : Registry} {u : SourceUnit} {c : CursorId} {id : Int} {g : Global}
    {notes : List Note} (h : r.newGlobal u c id = .ok (g, notes)) : g.id = id := by
  unfold newGlobal at h
  split at h
  · cases h; rfl
  · cases hf : u.formOf c with
    | error e => rw [hf] at h; cases h
    | ok f => rw [hf] at h; cases h; rfl

theorem Sound.get?_size {u : SourceUnit} {r : Registry} (h : r.Sound u) :
    r.globals.get? r.size = none := by
  cases hg : r.globals.get? r.size with
  | none => rfl
  | some g => exact absurd ((h.held _).1 ⟨g, hg⟩).2 (by omega)

theorem sound_empty (u : SourceUnit) (b : Builtins) : Sound u { builtins := b } where
  held id := by
    constructor
    · rintro ⟨g, hg⟩; cases hg
    · rintro ⟨h0, h1⟩
      change id < ((0 : Nat) : Int) at h1
      omega
  own hg := by cases hg
  born hc := by cases hc
  single hc := by cases hc

section register

variable {u : SourceUnit} {r : Registry} {c : CursorId} {g : Global} {notes : List Note}

theorem Sound.register (h : r.Sound u) (hg : r.newGlobal u c r.size = .ok (g, notes)) :
    (r.register c g).Sound u := by
  have hid : g.id = r.size := newGlobal_id hg
  have hfree : r.globals.get? g.id = none := by rw [hid]; exact h.get?_size
  have hsize : (r.register c g).size = r.size + 1 := by
    simp [size, Registry.register, Table.size_insert, hfree]
  refine ⟨fun id => ?_, ?_, ?_, ?_⟩
  · rw [hsize]
    simp only [Registry.register, Table.get?_insert]
    by_cases he : id = g.id
    · simp only [he, if_true]
      refine ⟨fun _ => by omega, fun _ => ⟨g, rfl⟩⟩
    · simp only [he, if_false, h.held id]
      omega
  · intro id g' hg'
    simp only [Registry.register, Table.get?_insert] at hg'
    split at hg'
    · rename_i he; cases hg'; exact he.symm
    · exact h.own hg'
  · intro c' id hc'
    simp only [Registry.register, Table.get?_insert] at hc' ⊢
    split at hc'
    · rename_i he
      cases hc'
      exact ⟨g, g, notes, by simp, by rw [he, hid]; exact hg, rfl⟩
    · obtain ⟨g', g₀, ns, hg', hn, ho⟩ := h.born hc'
      have : id ≠ g.id := by rintro rfl; rw [hfree] at hg'; cases hg'
      exact ⟨g', g₀, ns, by simp [this, hg'], hn, ho⟩
  · intro c₁ c₂ id h₁ h₂
    have fresh : ∀ {c'}, r.ids.get? c' = some g.id → False := by
      intro c' hc'
      obtain ⟨g', _, _, hg', _⟩ := h.born hc'
      rw [hfree] at hg'; cases hg'
    simp only [Registry.register, Table.get?_insert] at h₁ h₂
    split at h₁ <;> split at h₂
    · simp_all
    · cases h₁; exact (fresh h₂).elim
    · cases h₂; exact (fresh h₁).elim
    · exact h.single h₁ h₂

theorem Sound.grows_register (h : r.Sound u) (hc : r.ids.get? c = none)
    (hg : r.newGlobal u c r.size = .ok (g, notes)) : Grows r (r.register c g) where
  builtins := rfl
  ids {c' id} hc' := by
    have : c' ≠ c := by rintro rfl; rw [hc] at hc'; cases hc'
    simpa [Registry.register, this] using hc'
  globals {id g'} hg' := by
    have : id ≠ g.id := by
      rintro rfl
      rw [newGlobal_id hg, h.get?_size] at hg'; cases hg'
    exact ⟨g', by simpa [Registry.register, this] using hg', rfl⟩
  poisoned hp := hp

end register

section update

variable {u : SourceUnit} {r : Registry} {g g' : Global}

theorem Sound.update (h : r.Sound u) (hg : r.globals.get? g.id = some g')
    (ho : g.outline = g'.outline) : (r.update g).Sound u where
  held id := by
    have hsize : (r.update g).size = r.size := by
      simp [size, Registry.update, Table.size_insert, hg]
    rw [hsize, ← h.held id]
    simp only [Registry.update, Table.get?_insert]
    split
    · rename_i he; subst he; simp [hg]
    · rfl
  own {id g''} hg'' := by
    simp only [Registry.update, Table.get?_insert] at hg''
    split at hg''
    · rename_i he; cases hg''; exact he.symm
    · exact h.own hg''
  born {c id} hc := by
    obtain ⟨g₁, g₀, ns, h₁, hn, ho₁⟩ := h.born hc
    by_cases he : id = g.id
    · subst he
      rw [hg] at h₁; cases h₁
      exact ⟨g, g₀, ns, by simp [Registry.update], hn, ho.trans ho₁⟩
    · exact ⟨g₁, g₀, ns, by simp [Registry.update, he, h₁], hn, ho₁⟩
  single := h.single

theorem grows_update (hg : r.globals.get? g.id = some g') (ho : g.outline = g'.outline) :
    Grows r (r.update g) where
  builtins := rfl
  ids := id
  globals {id g₁} h₁ := by
    by_cases he : id = g.id
    · subst he
      rw [hg] at h₁; cases h₁
      exact ⟨g, by simp [Registry.update], ho⟩
    · exact ⟨g₁, by simp [Registry.update, he, h₁], rfl⟩
  poisoned := id

end update

theorem Sound.poison {u : SourceUnit} {r : Registry} (h : r.Sound u) (id : Int) :
    (r.poison id).Sound u :=
  ⟨h.held, h.own, h.born, h.single⟩

theorem grows_poison (r : Registry) (id : Int) : Grows r (r.poison id) :=
  ⟨rfl, fun h => h, fun h => ⟨_, h, rfl⟩, fun h => by simp [Registry.poison, h]⟩

/-- The global registered for a cursor's declaration. -/
def globalOf? (r : Registry) (u : SourceUnit) (c : CursorId) : Option Global :=
  (r.idOf? u c).bind r.globals.get?

theorem Sound.globalOf?_eq_some {u : SourceUnit} {r : Registry} (h : r.Sound u) {c : CursorId}
    {g : Global} : r.globalOf? u c = some g ↔
      r.idOf? u c = some g.id ∧ r.globals.get? g.id = some g := by
  unfold globalOf?
  constructor
  · intro hg
    obtain ⟨id, hid, hget⟩ := Option.bind_eq_some_iff.1 hg
    have := h.own hget
    subst this
    exact ⟨hid, hget⟩
  · rintro ⟨hid, hget⟩
    rw [hid]; exact hget

theorem globalOf?_update {r : Registry} {u : SourceUnit} {c : CursorId} {g : Global}
    (h : r.idOf? u c = some g.id) : (r.update g).globalOf? u c = some g := by
  have hid : (r.update g).idOf? u c = some g.id := h
  have hget : (r.update g).globals.get? g.id = some g := by simp [update]
  rw [globalOf?, hid]
  exact hget

theorem Sound.exists_global {u : SourceUnit} {r : Registry} (h : r.Sound u) {c : CursorId}
    {id : Int} (hc : r.idOf? u c = some id) : ∃ g, r.globals.get? id = some g ∧ g.id = id := by
  obtain ⟨g, _, _, hg, _⟩ := h.born hc
  exact ⟨g, hg, h.own hg⟩

theorem Grows.idOf? {r r' : Registry} (h : Grows r r') {u : SourceUnit} {c : CursorId} {id : Int}
    (hc : r.idOf? u c = some id) : r'.idOf? u c = some id :=
  h.ids hc

theorem Grows.globalOf? {r r' : Registry} (h : Grows r r') {u : SourceUnit} {c : CursorId}
    {g : Global} (hg : r.globalOf? u c = some g) :
    ∃ g', r'.globalOf? u c = some g' ∧ g'.outline = g.outline := by
  obtain ⟨id, hid, hget⟩ := Option.bind_eq_some_iff.1 hg
  obtain ⟨g', hget', ho⟩ := h.globals hget
  exact ⟨g', Option.bind_eq_some_iff.2 ⟨id, h.idOf? hid, hget'⟩, ho⟩

/-- The global under an identity has a form that `p` accepts. -/
def HoldsForm (r : Registry) (p : Form → Bool) (id : Int) : Prop :=
  ∃ g, r.globals.get? id = some g ∧ p g.form = true

theorem Grows.holdsForm {r r' : Registry} {p : Form → Bool} {id : Int} (h : Grows r r')
    (hp : ∀ {f f' : Form}, f'.outline = f.outline → p f' = p f) (hf : r.HoldsForm p id) :
    r'.HoldsForm p id := by
  obtain ⟨g, hg, hf⟩ := hf
  obtain ⟨g', hg', ho⟩ := h.globals hg
  exact ⟨g', hg', (hp (Global.outline_eq.1 ho).2).trans hf⟩

theorem holdsForm_update {p : Form → Bool} (r : Registry) {g : Global} (h : p g.form = true) :
    (r.update g).HoldsForm p g.id :=
  ⟨g, by simp [update], h⟩

def HoldsTag (r : Registry) (id : Int) : Prop :=
  ∃ g, r.globals.get? id = some g ∧ g.form.isTag = true

theorem Grows.holdsTag {r r' : Registry} (h : Grows r r') {id : Int} (ht : r.HoldsTag id) :
    r'.HoldsTag id :=
  h.holdsForm Form.isTag_of_outline ht

theorem holdsTag_update (r : Registry) {g : Global} (h : g.form.isTag = true) :
    (r.update g).HoldsTag g.id :=
  holdsForm_update r h

theorem Sound.external_of_builtin {u : SourceUnit} {r : Registry} (h : r.Sound u) {c : CursorId}
    {g : Global} {t : CType} (hg : r.globalOf? u c = some g) (hf : g.form = .builtin t) :
    ∃ external, r.builtins.resolve? u (u.canonical c) = some external ∧
      t = .named external true none := by
  obtain ⟨id, hid, hget⟩ := Option.bind_eq_some_iff.1 hg
  obtain ⟨g', g₀, notes, hget', hnew, ho⟩ := h.born hid
  rw [hget] at hget'; cases hget'
  have hform : g₀.form = .builtin t := by
    have := (Global.outline_eq.1 ho).2
    rw [hf] at this
    cases h₀ : g₀.form <;> rw [h₀] at this <;> cases this
    rfl
  unfold newGlobal at hnew
  split at hnew
  · rename_i external hext
    cases hnew; cases hform
    exact ⟨external, hext, rfl⟩
  · cases hn : u.formOf (u.canonical c) with
    | error e => rw [hn] at hnew; cases hnew
    | ok f =>
      rw [hn] at hnew; cases hnew
      unfold SourceUnit.formOf at hn
      split at hn <;> cases hn <;> cases hform

theorem Sound.refs_of_builtin {u : SourceUnit} {r : Registry} (h : r.Sound u) {c : CursorId}
    {g : Global} {t : CType} (hg : r.globalOf? u c = some g) (hf : g.form = .builtin t) :
    t.refs = [] := by
  obtain ⟨external, -, rfl⟩ := h.external_of_builtin hg hf
  rfl

theorem Sound.form_of_own {u : SourceUnit} {r : Registry} (h : r.Sound u) {c : CursorId}
    {g : Global} (hg : r.globalOf? u c = some g) (hb : g.isBuiltin = false) :
    ∃ f, u.formOf (u.canonical c) = .ok f ∧ g.form.outline = f.outline := by
  obtain ⟨id, hid, hget⟩ := Option.bind_eq_some_iff.1 hg
  obtain ⟨g', g₀, notes, hget', hnew, ho⟩ := h.born hid
  rw [hget] at hget'; cases hget'
  unfold newGlobal at hnew
  split at hnew
  · cases hnew
    rw [Global.isBuiltin_of_outline ho] at hb
    cases hb
  · cases hn : u.formOf (u.canonical c) with
    | error e => rw [hn] at hnew; cases hnew
    | ok f =>
      rw [hn] at hnew; cases hnew
      exact ⟨f, rfl, (Global.outline_eq.1 ho).2⟩

theorem Sound.cursorKind?_eq {u : SourceUnit} {r : Registry} (h : r.Sound u) {c : CursorId}
    {g : Global} (hg : r.globalOf? u c = some g) (hb : g.isBuiltin = false) :
    g.form.cursorKind? = some (u.kind (u.canonical c)) := by
  obtain ⟨f, hf, ho⟩ := h.form_of_own hg hb
  rw [Form.cursorKind?_of_outline ho]
  unfold SourceUnit.formOf at hf
  split at hf <;> cases hf <;> rename_i hk <;> rw [hk] <;> rfl

theorem Sound.location?_eq {u : SourceUnit} {r : Registry} (h : r.Sound u) {c : CursorId}
    {g : Global} (hg : r.globalOf? u c = some g) (hb : g.isBuiltin = false) :
    g.location? = some (u.locationOf (u.canonical c)) := by
  obtain ⟨f, hf, ho⟩ := h.form_of_own hg hb
  rw [Global.location?, Form.location?_of_outline ho]
  unfold SourceUnit.formOf at hf
  split at hf <;> cases hf <;> rfl

theorem Sound.canonical_eq {u : SourceUnit} {r : Registry} (h : r.Sound u) {c d : CursorId}
    {id : Int} (hc : r.idOf? u c = some id) (hd : r.idOf? u d = some id) :
    u.canonical c = u.canonical d :=
  h.single hc hd

end Registry

end DeclAtlas
