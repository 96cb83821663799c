import DeclAtlas.Proofs.Written
import DeclAtlas.Snapshot

/-! The graph as JSON, there and back. Validation gives a value back from its dump exactly where its
types nest within the limit and its keys are short enough to be read; and whatever validates at all is
such a value, so that validation is a normalisation. -/

namespace DeclAtlas

open Json Json.Checked

section types

variable {α : Type} {outcomes : List (String × Checked α)} {key k : String} {c : Checked α} {a d : α}

@[simp] theorem requiredOutcome_cons : requiredOutcome ((k, c) :: outcomes) key =
    if key = k then c.under key else requiredOutcome outcomes key := by
  unfold requiredOutcome
  rw [lookup_cons_eq_ite]
  by_cases h : key = k <;> simp only [h, if_true, if_false]

@[simp] theorem optionalOutcome_cons : optionalOutcome ((k, c) :: outcomes) key d =
    if key = k then c.under key else optionalOutcome outcomes key d := by
  unfold optionalOutcome
  rw [lookup_cons_eq_ite]
  by_cases h : key = k <;> simp only [h, if_true, if_false]

@[simp] theorem BaseKind.ofWord?_word (k : BaseKind) : ofWord? k.word = some k := by
  cases k <;> decide

@[simp] theorem CompositeKind.ofWord?_word (k : CompositeKind) : ofWord? k.word = some k := by
  cases k <;> decide

@[simp] theorem asOption_ofOption_int (o : Option Int) :
    asOption asInt (.ofOption .int o) = .ok o := by
  cases o <;> rfl

mutual

theorem typeAt_toJson : ∀ (t : CType) {n : Nesting}, t.fits n = true → typeAt n t.toJson = .ok t
  | .void, n, h => by
    simp only [CType.fits, Bool.not_eq_true'] at h
    simp [CType.toJson, typeAt, typeOfKind, familyOfKind, h]
  | .base k, n, h => by
    simp only [CType.fits, Bool.not_eq_true'] at h
    simp [CType.toJson, typeAt, typeOfKind, familyOfKind, h, asWord]
  | .named name external ref, n, h => by
    simp only [CType.fits, Bool.not_eq_true'] at h
    simp [CType.toJson, typeAt, typeOfKind, familyOfKind, h, asString, asBool]
  | .pointer t isConst, n, h => by
    simp only [CType.fits, Bool.and_eq_true, Bool.not_eq_true'] at h
    simp [CType.toJson, typeAt, typeOfKind, familyOfKind, h, typesIn, asBool, typeAt_toJson t h.2]
  | .array t size, n, h => by
    simp only [CType.fits, Bool.and_eq_true, Bool.not_eq_true'] at h
    simp [CType.toJson, typeAt, typeOfKind, familyOfKind, h, typesIn, asInt, typeAt_toJson t h.2]
  | .prototype ret args variadic, n, h => by
    simp only [CType.fits, Bool.and_eq_true, Bool.not_eq_true'] at h
    simp [CType.toJson, typeAt, typeOfKind, familyOfKind, h, typesIn, paramsIn,
      paramsAt, asBool, typeAt_toJson ret h.1.2, paramItems_toJson args h.2]
  | .functionPointer ret args variadic, n, h => by
    simp only [CType.fits, Bool.and_eq_true, Bool.not_eq_true'] at h
    simp [CType.toJson, typeAt, typeOfKind, familyOfKind, h, typesIn, paramsIn,
      paramsAt, asBool, typeAt_toJson ret h.1.2, paramItems_toJson args h.2]
  | .enum ref, n, h => by
    simp only [CType.fits, Bool.not_eq_true'] at h
    simp [CType.toJson, typeAt, typeOfKind, familyOfKind, h, asInt]
  | .composite ref, n, h => by
    simp only [CType.fits, Bool.not_eq_true'] at h
    simp [CType.toJson, typeAt, typeOfKind, familyOfKind, h, asInt]

theorem paramItems_toJson : ∀ (ps : List (Param CType)) {n : Nesting} {i : Nat},
    paramsFit n ps = true → paramItems (n.enter .parameters) i (paramsToJson ps) = .ok ps
  | [], _, _, _ => rfl
  | ⟨name, t⟩ :: rest, n, i, h => by
    simp only [paramsFit, Bool.and_eq_true, Bool.not_eq_true'] at h
    simp [paramsToJson, paramItems, h, paramAt, typesIn, asString, typeAt_toJson t h.1.2,
      paramItems_toJson rest h.2]

end

theorem requiredOutcome_eq_ok (h : requiredOutcome outcomes key = .ok a) :
    outcomes.lookup key = some (.ok a) := by
  unfold requiredOutcome at h
  split at h
  · rename_i c hc
    rw [hc, under_eq_ok.1 h]
  · cases h

theorem optionalOutcome_eq_ok (h : optionalOutcome outcomes key d = .ok a) :
    outcomes.lookup key = some (.ok a) ∨ a = d := by
  unfold optionalOutcome at h
  split at h
  · rename_i c hc
    rw [hc, under_eq_ok.1 h]
    exact .inl rfl
  · cases h
    exact .inr rfl

theorem fits_of_typeOfKind {kind : String} {fields : List (String × Json)}
    {types : List (String × Checked CType)} {params : List (String × Checked (List (Param CType)))}
    {n : Nesting} {t : CType} (shallow : (n.enter (familyOfKind kind)).tooDeep = false)
    (ht : ∀ {key t}, types.lookup key = some (.ok t) → t.fits (n.enter (familyOfKind kind)) = true)
    (hp : ∀ {key ps}, params.lookup key = some (.ok ps) →
      paramsFit (n.enter (familyOfKind kind)) ps = true)
    (h : typeOfKind kind fields types params = some (.ok t)) : t.fits n = true := by
  have args {args : List (Param CType)} (h : optionalOutcome params "args" [] = .ok args) :
      paramsFit (n.enter (familyOfKind kind)) args = true := by
    rcases optionalOutcome_eq_ok h with h | rfl
    · exact hp h
    · rfl
  have here : (!(n.enter (familyOfKind kind)).tooDeep) = true := by rw [shallow]; rfl
  unfold typeOfKind at h
  split at h <;> simp only [Option.some.injEq, ok.injEq, seq_eq_ok, map_eq_ok, reduceCtorEq] at h
  · subst h
    exact here
  · obtain ⟨_, -, rfl⟩ := h
    exact here
  · obtain ⟨_, ⟨_, ⟨_, -, rfl⟩, _, -, rfl⟩, _, -, rfl⟩ := h
    exact here
  · obtain ⟨_, ⟨t, h, rfl⟩, _, -, rfl⟩ := h
    exact Bool.and_eq_true_iff.2 ⟨here, ht (requiredOutcome_eq_ok h)⟩
  · obtain ⟨_, ⟨t, h, rfl⟩, _, -, rfl⟩ := h
    exact Bool.and_eq_true_iff.2 ⟨here, ht (requiredOutcome_eq_ok h)⟩
  · obtain ⟨_, ⟨_, ⟨ret, h, rfl⟩, ps, hps, rfl⟩, _, -, rfl⟩ := h
    exact Bool.and_eq_true_iff.2
      ⟨Bool.and_eq_true_iff.2 ⟨here, ht (requiredOutcome_eq_ok h)⟩, args hps⟩
  · obtain ⟨_, ⟨_, ⟨ret, h, rfl⟩, ps, hps, rfl⟩, _, -, rfl⟩ := h
    exact Bool.and_eq_true_iff.2
      ⟨Bool.and_eq_true_iff.2 ⟨here, ht (requiredOutcome_eq_ok h)⟩, args hps⟩
  · obtain ⟨_, -, rfl⟩ := h
    exact here
  · obtain ⟨_, -, rfl⟩ := h
    exact here

mutual

/-- Whatever is read as a type at a place is within the limit there. -/
theorem fits_of_typeAt : ∀ (j : Json) {n : Nesting} {t : CType}, typeAt n j = .ok t → t.fits n = true
  | .obj fields, n, t, h => by
    rw [typeAt] at h
    split at h
    · cases h
    · dsimp only at h
      split at h
      · rename_i hc
        rw [under_eq_ok] at h
        split at h
        · cases h
        · rename_i shallow
          subst h
          exact fits_of_typeOfKind (by simpa using shallow) (fits_of_typesIn fields)
            (fits_of_paramsIn fields) hc
      · cases h
    · cases h
  | .null, _, _, h | .bool _, _, _, h | .int _, _, _, h | .decimal _ _, _, _, h
  | .nonFinite, _, _, h | .str _, _, _, h | .arr _, _, _, h => by
    simp [typeAt] at h

theorem fits_of_typesIn : ∀ (fields : List (String × Json)) {n : Nesting} {key : String} {t : CType},
    (typesIn n fields).lookup key = some (.ok t) → t.fits n = true
  | [], _, _, _, h => by simp [typesIn] at h
  | (k, v) :: rest, n, key, t, h => by
    rw [typesIn, lookup_cons_eq_ite] at h
    split at h
    · exact fits_of_typeAt v (Option.some.inj h)
    · exact fits_of_typesIn rest h

theorem fits_of_paramsIn : ∀ (fields : List (String × Json)) {n : Nesting} {key : String}
    {ps : List (Param CType)}, (paramsIn n fields).lookup key = some (.ok ps) →
      paramsFit n ps = true
  | [], _, _, _, h => by simp [paramsIn] at h
  | (k, v) :: rest, n, key, ps, h => by
    rw [paramsIn, lookup_cons_eq_ite] at h
    split at h
    · exact fits_of_paramsAt v (Option.some.inj h)
    · exact fits_of_paramsIn rest h

theorem fits_of_paramsAt : ∀ (j : Json) {n : Nesting} {ps : List (Param CType)},
    paramsAt n j = .ok ps → paramsFit n ps = true
  | .arr items, n, ps, h => fits_of_paramItems items h
  | .null, _, _, h | .bool _, _, _, h | .int _, _, _, h | .decimal _ _, _, _, h
  | .nonFinite, _, _, h | .str _, _, _, h | .obj _, _, _, h => by
    simp [paramsAt] at h

theorem fits_of_paramItems : ∀ (items : List Json) {n : Nesting} {i : Nat}
    {ps : List (Param CType)}, paramItems (n.enter .parameters) i items = .ok ps →
      paramsFit n ps = true
  | [], _, _, _, h => by
    cases h
    rfl
  | v :: rest, n, i, ps, h => by
    simp only [paramItems, seq_eq_ok, map_eq_ok, under_eq_ok] at h
    obtain ⟨_, ⟨⟨name, t⟩, hv, rfl⟩, ps, hrest, rfl⟩ := h
    split at hv
    · cases hv
    · rename_i shallow
      rw [paramsFit, fits_of_paramAt v hv, fits_of_paramItems rest hrest]
      simpa using shallow

theorem fits_of_paramAt : ∀ (j : Json) {n : Nesting} {p : Param CType},
    paramAt n j = .ok p → p.type.fits n = true
  | .obj fields, n, p, h => by
    simp only [paramAt, seq_eq_ok, map_eq_ok] at h
    obtain ⟨_, ⟨_, -, rfl⟩, t, ht, rfl⟩ := h
    exact fits_of_typesIn fields (requiredOutcome_eq_ok ht)
  | .null, _, _, h | .bool _, _, _, h | .int _, _, _, h | .decimal _ _, _, _, h
  | .nonFinite, _, _, h | .str _, _, _, h | .arr _, _, _, h => by
    simp [paramAt] at h

end

theorem recovers_type : Recovers CType.toJson CType.ofJson fun t => t.fits {} = true :=
  ⟨fun h => typeAt_toJson _ h, fun h => fits_of_typeAt _ h⟩

end types

section records

theorem recovers_location : Recovers Location.toJson Location.ofJson fun _ => True :=
  .of_back fun l => by simp [Location.toJson, Location.ofJson, asObject, asString, asInt]

theorem recovers_layout : Recovers Layout.toJson Layout.ofJson fun _ => True :=
  .of_back fun l => by simp [Layout.toJson, Layout.ofJson, asObject, asInt]

theorem recovers_name : Recovers Name.toJson Name.ofJson fun _ => True :=
  .of_back fun n => by simp [Name.toJson, Name.ofJson, asObject, asString, asInt]

theorem recovers_enumItem : Recovers EnumItem.toJson EnumItem.ofJson fun _ => True :=
  .of_back fun i => by simp [EnumItem.toJson, EnumItem.ofJson, asObject, asString, asInt]

theorem recovers_enumItems : Recovers EnumItems.toJson EnumItems.ofJson fun _ => True :=
  .of_back fun e => by
    have items := recovers_enumItem.list.back (a := e.items) fun _ _ => trivial
    simp [EnumItems.toJson, EnumItems.ofJson, asObject, asWord, items]

theorem recovers_diagnostic : Recovers Diagnostic.toJson Diagnostic.ofJson fun _ => True :=
  .of_back fun d => by
    have location := (recovers_location.option fun _ => by simp [Location.toJson]).back
      (a := d.location) fun _ _ => trivial
    simp [Diagnostic.toJson, Diagnostic.ofJson, asObject, asString, location]

theorem fits_of_shape {word : String} {read : List (String × Json) → Checked Form}
    (shape : (word, read) ∈ Form.shapes) {fields : List (String × Json)} {form : Form}
    (h : read fields = .ok form) : form.type?.all (CType.fits {}) = true := by
  have typed {t : CType} (h : Json.optional fields "type" .void CType.ofJson = .ok t) :
      t.fits {} = true :=
    of_optional_eq_ok (p := fun t => t.fits {} = true) h rfl recovers_type.only
  simp only [Form.shapes, List.mem_cons, Prod.mk.injEq, List.not_mem_nil, or_false] at shape
  rcases shape with ⟨-, rfl⟩ | ⟨-, rfl⟩ | ⟨-, rfl⟩ | ⟨-, rfl⟩ | ⟨-, rfl⟩ | ⟨-, rfl⟩ <;>
    simp only [seq_eq_ok, map_eq_ok] at h
  · obtain ⟨_, ⟨_, ⟨_, -, rfl⟩, _, -, rfl⟩, _, -, rfl⟩ := h
    rfl
  · obtain ⟨_, -, rfl⟩ := h
    rfl
  · obtain ⟨_, ⟨_, -, rfl⟩, t, ht, rfl⟩ := h
    exact typed ht
  · obtain ⟨_, ⟨_, ⟨_, -, rfl⟩, t, ht, rfl⟩, _, -, rfl⟩ := h
    exact typed ht
  · obtain ⟨_, ⟨_, -, rfl⟩, t, ht, rfl⟩ := h
    exact typed ht
  · obtain ⟨t, ht, rfl⟩ := h
    obtain ⟨v, -, hv⟩ := required_eq_ok.1 ht
    exact recovers_type.only hv

theorem recovers_global : Recovers Global.toJson Global.ofJson fun g => g.fits = true := by
  have location (l : Location) := recovers_location.back (a := l) trivial
  have layout (l : Layout) := recovers_layout.back (a := l) trivial
  have name (n : Name) := recovers_name.back (a := n) trivial
  refine ⟨fun {g} h => ?_, fun {j g} h => ?_⟩
  · obtain ⟨n, form⟩ := g
    cases form <;>
      simp_all [Global.toJson, Form.toFields, Global.ofJson, Form.shapes, asTagged, asWord, asBool,
        Global.fits, Global.type?, Form.type?, recovers_type.back]
  · obtain ⟨shape, hs, fields, hread⟩ := asTagged_eq_ok h
    obtain ⟨⟨word, read⟩, hform, rfl⟩ := List.mem_map.1 hs
    simp only [seq_eq_ok, map_eq_ok] at hread
    obtain ⟨_, ⟨n, -, rfl⟩, form, hread, rfl⟩ := hread
    exact fits_of_shape hform hread

theorem recovers_member : Recovers Member.toJson Member.ofJson fun m => m.fits = true := by
  refine ⟨fun {m} h => ?_, fun {j m} h => ?_⟩
  · have type := recovers_type.back h
    cases m <;> simp_all [Member.toJson, Member.ofJson, Member.type, asTagged, asString, asInt]
  · obtain ⟨⟨word, read⟩, shape, fields, h⟩ := asTagged_eq_ok h
    have typed {t : CType} (h : required fields "type" CType.ofJson = .ok t) : t.fits {} = true := by
      obtain ⟨v, -, hv⟩ := required_eq_ok.1 h
      exact recovers_type.only hv
    simp only [List.mem_cons, Prod.mk.injEq, List.not_mem_nil, or_false] at shape
    rcases shape with ⟨-, rfl⟩ | ⟨-, rfl⟩ <;> simp only [seq_eq_ok, map_eq_ok] at h
    · obtain ⟨_, ⟨_, ⟨_, ⟨_, -, rfl⟩, t, ht, rfl⟩, _, -, rfl⟩, _, -, rfl⟩ := h
      exact typed ht
    · obtain ⟨_, ⟨_, ⟨_, ⟨_, -, rfl⟩, t, ht, rfl⟩, _, -, rfl⟩, _, -, rfl⟩ := h
      exact typed ht

end records

section tables

variable {α : Type} {write : α → Json} {read : Json → Checked α} {p : α → Prop}

theorem recovers_idSet : Recovers IdSet.toJson IdSet.ofJson fun _ => True :=
  .of_back fun s => by
    have ids := Recovers.int.checkItems_map (l := s.ids) (fun _ _ => trivial) 0
    simp [IdSet.toJson, IdSet.ofJson, Json.ofList, ids, IdSet.ofList_ids]

/-- Every value of a table passes `p`, and no key is longer than an integer that can be read. -/
def IdTable.Passes (p : α → Prop) (t : IdTable α) : Prop :=
  ∀ e ∈ t.entries, (toString e.1).length ≤ digitLimit ∧ p e.2

theorem checkEntries_map (h : Recovers write read p) {l : List (Int × α)}
    (hl : ∀ e ∈ l, (toString e.1).length ≤ digitLimit ∧ p e.2) :
    checkEntries read (l.map fun (id, a) => (toString id, write a)) = .ok l := by
  induction l with
  | nil => rfl
  | cons e rest ih =>
    obtain ⟨short, he⟩ := hl e (List.mem_cons_self ..)
    rw [List.map_cons, checkEntries, integerOfString_toString short, h.back he,
      ih fun e he => hl e (List.mem_cons_of_mem _ he)]
    rfl

theorem of_checkEntries (h : Recovers write read p) {fields : List (String × Json)}
    {l : List (Int × α)} (hl : checkEntries read fields = .ok l) :
    ∀ e ∈ l, (toString e.1).length ≤ digitLimit ∧ p e.2 := by
  induction fields generalizing l with
  | nil =>
    cases hl
    simp
  | cons field rest ih =>
    simp only [checkEntries, seq_eq_ok, map_eq_ok, under_eq_ok] at hl
    obtain ⟨_, ⟨_, ⟨id, hid, rfl⟩, a, ha, rfl⟩, entries, hrest, rfl⟩ := hl
    intro e he
    rcases List.mem_cons.1 he with rfl | he
    · exact ⟨length_le_of_integerOfString hid, h.only ha⟩
    · exact ih hrest e he

theorem recovers_idTable (h : Recovers write read p) :
    Recovers (IdTable.toJson write) (IdTable.ofJson read) (IdTable.Passes p) := by
  refine ⟨fun {t} ht => ?_, fun {j t} hj => ?_⟩
  · rw [IdTable.toJson, IdTable.ofJson, checkEntries_map h ht, map_ok, Table.ofList_entries]
  · unfold IdTable.ofJson at hj
    split at hj
    · obtain ⟨l, hl, rfl⟩ := map_eq_ok.1 hj
      intro e he
      exact of_checkEntries h hl e (Table.mem_of_get?_ofList (Table.get?_of_mem he))
    · cases hj

end tables

section graphs

/-- A graph that can be read back from how it is written: types nest within the limit, and no key of
its tables is longer than an integer that can be read. -/
def Graph.Readable (g : Graph) : Prop :=
  g.fits = true ∧ ∀ id ∈ g.members.keys ++ g.enumItems.keys, (toString id).length ≤ digitLimit

theorem Graph.readable_iff (g : Graph) : g.Readable ↔
    (∀ d ∈ g.declarations, d.fits = true) ∧
      IdTable.Passes (fun ms => ∀ m ∈ ms, Member.fits m = true) g.members ∧
      IdTable.Passes (fun _ => True) g.enumItems := by
  simp only [Readable, fits, Bool.and_eq_true, List.all_eq_true, IdTable.Passes, Table.keys,
    List.mem_append, List.mem_map]
  constructor
  · rintro ⟨⟨hd, hm⟩, short⟩
    exact ⟨hd, fun e he => ⟨short _ (.inl ⟨e, he, rfl⟩), hm e he⟩,
      fun e he => ⟨short _ (.inr ⟨e, he, rfl⟩), trivial⟩⟩
  · rintro ⟨hd, hm, hi⟩
    refine ⟨⟨hd, fun e he => (hm e he).2⟩, ?_⟩
    rintro _ (⟨e, he, rfl⟩ | ⟨e, he, rfl⟩)
    · exact (hm e he).1
    · exact (hi e he).1

theorem recovers_graph : Recovers Graph.toJson Graph.ofJson Graph.Readable := by
  have members := recovers_idTable recovers_member.list
  have items := recovers_idTable recovers_enumItems
  refine ⟨fun {g} h => ?_, fun {j g} h => ?_⟩
  · obtain ⟨hd, hm, hi⟩ := g.readable_iff.1 h
    have declarations := recovers_global.list.back hd
    have irregular := recovers_idSet.back (a := g.irregular) trivial
    have diagnostics := recovers_diagnostic.list.back (a := g.diagnostics) fun _ _ => trivial
    simp [Graph.toJson, Graph.ofJson, asObject, declarations, members.back hm, items.back hi,
      irregular, diagnostics]
  · obtain ⟨fields, h⟩ := asObject_eq_ok h
    simp only [seq_eq_ok, map_eq_ok] at h
    obtain ⟨_, ⟨_, ⟨_, ⟨_, ⟨ds, hd, rfl⟩, ms, hm, rfl⟩, is, hi, rfl⟩, _, -, rfl⟩, _, -, rfl⟩ := h
    refine (Graph.readable_iff _).2 ⟨?_, ?_, ?_⟩
    · exact of_optional_eq_ok (p := fun ds => ∀ d ∈ ds, d.fits = true) hd (by simp)
        recovers_global.list.only
    · exact of_optional_eq_ok hm (fun e he => by cases he) members.only
    · exact of_optional_eq_ok hi (fun e he => by cases he) items.only

theorem recovers_snapshotEntry :
    Recovers SnapshotEntry.toJson SnapshotEntry.ofJson fun e => e.global.fits = true := by
  refine ⟨fun {e} h => ?_, fun {j e} h => ?_⟩
  · simp [SnapshotEntry.toJson, SnapshotEntry.ofJson, asObject, asString, recovers_global.back h]
  · obtain ⟨fields, h⟩ := asObject_eq_ok h
    simp only [seq_eq_ok, map_eq_ok] at h
    obtain ⟨_, ⟨g, hg, rfl⟩, _, -, rfl⟩ := h
    obtain ⟨v, -, hv⟩ := required_eq_ok.1 hg
    exact recovers_global.only hv

theorem recovers_snapshot : Recovers Snapshot.toJson Snapshot.ofJson fun s => s.fits = true := by
  refine ⟨fun {s} h => ?_, fun {j s} h => ?_⟩
  · have entries := recovers_snapshotEntry.list.back (List.all_eq_true.1 h)
    simp [Snapshot.toJson, Snapshot.ofJson, asObject, asString, entries]
  · obtain ⟨fields, h⟩ := asObject_eq_ok h
    simp only [seq_eq_ok, map_eq_ok] at h
    obtain ⟨_, ⟨_, -, rfl⟩, es, hes, rfl⟩ := h
    obtain ⟨v, -, hv⟩ := required_eq_ok.1 hes
    exact List.all_eq_true.2 (recovers_snapshotEntry.list.only hv)

end graphs

section dumps

mutual

theorem tidy_type : ∀ t : CType, t.toJson.Tidy
  | .void | .base _ | .enum _ | .composite _ => by simp [CType.toJson]
  | .named _ _ ref => by cases ref <;> simp [CType.toJson, Json.ofOption]
  | .pointer t _ | .array t _ => by simp [CType.toJson, tidy_type t]
  | .prototype ret args _ | .functionPointer ret args _ => by
    simp [CType.toJson, tidy_type ret, tidy_params args]

theorem tidy_params : ∀ ps : List (Param CType), TidyItems (paramsToJson ps)
  | [] => trivial
  | ⟨name, t⟩ :: rest => by simp [paramsToJson, tidy_type t, tidy_params rest]

end

theorem tidy_list {α : Type} {write : α → Json} (h : ∀ a, (write a).Tidy) (l : List α) :
    (Json.ofList write l).Tidy := by
  rw [Json.ofList, Tidy]
  exact tidyItems_map h l

theorem tidy_location (l : Location) : l.toJson.Tidy := by simp [Location.toJson]

theorem tidy_global (g : Global) : g.toJson.Tidy := by
  obtain ⟨name, form⟩ := g
  cases form <;>
    simp [Global.toJson, Name.toJson, Form.toFields, tidy_location, tidy_type, Layout.toJson]

theorem tidy_member (m : Member) : m.toJson.Tidy := by
  cases m with
  | field _ _ _ owns => cases owns <;> simp [Member.toJson, tidy_type, Json.ofOption]
  | bitfield => simp [Member.toJson, tidy_type]

theorem tidy_enumItems (e : EnumItems) : e.toJson.Tidy := by
  have items : (Json.ofList EnumItem.toJson e.items).Tidy :=
    tidy_list (by simp [EnumItem.toJson]) _
  simp [EnumItems.toJson, items]

theorem tidy_diagnostic (d : Diagnostic) : d.toJson.Tidy := by
  obtain ⟨severity, name, location, message⟩ := d
  cases location <;> simp [Diagnostic.toJson, Json.ofOption, tidy_location]

theorem tidy_idTable {α : Type} {write : α → Json} (h : ∀ a, (write a).Tidy) (t : IdTable α) :
    (IdTable.toJson write t).Tidy := by
  refine ⟨?_, tidyFields_map (fun e => h e.2) t.entries⟩
  have keys : (t.entries.map fun e => (toString e.1, write e.2)).map Prod.fst =
      (t.entries.map Prod.fst).map toString := by simp [Function.comp_def]
  rw [keys]
  exact List.pairwise_map.2
    (List.Pairwise.imp (fun different same => different (toString_inj same)) t.distinct)

theorem tidy_graph (g : Graph) : g.toJson.Tidy := by
  have declarations := tidy_list tidy_global g.declarations
  have members := tidy_idTable (tidy_list tidy_member) g.members
  have items := tidy_idTable tidy_enumItems g.enumItems
  have irregular : g.irregular.toJson.Tidy := tidy_list (by simp) _
  have diagnostics := tidy_list tidy_diagnostic g.diagnostics
  simp [Graph.toJson, declarations, members, items, irregular, diagnostics]

theorem tidy_snapshot (s : Snapshot) : s.toJson.Tidy := by
  have entries : (Json.ofList SnapshotEntry.toJson s.entries).Tidy :=
    tidy_list (by simp [SnapshotEntry.toJson, tidy_global]) _
  simp [Snapshot.toJson, entries]

end dumps

section limits

theorem Nesting.enter_levels (f g : Family) (m : Nat) : (⟨f, m⟩ : Nesting).enter g =
    ⟨((⟨f, 0⟩ : Nesting).enter g).family, m + ((⟨f, 0⟩ : Nesting).enter g).levels⟩ := by
  unfold enter
  dsimp only
  split <;> simp

mutual

theorem CType.fits_mono : ∀ (t : CType) {f : Family} {m k : Nat}, k ≤ m →
    t.fits ⟨f, m⟩ = true → t.fits ⟨f, k⟩ = true
  | .void, f, m, k, hk, h | .base _, f, m, k, hk, h | .named .., f, m, k, hk, h
  | .enum _, f, m, k, hk, h | .composite _, f, m, k, hk, h => by
    rw [CType.fits, Nesting.enter_levels] at h ⊢
    simp only [Nesting.tooDeep, Bool.not_eq_true', decide_eq_false_iff_not] at h ⊢
    omega
  | .pointer t _, f, m, k, hk, h | .array t _, f, m, k, hk, h => by
    rw [CType.fits, Nesting.enter_levels, Bool.and_eq_true] at h ⊢
    refine ⟨?_, CType.fits_mono t (by omega) h.2⟩
    simp only [Nesting.tooDeep, Bool.not_eq_true', decide_eq_false_iff_not] at h ⊢
    omega
  | .prototype ret args _, f, m, k, hk, h | .functionPointer ret args _, f, m, k, hk, h => by
    rw [CType.fits, Nesting.enter_levels] at h ⊢
    simp only [Bool.and_eq_true] at h ⊢
    refine ⟨⟨?_, CType.fits_mono ret (by omega) h.1.2⟩, paramsFit_mono args (by omega) h.2⟩
    simp only [Nesting.tooDeep, Bool.not_eq_true', decide_eq_false_iff_not] at h ⊢
    omega

theorem paramsFit_mono : ∀ (ps : List (Param CType)) {f : Family} {m k : Nat}, k ≤ m →
    paramsFit ⟨f, m⟩ ps = true → paramsFit ⟨f, k⟩ ps = true
  | [], _, _, _, _, _ => rfl
  | ⟨_, t⟩ :: rest, f, m, k, hk, h => by
    rw [paramsFit, Nesting.enter_levels] at h ⊢
    simp only [Bool.and_eq_true] at h ⊢
    refine ⟨⟨?_, CType.fits_mono t (by omega) h.1.2⟩, paramsFit_mono rest hk h.2⟩
    simp only [Nesting.tooDeep, Bool.not_eq_true', decide_eq_false_iff_not] at h ⊢
    omega

end

theorem CType.fitsAlone_of_fits {t : CType} (h : t.fits {} = true) : t.fitsAlone = true := by
  have out {t : CType} {f : Family} (h : t.fits ⟨f, 2⟩ = true) : t.fits ⟨f, 1⟩ = true :=
    CType.fits_mono t (by decide) h
  have outs {ps : List (Param CType)} {f : Family} (h : paramsFit ⟨f, 2⟩ ps = true) :
      paramsFit ⟨f, 1⟩ ps = true := paramsFit_mono ps (by decide) h
  cases t with
  | void | base | named | enum | composite => exact h
  | pointer t | array t =>
    have inside := Bool.and_eq_true_iff.1 h
    exact Bool.and_eq_true_iff.2 ⟨rfl, out inside.2⟩
  | prototype ret args | functionPointer ret args =>
    have inside := Bool.and_eq_true_iff.1 h
    have result := Bool.and_eq_true_iff.1 inside.1
    exact Bool.and_eq_true_iff.2 ⟨Bool.and_eq_true_iff.2 ⟨rfl, out result.2⟩, outs inside.2⟩

end limits

/-- Dumping a value and validating the dump gives the value back exactly where `p` holds, and whatever
validates is such a value. As text, a dump is read back if its integers are not too long. -/
structure RoundTrips {α : Type} (dump : α → Except Failure Json) (validate : Json → Checked α)
    (p : α → Prop) : Prop where
  back : ∀ a, (∃ j, dump a = .ok j ∧ validate j = .ok a) ↔ p a
  normal : ∀ {j a}, validate j = .ok a → ∃ j', dump a = .ok j' ∧ validate j' = .ok a
  text : ∀ {a j}, dump a = .ok j → (∀ n ∈ j.integers, Short n) → Json.parse j.render = .ok j

theorem Json.Recovers.roundTrips {α : Type} {write : α → Json} {read : Json → Checked α}
    {p : α → Prop} {f : α → Bool} (h : Recovers write read p) (tidy : ∀ a, (write a).Tidy)
    (fits : ∀ {a}, p a → f a = true) : RoundTrips (fun a => encodeIf (f a) (write a)) read p := by
  have dumped {a : α} {j : Json} (h : encodeIf (f a) (write a) = .ok j) : j = write a := by
    unfold encodeIf at h
    split at h <;> cases h
    rfl
  have back {a : α} (ha : p a) : ∃ j, encodeIf (f a) (write a) = .ok j ∧ read j = .ok a :=
    ⟨write a, if_pos (fits ha), h.back ha⟩
  refine ⟨fun a => ⟨fun ⟨j, hj, ha⟩ => h.only ha, back⟩, fun ha => back (h.only ha), ?_⟩
  intro a j hj short
  rw [dumped hj] at short ⊢
  exact parse_render (tidy a) short

/-- Types, globals, members, graphs and snapshots round-trip through JSON exactly as far as their
types nest within the limit and the keys of their tables can be read, and validation of any JSON value
is a normalisation. -/
theorem json_round_trips :
    RoundTrips CType.encode CType.ofJson (fun t => t.fits {} = true) ∧
    RoundTrips Global.encode Global.ofJson (fun g => g.fits = true) ∧
    RoundTrips (fun m => encodeIf m.fits m.toJson) Member.ofJson (fun m => m.fits = true) ∧
    RoundTrips Graph.encode Graph.ofJson Graph.Readable ∧
    RoundTrips (fun s => encodeIf s.fits s.toJson) Snapshot.ofJson (fun s => s.fits = true) :=
  ⟨recovers_type.roundTrips tidy_type CType.fitsAlone_of_fits,
    recovers_global.roundTrips tidy_global id, recovers_member.roundTrips tidy_member id,
    recovers_graph.roundTrips tidy_graph And.left, recovers_snapshot.roundTrips tidy_snapshot id⟩

/-- A pointer to a pointer and so on, one level deeper than can be read. -/
def deepPointer : CType := (List.range 254).foldl (fun t _ => .pointer t false) .void

/-- It is written and then refused. -/
theorem deep_pointer_refused : deepPointer.encode = .ok deepPointer.toJson ∧
    ∀ t, CType.ofJson deepPointer.toJson ≠ .ok t := by
  let kinds : Checked CType → List IssueKind
    | .ok _ => []
    | .bad issues => issues.map (·.kind)
  have refused : kinds (CType.ofJson deepPointer.toJson) = [.tooDeep] := by decide +kernel
  have written : deepPointer.fitsAlone = true := by decide +kernel
  refine ⟨?_, fun t h => ?_⟩
  · rw [CType.encode, written]
    rfl
  · cases (congrArg kinds h).symm.trans refused

end DeclAtlas
