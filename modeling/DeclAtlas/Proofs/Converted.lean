import DeclAtlas.Proofs.Runs

/-! Conversion over a faithful recursion. What a conversion gives is the meaning of the type, and
every declaration that it refers to is anchored: someone answers for its listing. -/

namespace DeclAtlas

section meaning

variable {u : SourceUnit} {l l' : Listing}

/-- A result that is what it should be, with its references anchored. -/
def Listing.Renders {α : Type} (u : SourceUnit) (l : Listing) (refs : List Int)
    (meaning : Option α) (a : α) : Prop :=
  meaning = some a ∧ ∀ i ∈ refs, l.Anchored u i

/-- The meaning of a type, as far as a listing knows it. -/
def Listing.meaning (u : SourceUnit) (l : Listing) (n : Nat) : TypeId → CursorId → Option CType :=
  u.meaningWithin (l.registry.link? u) n

theorem Listing.Proceeds.link (h : l.Proceeds u l') (d : CursorId) :
    SourceUnit.Kept (l.registry.link? u d) (l'.registry.link? u d) :=
  h.succeeds.registry.link u d

theorem Listing.Proceeds.meaning (h : l.Proceeds u l') (n : Nat) (t : TypeId) (c : CursorId) :
    SourceUnit.Kept (l.meaning u n t c) (l'.meaning u n t c) :=
  SourceUnit.meaningWithin_mono h.link (Nat.le_refl n) t c

theorem Registry.link?_eq_some {r : Registry} {d : CursorId} {g : Global}
    (h : r.globalOf? u d = some g) : r.link? u d = some g.link := by
  rw [link?, h]; rfl

end meaning

/-- A recursion to depth `n` that does what it is asked for. -/
structure Recursion.Faithful (u : SourceUnit) (n : Nat) (r : Recursion) : Prop where
  convert : ∀ {S l} t c, l.Sound u →
    Runs u S l (r.convert t c) fun m l' => l'.Renders u m.refs (l'.meaning u n t c) m
  define : ∀ {S l} c, l.Sound u → l.Defines u S c →
    Runs u S l (r.define c) fun g l' =>
      l'.registry.globalOf? u c = some g ∧ (g.isBuiltin = true ∨ g.id ∈ l'.order)
  registers : ∀ {l l' c e}, l.Sound u → r.define c l = (.error e, l') → e.isLocal = true →
    ∃ id, l'.registry.idOf? u c = some id

variable {u : SourceUnit} {S : CursorId → Prop} {l : Listing} {r : Recursion} {n : Nat}

theorem runs_lookup (c : CursorId) (hs : l.Sound u) :
    Runs u S l (Listing.lookup u c) fun g l' => l'.registry.globalOf? u c = some g := by
  rcases h : Listing.lookup u c l with ⟨e | g, l'⟩
  · exact .of_error h (Listing.lookup_error h ▸ .halt e)
  · obtain ⟨r, notes, rfl, -, -, -, -, hg⟩ := Listing.lookup_ok hs h
    exact .of_ok h (.of_lookup h) hg

theorem runs_resolved (id : Int) :
    Runs u S l (Listing.resolved id) fun g l' => l'.registry.globals.get? id = some g := by
  unfold Runs Listing.resolved Registry.get
  cases hg : l.registry.globals.get? id with
  | none => exact .halt _
  | some g =>
    by_cases hp : id ∈ l.registry.poisoned
    · simp only [hp, if_true]; exact .halt _
    · simp only [hp, if_false]; exact ⟨.done, hg⟩

theorem runs_declareIncomplete (c : CursorId) (hs : l.Sound u) (place : u.isFound c = true ∨ S c)
    (undefined : u.definition? c = none) :
    Runs u S l (declareIncomplete u c) fun g l' =>
      l'.registry.globalOf? u c = some g ∧ (g.isBuiltin = true ∨ g.id ∈ l'.order) := by
  unfold declareIncomplete
  refine (runs_lookup c hs).bind hs fun g l₁ h₁ hg => .bind_read (.ite (fun h => ?_) fun h => ?_)
  · refine .pure ⟨hg, ?_⟩
    simpa [Listing.isListed_eq] using h
  · have hl : g.id ∉ l₁.order := by
      simp only [Listing.isListed_eq, Bool.or_eq_true, decide_eq_true_eq, not_or] at h
      exact h.2
    by_cases ht : g.form.isTag = true
    · have hv : Visit u S l₁ none ((l₁.note (.declaringIncomplete g.name)).enterIncomplete u c g) :=
        .noted _ (.incomplete place undefined hg ht hl .done)
      refine .of_ok ?_ hv ⟨?_, .inr (Listing.mem_enterIncomplete_order.2 (.inr rfl))⟩
      · unfold Listing.enterIncomplete recordNoMembers
        cases hf : g.form <;> rw [hf] at ht <;> first | rfl | cases ht
      · rw [Listing.enterIncomplete_registry]
        exact Registry.globalOf?_update (h₁.sound.registry.globalOf?_eq_some.1 hg).1
    · have hv : Visit u S l₁ (some (.notDeclarable (u.kind c).name (u.spellingOf c)))
          ((l₁.note (.declaringIncomplete g.name)).markIncomplete g.id) :=
        .noted _ (.undeclarable _ rfl)
      refine .of_error ?_ hv
      unfold recordNoMembers
      cases hf : g.form <;> rw [hf] at ht <;> first | rfl | exact absurd rfl ht

theorem runs_materialize (hr : r.Faithful u n) (hs : l.Sound u) {d : CursorId} {g : Global}
    (hd : (u.kind d).isTypeDecl = true) (hg : l.registry.globalOf? u d = some g)
    (ht : g.form.isTag = true) :
    Runs u S l (materialize u r d g) fun _ l' => g.id ∈ l'.order ∨ g.id ∈ l'.defining ∨
      ∃ k, u.definition? d = some k ∧ (u.isImplicit k = true → l'.Fulfilled u k) := by
  unfold materialize
  refine .bind_read (.ite (fun h => ?_) fun h => ?_)
  · simp only [Listing.isListed_eq, Bool.or_eq_true, decide_eq_true_eq] at h
    exact .pure (h.imp_right .inl)
  · cases hk : u.definition? d with
    | none =>
      have found : u.isFound d = true := by
        unfold SourceUnit.isFound
        cases h : u.kind d <;> rw [h] at hd <;> first | rfl | cases hd
      refine (runs_declareIncomplete d hs (.inl found) hk).bind hs fun g₁ l₁ h₁ hg₁ => .pure ?_
      obtain ⟨g', hg', ho⟩ := h₁.succeeds.registry.globalOf? hg
      obtain rfl := Option.some.inj (hg₁.1.symm.trans hg')
      rw [← Global.id_of_outline ho]
      refine .inl (hg₁.2.resolve_left ?_)
      rw [Global.isBuiltin_of_outline ho, Global.isBuiltin, Form.isBuiltin_of_isTag ht]
      exact Bool.false_ne_true
    | some k =>
      refine .ite (fun hi => ?_) fun hi => .pure (.inr (.inr ⟨k, rfl, fun h => absurd h hi⟩))
      have unlisted : g.id ∉ l.order := by
        simp only [Listing.isListed_eq, Bool.or_eq_true, decide_eq_true_eq, not_or] at h
        exact h.1
      refine (hr.define k hs (.inr ⟨hi, d, g, hd, hk, hg, ht, unlisted⟩)).bind hs
        fun g₁ l₁ _ hg₁ => .pure ?_
      exact .inr (.inr ⟨k, rfl, fun _ => ⟨g₁, hg₁⟩⟩)

theorem runs_materialized (hr : r.Faithful u n) (hs : l.Sound u) {d : CursorId} {g : Global}
    (hd : (u.kind d).isTypeDecl = true) (hg : l.registry.globalOf? u d = some g)
    (ht : g.form.isTag = true) (m : CType) (hm : g.reference = m) (hrefs : m.refs = [g.id]) :
    Runs u S l (do materialize u r d g; return m) fun m l' =>
      l'.Renders u m.refs ((l'.registry.link? u d).map Link.type) m := by
  refine (runs_materialize hr hs hd hg ht).bind hs fun _ l₁ h₁ hl => .pure ⟨?_, ?_⟩
  · rw [h₁.link d _ (Registry.link?_eq_some hg)]
    exact congrArg some hm
  · obtain ⟨g', hg', ho⟩ := h₁.succeeds.registry.globalOf? hg
    intro i hi
    obtain rfl : i = g.id := by simpa [hrefs] using hi
    have hb : g'.isBuiltin = false :=
      (Global.isBuiltin_of_outline ho).trans (Form.isBuiltin_of_isTag ht)
    refine ⟨d, g', hd, hg', Global.id_of_outline ho, hb, ?_, ?_⟩
    · rw [Global.id_of_outline ho]; exact fun _ => hl
    · rw [Global.isTag_of_outline ho, ht]; exact fun h => by cases h

theorem runs_reference (hr : r.Faithful u n) (hs : l.Sound u) {d : CursorId} {g : Global}
    (hd : (u.kind d).isTypeDecl = true) (hg : l.registry.globalOf? u d = some g)
    (hb : g.isBuiltin = false)
    (hi : (decide (u.kind d = .typedefDecl) && u.isImplicit (u.canonical d)) = false) :
    Runs u S l (do
      let g ← Listing.resolved g.id
      match g.form with
      | .composite .. => materialize u r d g; return .composite g.id
      | .enum _ => materialize u r d g; return .enum g.id
      | _ => return .named g.name.text false (some g.id)) fun m l' =>
      l'.Renders u m.refs ((l'.registry.link? u d).map Link.type) m := by
  refine (runs_resolved g.id).bind hs fun g₁ l₁ h₁ hget => ?_
  obtain ⟨g', hg₁, ho⟩ := h₁.succeeds.registry.globalOf? hg
  obtain rfl : g₁ = g' := by
    have := (h₁.sound.registry.globalOf?_eq_some.1 hg₁).2
    rw [Global.id_of_outline ho, hget] at this
    exact Option.some.inj this
  have hb₁ : g₁.isBuiltin = false := (Global.isBuiltin_of_outline ho).trans hb
  cases hf : g₁.form with
  | composite =>
    exact runs_materialized hr h₁.sound hd hg₁ (by rw [hf]; rfl) (.composite g₁.id)
      (by simp [Global.reference, hf]) rfl
  | enum =>
    exact runs_materialized hr h₁.sound hd hg₁ (by rw [hf]; rfl) (.enum g₁.id)
      (by simp [Global.reference, hf]) rfl
  | builtin => simp [Global.isBuiltin, hf, Form.isBuiltin] at hb₁
  | typedef | var | function =>
    refine .pure ⟨?_, fun i hi' => ?_⟩
    · rw [Registry.link?_eq_some hg₁]
      simp [Global.link, Global.reference, hf]
    · obtain rfl : i = g₁.id := by simpa [CType.refs] using hi'
      refine ⟨d, g₁, hd, hg₁, rfl, hb₁, ?_, fun _ => hi⟩
      rw [hf]; exact fun h => by cases h

theorem runs_declaredType (hr : r.Faithful u n) (hs : l.Sound u) (d : CursorId) :
    Runs u S l (declaredType u r d) fun m l' =>
      l'.Renders u m.refs (u.declaredMeaning (l'.registry.link? u) (l'.meaning u n) d) m := by
  unfold declaredType
  refine .ite (fun h => .pure ⟨by rw [SourceUnit.declaredMeaning, if_pos h], by simp [CType.refs]⟩)
    fun h => ?_
  have hd : (u.kind d).isTypeDecl = true := by simpa using h
  refine (runs_lookup d hs).bind hs fun g l₁ h₁ hg => ?_
  have hlink := Registry.link?_eq_some hg
  split
  case h_1 t hf =>
    refine .pure ⟨?_, by simp [h₁.sound.registry.refs_of_builtin hg hf]⟩
    simp [SourceUnit.declaredMeaning, hd, hlink, Global.link, Global.isBuiltin, Global.reference,
      Form.isBuiltin, hf]
  case h_2 hf =>
    have hb : g.isBuiltin = false := by
      unfold Global.isBuiltin
      cases h : g.form <;> first | rfl | exact absurd h (hf _)
    refine .ite (fun hi => ?_) fun hi => ?_
    · refine (hr.convert _ d h₁.sound).mono h₁.sound fun m l₂ h₂ hm => ⟨?_, hm.2⟩
      simp [SourceUnit.declaredMeaning, hd, h₂.link d _ hlink, Global.link, hb, hi, hm.1]
    · have hi : (decide (u.kind d = .typedefDecl) && u.isImplicit (u.canonical d)) = false := by
        simpa using hi
      refine (runs_reference hr h₁.sound hd hg hb hi).mono h₁.sound fun m l₂ h₂ hm => ⟨?_, hm.2⟩
      have hl := h₂.link d _ hlink
      have := hm.1
      rw [hl] at this
      simpa [SourceUnit.declaredMeaning, hd, hl, Global.link, hb, hi] using this

theorem Listing.Renders.cons {name : String} {t : CType} {ps : List (Param CType)}
    {x : Option CType} {xs : Option (List (Param CType))} (hx : x = some t)
    (ht : ∀ i ∈ t.refs, l.Anchored u i) (h : l.Renders u (CType.argRefs ps) xs ps) :
    l.Renders u (CType.argRefs (⟨name, t⟩ :: ps)) (x.bind fun t => xs.map (⟨name, t⟩ :: ·))
      (⟨name, t⟩ :: ps) := by
  refine ⟨by rw [hx, h.1]; rfl, fun i hi => ?_⟩
  rw [CType.argRefs] at hi
  rcases List.mem_append.1 hi with hi | hi
  · exact ht i hi
  · exact h.2 i hi

theorem runs_convertDeclared (hr : r.Faithful u n) (hs : l.Sound u) (ps : List CursorId) :
    Runs u S l (convertDeclared u r ps) fun ms l' =>
      l'.Renders u (CType.argRefs ms) (u.declaredMeanings (l'.meaning u n) ps) ms := by
  induction ps generalizing l with
  | nil => exact .pure ⟨rfl, by simp [CType.argRefs]⟩
  | cons p rest ih =>
    refine (hr.convert _ p hs).bind hs fun t l₁ h₁ ht => ?_
    refine (ih h₁.sound).map h₁.sound fun ms l₂ h₂ hms => ?_
    exact .cons (h₂.meaning n _ _ _ ht.1) (fun i hi => (ht.2 i hi).proceeds h₂) hms

theorem runs_convertUnnamed (hr : r.Faithful u n) (hs : l.Sound u) (c : CursorId)
    (ts : List TypeId) :
    Runs u S l (convertUnnamed r c ts) fun ms l' =>
      l'.Renders u (CType.argRefs ms) (SourceUnit.unnamedMeanings (l'.meaning u n) c ts) ms := by
  induction ts generalizing l with
  | nil => exact .pure ⟨rfl, by simp [CType.argRefs]⟩
  | cons t rest ih =>
    refine (hr.convert t c hs).bind hs fun m l₁ h₁ hm => ?_
    refine (ih h₁.sound).map h₁.sound fun ms l₂ h₂ hms => ?_
    exact .cons (h₂.meaning n _ _ _ hm.1) (fun i hi => (hm.2 i hi).proceeds h₂) hms

theorem Listing.Renders.signature {f : TypeId} {c : CursorId} {ret : CType}
    {ms : List (Param CType)} {conv : TypeId → CursorId → Option CType}
    (hk : (u.typeNode f).kind = .functionProto)
    (hret : l.Renders u ret.refs (conv (u.typeNode f).result c) ret)
    (hms : l.Renders u (CType.argRefs ms) (u.parameterMeanings conv f c) ms) :
    l.Renders u (ret.refs ++ CType.argRefs ms) (u.signatureMeaning conv f c)
      ⟨ret, ms, (u.typeNode f).variadic⟩ := by
  refine ⟨?_, fun i hi => ?_⟩
  · simp [SourceUnit.signatureMeaning, hret.1, hk, hms.1]
  · rcases List.mem_append.1 hi with hi | hi
    · exact hret.2 i hi
    · exact hms.2 i hi

theorem Listing.Renders.proceeds {l' : Listing} {t : TypeId} {c : CursorId} {m : CType}
    (h : l.Renders u m.refs (l.meaning u n t c) m) (hp : l.Proceeds u l') :
    l'.Renders u m.refs (l'.meaning u n t c) m :=
  ⟨hp.meaning n t c m h.1, fun i hi => (h.2 i hi).proceeds hp⟩

theorem runs_signature (hr : r.Faithful u n) (hs : l.Sound u) (f : TypeId) (c : CursorId) :
    Runs u S l (signature u r f c) fun s l' =>
      l'.Renders u (s.ret.refs ++ CType.argRefs s.args)
        (u.signatureMeaning (l'.meaning u n) f c) s := by
  unfold signature
  refine (hr.convert _ c hs).bind hs fun ret l₁ h₁ hret => .ite (fun hk => ?_) fun hk => ?_
  · refine .pure ⟨?_, fun i hi => hret.2 i ?_⟩
    · rw [SourceUnit.signatureMeaning, hret.1, Option.bind_some, if_pos hk]
    · simpa [CType.argRefs] using hi
  · have hk : (u.typeNode f).kind = .functionProto := by simpa using hk
    refine .ite (fun hp => ?_) fun hp => ?_
    · refine (runs_convertDeclared hr h₁.sound _).map h₁.sound fun ms l₂ h₂ hms => ?_
      exact .signature hk (hret.proceeds h₂)
        ⟨by rw [SourceUnit.parameterMeanings, if_pos hp, hms.1], hms.2⟩
    · refine (runs_convertUnnamed hr h₁.sound c _).map h₁.sound fun ms l₂ h₂ hms => ?_
      exact .signature hk (hret.proceeds h₂)
        ⟨by rw [SourceUnit.parameterMeanings, if_neg hp, hms.1], hms.2⟩

theorem convertPointer_eq (r : Recursion) (t : TypeId) (c : CursorId) :
    convertPointer u r t c =
      (let isConst := (u.typeNode (u.typeNode t).pointee).isConst
      let node := u.typeNode (u.pointerTarget t)
      if node.kind ≠ .unexposed && !node.kind.isFunction then do
        return .pointer (← r.convert (u.pointerTarget t) c) isConst
      else if u.typeKind node.result ≠ .invalid then do
        return (← signature u r (u.pointerTarget t) c).toPointer
      else if !u.isFound node.decl then
        return .pointer .void isConst
      else if (u.kind node.decl).isTypeDecl then do
        return .pointer (← declaredType u r node.decl) isConst
      else if u.kind c = .varDecl &&
          u.typeKind (u.typeNode (u.canonicalType t)).pointee ≠ .unexposed then
        r.convert (u.canonicalType t) c
      else
        return .pointer .void isConst) := rfl

theorem runs_convertPointer (hr : r.Faithful u n) (hs : l.Sound u) (t : TypeId) (c : CursorId) :
    Runs u S l (convertPointer u r t c) fun m l' =>
      l'.Renders u m.refs (u.pointerMeaning (l'.registry.link? u) (l'.meaning u n) t c) m := by
  rw [convertPointer_eq]
  dsimp only
  refine .ite (fun h₁ => ?_) fun h₁ => .ite (fun h₂ => ?_) fun h₂ => .ite (fun h₃ => ?_) fun h₃ =>
    .ite (fun h₄ => ?_) fun h₄ => .ite (fun h₅ => ?_) fun h₅ => ?_
  all_goals unfold SourceUnit.pointerMeaning
  · refine (hr.convert _ c hs).map hs fun m l' _ hm => ⟨?_, hm.2⟩
    simp only [if_pos h₁, hm.1]; rfl
  · refine (runs_signature hr hs _ c).map hs fun m l' _ hm => ⟨?_, hm.2⟩
    simp only [if_neg h₁, if_pos h₂, hm.1]; rfl
  · refine .pure ⟨?_, by simp [CType.refs]⟩
    simp only [if_neg h₁, if_neg h₂, if_pos h₃]
  · refine (runs_declaredType hr hs _).map hs fun m l' _ hm => ⟨?_, hm.2⟩
    simp only [if_neg h₁, if_neg h₂, if_neg h₃, if_pos h₄, hm.1]; rfl
  · refine (hr.convert _ c hs).mono hs fun m l' _ hm => ⟨?_, hm.2⟩
    simp only [if_neg h₁, if_neg h₂, if_neg h₃, if_neg h₄, if_pos h₅, hm.1]
  · refine .pure ⟨?_, by simp [CType.refs]⟩
    simp only [if_neg h₁, if_neg h₂, if_neg h₃, if_neg h₄, if_neg h₅]

theorem runs_convertType (hr : r.Faithful u n) (hs : l.Sound u) (t : TypeId) (c : CursorId) :
    Runs u S l (convertType u r t c) fun m l' =>
      l'.Renders u m.refs (u.typeMeaning (l'.registry.link? u) (l'.meaning u n) t c) m := by
  unfold convertType SourceUnit.typeMeaning
  have declared := runs_declaredType (S := S) hr hs (u.typeNode t).decl
  have function := runs_signature (S := S) hr hs t c
  dsimp only
  generalize (u.typeNode t).kind = k
  cases k <;> dsimp only
  case pointer => exact runs_convertPointer hr hs t c
  case record | enum | typedef => exact declared
  case elaborated => exact hr.convert _ c hs
  case constantArray | incompleteArray | variableArray | dependentSizedArray =>
    refine (hr.convert _ c hs).map hs fun m l' _ hm => ⟨?_, hm.2⟩
    rw [hm.1]; rfl
  case functionProto | functionNoProto =>
    refine function.map hs fun m l' _ hm => ⟨?_, hm.2⟩
    rw [hm.1]; rfl
  case unexposed =>
    refine .ite (fun h₁ => ?_) fun h₁ => .ite (fun h₂ => ?_) fun h₂ => ?_
    · simp only [if_pos h₁]; exact declared
    · simp only [if_neg h₁, if_pos h₂]; exact hr.convert _ c hs
    · simp only [if_neg h₁, if_neg h₂]; exact .pure ⟨rfl, by simp [CType.refs]⟩
  case complex =>
    cases (u.typeKind (u.typeNode t).element).complexOver? with
    | none => exact .fail _
    | some b => exact .pure ⟨rfl, by simp [CType.refs]⟩
  case int128 | uint128 | vector | other => exact .fail _
  all_goals exact .pure ⟨rfl, by simp [CType.refs]⟩

end DeclAtlas
