import DeclAtlas.Proofs.Converted

/-! Definitions over a faithful recursion. The members of a record refer to what its text
declares or mentions, its nested definitions are visited with it, and the recursion to any depth
is faithful. -/

namespace DeclAtlas

section gathering

variable {u : SourceUnit} {l l' : Listing} {cs cs' : List CursorId} {c parent : CursorId}

theorem Listing.Nested.grows {g : Global} (h : l.Nested u cs c g)
    (grows : l.registry.Grows l'.registry) :
    ∃ g', l'.Nested u cs c g' ∧ g'.outline = g.outline := by
  obtain ⟨g', hg', ho⟩ := grows.globalOf? h.known
  exact ⟨g', ⟨h.place, h.tag, h.self, hg', (Global.isBuiltin_of_outline ho).trans h.own⟩, ho⟩

theorem Listing.Nested.mono {g : Global} (h : l.Nested u cs c g)
    (hc : ∀ {c}, c ∈ cs → c ∈ cs') : l.Nested u cs' c g :=
  ⟨hc h.place, h.tag, h.self, h.known, h.own⟩

theorem Listing.Made.grows {m : Member} (h : l.Made u cs m)
    (grows : l.registry.Grows l'.registry) : l'.Made u cs m where
  type := by
    rcases h.type with ⟨f, hf, hk, hm⟩ | ⟨k, g, hg, hform, hm⟩
    · exact .inl ⟨f, hf, hk, hm.grows grows⟩
    · obtain ⟨g', hg', ho⟩ := hg.grows grows
      exact .inr ⟨k, g', hg', (Form.isComposite_of_outline (Global.outline_eq.1 ho).2).trans hform,
        hm.trans (congrArg _ (Global.id_of_outline ho).symm)⟩
  owned hi := by
    obtain ⟨href, k, g, hg, rfl⟩ := h.owned hi
    obtain ⟨g', hg', ho⟩ := hg.grows grows
    exact ⟨href, k, g', hg', Global.id_of_outline ho⟩

theorem Listing.Made.mono {m : Member} (h : l.Made u cs m) (hc : ∀ {c}, c ∈ cs → c ∈ cs') :
    l.Made u cs' m where
  type := by
    rcases h.type with ⟨f, hf, h⟩ | ⟨k, g, hg, h⟩
    · exact .inl ⟨f, hc hf, h⟩
    · exact .inr ⟨k, g, hg.mono hc, h⟩
  owned hi := by
    obtain ⟨href, k, g, hg, hid⟩ := h.owned hi
    exact ⟨href, k, g, hg.mono hc, hid⟩

theorem Listing.Made.holds {m : Member} (h : l.Made u cs m) {i : Int} (hi : i ∈ m.type.refs) :
    l.Holds u cs i := by
  rcases h.type with ⟨f, hf, hk, hm⟩ | ⟨k, g, hg, -, hm⟩
  · exact .inl ⟨f, hf, hk, _, hm, hi⟩
  · rw [hm, CType.refs, List.mem_singleton] at hi
    exact .inr ⟨k, g, hg, hi.symm⟩

theorem CType.id_mem_refs_of_inner? {t : CType} {ref : TagRef} (h : t.inner? = some ref) :
    ref.id ∈ t.refs := by
  fun_induction CType.inner? t with
  | case1 | case2 => cases h; simp [CType.refs, TagRef.id]
  | case3 t _ ih | case4 t _ ih => exact ih h
  | case5 => cases h

/-- What is known of a gathering after some children: the nested definition that the next field
may own is one of them. -/
structure Gathering.Fits (u : SourceUnit) (l : Listing) (cs : List CursorId) (acc : Gathering) :
    Prop where
  gathered : l.Gathered u cs acc.members
  pending : ∀ {g c}, acc.pending = some (g, c) →
    ∃ g', l.Nested u cs c g' ∧ g'.outline = g.outline

namespace Gathering.Fits

variable {acc : Gathering}

theorem proceeds (h : acc.Fits u l cs) (hp : l.Proceeds u l') : acc.Fits u l' cs where
  gathered :=
    ⟨fun f hf hk => by
      obtain ⟨m, hm, ha⟩ := h.gathered.fields f hf hk
      exact ⟨m, hm.grows hp.succeeds.registry, fun i hi => (ha i hi).proceeds hp⟩,
    fun k hk ht hd => (h.gathered.nested k hk ht hd).proceeds hp,
    fun m hm => (h.gathered.made m hm).grows hp.succeeds.registry⟩
  pending he := by
    obtain ⟨g', hg', ho⟩ := h.pending he
    obtain ⟨g'', hg'', ho'⟩ := hg'.grows hp.succeeds.registry
    exact ⟨g'', hg'', ho'.trans ho⟩

theorem drop (h : acc.Fits u l cs) : Fits u l cs { acc with pending := none } :=
  ⟨h.gathered, fun he => by cases he⟩

theorem push {m : Member} (h : acc.Fits u l cs) (hm : l.Made u cs m) :
    (acc.push m).Fits u l cs where
  gathered := by
    refine ⟨h.gathered.fields, h.gathered.nested, fun m' hm' => ?_⟩
    rcases List.mem_append.1 hm' with hm' | hm'
    · exact h.gathered.made m' hm'
    · rw [List.mem_singleton.1 hm']; exact hm
  pending := h.pending

theorem flush {S : CursorId → Prop} (h : acc.Fits u l cs) (parent : CursorId) :
    Runs u S l (acc.flush u parent) fun acc l' => acc.Fits u l' cs := by
  unfold Gathering.flush
  split
  · exact .pure h
  · rename_i g c he
    refine .ite (fun hunnamed => .ite (fun _ => .fail _) fun _ => .pure ?_) fun _ => .pure h.drop
    · obtain ⟨g', hg', ho⟩ := h.pending he
      have hid := Global.id_of_outline ho
      have form : g'.form.isComposite = true := by
        rw [Form.isComposite_of_outline (Global.outline_eq.1 ho).2]
        exact (Bool.and_eq_true_iff.1 hunnamed).2
      refine h.drop.push (m := .field ..) ⟨.inr ⟨c, g', hg', form, ?_⟩, fun {i} hi => ?_⟩
      · rw [Member.type, hid]
      · cases hi
        exact ⟨by simp [Member.type, CType.refs], c, g', hg', hid⟩

theorem snoc (h : acc.Fits u l cs)
    (hf : u.kind c = .fieldDecl →
      ∃ m, u.Denotes l.registry (u.cursor c).type c m ∧ ∀ i ∈ m.refs, l.Anchored u i)
    (hn : (u.kind c).isTag = true → u.definition? c = some c → l.Fulfilled u c) :
    acc.Fits u l (cs ++ [c]) where
  gathered := by
    refine ⟨fun f hm => ?_, fun k hm => ?_, fun m hm =>
      (h.gathered.made m hm).mono fun hc => List.mem_append_left _ hc⟩
    · rcases List.mem_append.1 hm with hm | hm
      · exact h.gathered.fields f hm
      · rw [List.mem_singleton.1 hm]; exact hf
    · rcases List.mem_append.1 hm with hm | hm
      · exact h.gathered.nested k hm
      · rw [List.mem_singleton.1 hm]; exact hn
  pending he := by
    obtain ⟨g', hg', ho⟩ := h.pending he
    exact ⟨g', hg'.mono fun hc => List.mem_append_left _ hc, ho⟩

theorem owned {t : CType} {i : Int} (h : acc.Fits u l cs) (hi : acc.owned? t = some i) :
    i ∈ t.refs ∧ ∃ k g, l.Nested u cs k g ∧ g.id = i := by
  unfold Gathering.owned? at hi
  split at hi
  · rename_i g k ref he hinner
    split at hi
    · rename_i hid
      cases hi
      obtain ⟨g', hg', ho⟩ := h.pending he
      exact ⟨CType.id_mem_refs_of_inner? hinner, k, g', hg', (Global.id_of_outline ho).trans hid.symm⟩
    · cases hi
  · cases hi

end Gathering.Fits

end gathering

variable {u : SourceUnit} {S : CursorId → Prop} {l : Listing} {r : Recursion} {n : Nat}
  {parent c : CursorId} {acc : Gathering} {cs : List CursorId}

theorem runs_addField (hr : r.Faithful u n) (hs : l.Sound u) (hk : u.kind c = .fieldDecl)
    (hfit : acc.Fits u l cs) :
    Runs u S l (addField u r parent acc c) fun acc l' => acc.Fits u l' (cs ++ [c]) := by
  unfold addField
  refine (hr.convert _ c hs).bind hs fun t l₁ h₁ ht => ?_
  have denotes : u.Denotes l₁.registry (u.cursor c).type c t := ⟨n, ht.1⟩
  have fits : acc.Fits u l₁ (cs ++ [c]) :=
    (hfit.proceeds h₁).snoc (fun _ => ⟨t, denotes, ht.2⟩) fun htag => by rw [hk] at htag; cases htag
  cases (u.cursor c).bitWidth with
  | some width =>
    refine (fits.flush parent).map h₁.sound fun acc l₂ h₂ fits => fits.push ?_
    exact ⟨.inl ⟨c, by simp, hk, denotes.grows h₂.succeeds.registry⟩, fun h => by cases h⟩
  | none =>
    have left : Gathering.Fits u l₁ (cs ++ [c])
        (if (acc.owned? t).isSome then { acc with pending := none } else acc) := by
      split
      · exact fits.drop
      · exact fits
    refine (left.flush parent).map h₁.sound fun _ l₂ h₂ fits₂ => fits₂.push ?_
    exact ⟨.inl ⟨c, by simp, hk, denotes.grows h₂.succeeds.registry⟩, fun h =>
      (fits.proceeds h₂).owned h⟩

theorem runs_declare (hr : r.Faithful u n) (hs : l.Sound u) (hc : S c) :
    Runs u S l (declare u r c) fun o l' => u.definition? c = none ∨ u.definition? c = some c →
      ∃ g, o = some g ∧ l'.registry.globalOf? u c = some g ∧
        (g.isBuiltin = true ∨ g.id ∈ l'.order) := by
  unfold declare
  cases hd : u.definition? c with
  | none =>
    refine (runs_declareIncomplete c hs (.inr hc) hd).map hs fun g l' _ hg _ => ?_
    exact ⟨g, rfl, hg⟩
  | some d =>
    refine .ite (fun he => ?_) fun he => .pure fun h => ?_
    · exact (hr.define c hs (.inl ⟨hc, he ▸ hd⟩)).map hs fun g l' _ hg _ => ⟨g, rfl, hg⟩
    · rcases h with h | h
      · cases h
      · exact absurd (Option.some.inj h) he

theorem runs_addNested (hr : r.Faithful u n) (hs : l.Sound u) (hc : S c)
    (hk : (u.kind c).isTag = true) (hfit : acc.Fits u l cs) :
    Runs u S l (addNested u r parent acc c) fun acc l' => acc.Fits u l' (cs ++ [c]) := by
  unfold addNested
  refine (hfit.flush parent).bind hs fun acc l₀ h₀ hfit => ?_
  refine (runs_declare hr h₀.sound hc).bind h₀.sound fun o l₁ h₁ ho => ?_
  have notField : u.kind c ≠ .fieldDecl := by intro h; rw [h] at hk; cases hk
  have fits : acc.Fits u l₁ (cs ++ [c]) := by
    refine (hfit.proceeds h₁).snoc (fun h => absurd h notField) fun _ hd => ?_
    obtain ⟨g, -, hg⟩ := ho (.inr hd)
    exact ⟨g, hg⟩
  cases o with
  | none => exact .pure fits
  | some g =>
    refine .pure ?_
    split
    · rename_i h
      simp only [Bool.and_eq_true, SourceUnit.isDefinition, beq_iff_eq, Bool.not_eq_true'] at h
      obtain ⟨g', he, hg', -⟩ := ho (.inr h.1)
      cases he
      refine ⟨fits.gathered, fun he => ?_⟩
      cases he
      exact ⟨g, ⟨by simp, hk, h.1, hg', h.2⟩, rfl⟩
    · exact fits

theorem runs_gather (hr : r.Faithful u n) (hs : l.Sound u) (cs rest : List CursorId)
    (hc : ∀ c ∈ rest, c ∈ u.children parent) (hfit : acc.Fits u l cs) :
    Runs u (u.Nests parent) l (gather u r parent acc rest) fun acc l' =>
      acc.Fits u l' (cs ++ rest) := by
  induction rest generalizing l acc cs with
  | nil => exact .pure (by simpa using hfit)
  | cons c rest ih =>
    have next : ∀ acc l₁, l.Proceeds u l₁ → acc.Fits u l₁ (cs ++ [c]) →
        Runs u (u.Nests parent) l₁ (gather u r parent acc rest) fun acc l' =>
          acc.Fits u l' (cs ++ c :: rest) := by
      intro acc l₁ h₁ hfit
      have := ih h₁.sound (cs ++ [c]) (fun c h => hc c (List.mem_cons_of_mem _ h)) hfit
      simpa using this
    unfold gather
    dsimp only
    cases hk : u.kind c <;> dsimp only
    case fieldDecl => exact (runs_addField hr hs hk hfit).bind hs next
    case structDecl | unionDecl | enumDecl =>
      have htag : (u.kind c).isTag = true := by rw [hk]; rfl
      exact (runs_addNested hr hs ⟨hc c (by simp), htag⟩ htag hfit).bind hs next
    all_goals
      refine .bind hs (.pure (hfit.snoc (fun h => ?_) fun h => ?_)) next <;>
        rw [hk] at h <;> cases h

theorem runs_visitMembers (hr : r.Faithful u n) (hs : l.Sound u) (c : CursorId) :
    Runs u (u.Nests c) l (visitMembers u r c) fun ms l' => l'.Gathered u (u.children c) ms := by
  have start : Gathering.Fits u l [] {} := ⟨⟨by simp, by simp, by simp⟩, fun h => by cases h⟩
  refine (runs_gather hr hs [] (u.children c) (fun _ h => h) start).bind hs fun acc l₁ h₁ hfit => ?_
  exact (hfit.flush c).map h₁.sound fun _ _ _ hfit => hfit.gathered

section define

variable {l₁ l₂ : Listing} {g : Global}

theorem defineTag_ok {g' : Global} (look : Listing.lookup u c l = (.ok g, l₁))
    (own : g.isBuiltin = false)
    (visit : visitDefinition u r c g (l₁.startDefining g.id) = (.ok g', l₂)) :
    defineTag u r c l = (.ok g', (l₂.stopDefining g.id).add g') := by
  simp only [defineTag, Step.bind_run, look, own, Bool.false_eq_true, if_false, Step.read,
    Step.modify, Step.andAlways, Step.handling, visit, Step.pure_run]

theorem defineTag_error {l₃ : Listing} {e e' : Fault} (look : Listing.lookup u c l = (.ok g, l₁))
    (own : g.isBuiltin = false)
    (visit : visitDefinition u r c g (l₁.startDefining g.id) = (.error e, l₂))
    (given : abandon l₁.added.length g e l₂ = (.error e', l₃)) :
    defineTag u r c l = (.error e', l₃.stopDefining g.id) := by
  simp only [defineTag, Step.bind_run, look, own, Bool.false_eq_true, if_false, Step.read,
    Step.modify, Step.andAlways, Step.handling, visit, given]

theorem isTag_of_visitDefinition_error {e : Fault}
    (visit : visitDefinition u r c g l = (.error e, l₁)) (he : e.isLocal = true) :
    g.form.isTag = true := by
  unfold visitDefinition at visit
  cases hf : g.form with
  | composite | enum => rfl
  | builtin | typedef | var | function => rw [hf] at visit; cases visit; cases he

theorem visitDefinition_error {e : Fault} (hr : r.Faithful u n) (hs : l.Sound u)
    (visit : visitDefinition u r c g l = (.error e, l₁)) :
    Visit u (u.Nests c) l (some e) l₁ := by
  unfold visitDefinition at visit
  cases hf : g.form with
  | composite =>
    simp only [hf, Step.bind_run] at visit
    rcases members : visitMembers u r c l with ⟨e | ms, l₂⟩ <;> rw [members] at visit <;> cases visit
    exact (runs_visitMembers hr hs c).error members
  | enum => rw [hf] at visit; cases visit
  | builtin | typedef | var | function => rw [hf] at visit; cases visit; exact .halt _

theorem defineTag_abandoned {e : Fault} (hr : r.Faithful u n) (hs : l.Sound u)
    (look : Listing.lookup u c l = (.ok g, l₁)) (own : g.isBuiltin = false)
    (visit : visitDefinition u r c g (l₁.startDefining g.id) = (.error e, l₂)) :
    ∃ l₃, abandon l₁.added.length g e l₂ = (.error e, l₃) ∧
      defineTag u r c l = (.error e, l₃.stopDefining g.id) := by
  have hs₁ := (Listing.proceeds_lookup hs look).sound.startDefining g.id
  have hs₂ := ((visitDefinition_error hr hs₁ visit).frame hs₁).1
  obtain ⟨l₃, given⟩ := Listing.abandon_fails l₁.added.length g e hs₂
  exact ⟨l₃, given, defineTag_error look own visit given⟩

/-- A definition fails for a reason of its own only when its own text stops it. -/
theorem defineTag_local_error {l' : Listing} {e : Fault} (hr : r.Faithful u n) (hs : l.Sound u)
    (h : defineTag u r c l = (.error e, l')) (he : e.isLocal = true) :
    ∃ g l₁ l₂ l₃, Listing.lookup u c l = (.ok g, l₁) ∧
      visitDefinition u r c g (l₁.startDefining g.id) = (.error e, l₂) ∧
      abandon l₁.added.length g e l₂ = (.error e, l₃) ∧ l' = l₃.stopDefining g.id := by
  rcases look : Listing.lookup u c l with ⟨e' | g, l₁⟩
  · simp only [defineTag, Step.bind_run, look] at h
    cases h
    rw [Listing.isLocal_of_lookup_error look] at he
    cases he
  by_cases hb : g.isBuiltin = true
  · simp [defineTag, Step.bind_run, look, hb] at h
  have own : g.isBuiltin = false := by simpa using hb
  rcases visit : visitDefinition u r c g (l₁.startDefining g.id) with ⟨e' | g', l₂⟩
  · obtain ⟨l₃, given, hrun⟩ := defineTag_abandoned hr hs look own visit
    rw [hrun] at h
    cases h
    exact ⟨g, l₁, l₂, l₃, rfl, visit, given, rfl⟩
  · rw [defineTag_ok look own visit] at h
    cases h

theorem runs_defineTag (hr : r.Faithful u n) (hs : l.Sound u) (place : l.Defines u S c) :
    Runs u S l (defineTag u r c) fun g l' =>
      l'.registry.globalOf? u c = some g ∧ (g.isBuiltin = true ∨ g.id ∈ l'.order) := by
  rcases look : Listing.lookup u c l with ⟨e | g, l₁⟩
  · obtain rfl := Listing.lookup_error look
    exact .of_error (by simp only [defineTag, Step.bind_run, look]) (.halt e)
  have hl := Listing.proceeds_lookup hs look
  have known := Listing.known_of_lookup hs look
  by_cases hb : g.isBuiltin = true
  · refine .of_ok ?_ (.of_lookup look) ⟨hl.sound.registry.globalOf?_eq_some.2 known, .inl hb⟩
    simp [defineTag, Step.bind_run, look, hb]
  have own : g.isBuiltin = false := by simpa using hb
  have hs₁ := hl.sound.startDefining g.id
  rcases visit : visitDefinition u r c g (l₁.startDefining g.id) with ⟨e | g', l₂⟩
  · obtain ⟨l₃, given, hrun⟩ := defineTag_abandoned hr hs look own visit
    exact .of_error hrun (.failed place look (isTag_of_visitDefinition_error visit)
      (visitDefinition_error hr hs₁ visit) given)
  have hrun := defineTag_ok look own visit
  have listed : g'.id ∈ ((l₂.stopDefining g.id).add g').order :=
    (Listing.mem_add_order _ _).2 (.inr rfl)
  unfold visitDefinition at visit
  cases hf : g.form with
  | composite =>
    simp only [hf, Step.bind_run] at visit
    rcases members : visitMembers u r c (l₁.startDefining g.id) with ⟨e | ms, l₃⟩ <;>
      rw [members] at visit <;> cases visit
    obtain ⟨inside, gathered⟩ := (runs_visitMembers hr hs₁ c).ok members
    refine .of_ok hrun (.recorded place look (by rw [hf]; rfl) inside gathered .done)
      ⟨?_, .inr listed⟩
    rw [Listing.add_registry]
    exact Registry.globalOf?_update ((inside.frame hs₁).2.1.registry.idOf? known.1)
  | enum =>
    rw [hf] at visit
    cases visit
    refine .of_ok hrun (.enumerated place look hf .done) ⟨?_, .inr listed⟩
    rw [Listing.add_registry]
    exact Registry.globalOf?_update known.1
  | builtin | typedef | var | function => rw [hf] at visit; cases visit

theorem registers_defineTag {l' : Listing} {e : Fault} (hr : r.Faithful u n) (hs : l.Sound u)
    (h : defineTag u r c l = (.error e, l')) (he : e.isLocal = true) :
    ∃ id, l'.registry.idOf? u c = some id := by
  obtain ⟨g, l₁, l₂, l₃, look, visit, given, rfl⟩ := defineTag_local_error hr hs h he
  have hs₁ := (Listing.proceeds_lookup hs look).sound.startDefining g.id
  obtain ⟨hs₂, hm, -⟩ := (visitDefinition_error hr hs₁ visit).frame hs₁
  have known := (Listing.known_of_lookup hs look).1
  exact ⟨g.id, (Listing.moves_abandon hs₂ hm given).registry.idOf? known⟩

end define

/-- Conversions and definitions to any depth do what they are asked for. -/
theorem SourceUnit.recursionWithin_faithful (u : SourceUnit) (n : Nat) :
    (u.recursionWithin n).Faithful u n := by
  induction n with
  | zero =>
    refine ⟨fun _ _ _ => .fail _, fun _ _ _ => .fail _, fun _ h he => ?_⟩
    cases h; cases he
  | succ n ih =>
    exact ⟨fun t c hs => runs_convertType ih hs t c, fun c hs place => runs_defineTag ih hs place,
      fun hs h he => registers_defineTag ih hs h he⟩

theorem SourceUnit.recursion_faithful (u : SourceUnit) :
    u.recursion.Faithful u u.recursionBound :=
  u.recursionWithin_faithful _

end DeclAtlas
