import DeclAtlas.Proofs.Walked

/-! What extracting one declaration of the top level does. A function, variable or typedef visits
what its type refers to and is then listed with its type; a record or enum is visited itself. A
declaration whose own fault stops it is registered all the same, so it can be poisoned. -/

namespace DeclAtlas

namespace SourceUnit

/-- A cursor that a record or enum type gives as its declaration. -/
def Named (u : SourceUnit) (d : CursorId) : Prop :=
  ∃ t, (u.typeKind t = .record ∨ u.typeKind t = .enum) ∧ (u.typeNode t).decl = d

/-- What a declaration of the top level may declare: itself, if it is a record or enum, and what
types name. -/
def Near (u : SourceUnit) (c d : CursorId) : Prop :=
  d = c ∧ (u.kind d).isTag = true ∨ u.Named d

/-- Whether a declaration has to answer for itself: a function or variable with external linkage, a
typedef, or a record or enum that is its own definition or has none. -/
def IsBinding (u : SourceUnit) (c : CursorId) : Prop :=
  match u.kind c with
  | .functionDecl | .varDecl =>
    (u.cursor c).linkage = .external ∨ (u.cursor c).linkage = .uniqueExternal
  | .typedefDecl => True
  | .structDecl | .unionDecl | .enumDecl => u.definition? c = none ∨ u.definition? c = some c
  | _ => False

/-- The kinds of declarations that are listed with a type. -/
def isTyped (u : SourceUnit) (c : CursorId) : Bool :=
  match u.kind c with
  | .functionDecl | .varDecl | .typedefDecl => true
  | _ => false

/-- The type that a function, variable or typedef is listed with. -/
def typedMeaning (u : SourceUnit) (conv : TypeId → CursorId → Option CType) (c : CursorId) :
    Option CType :=
  match u.kind c with
  | .functionDecl => (u.signatureMeaning conv (u.cursor c).type c).map Signature.toPointer
  | .varDecl => conv (u.cursor c).type c
  | .typedefDecl => conv (u.typedefTarget c) c
  | _ => none

theorem typedMeaning_mono {u : SourceUnit} {conv conv' : TypeId → CursorId → Option CType}
    (hc : ∀ t c, Kept (conv t c) (conv' t c)) (c : CursorId) :
    Kept (u.typedMeaning conv c) (u.typedMeaning conv' c) := by
  unfold typedMeaning
  split
  · exact .map (signatureMeaning_mono hc _ _)
  · exact hc _ _
  · exact hc _ _
  · exact .refl _

end SourceUnit

/-- What extracting a declaration leads to, when no fault stops it. -/
inductive Declared (u : SourceUnit) (c : CursorId) (l : Listing) : Listing → Prop where
  | visited {l'} (visit : Visit u (u.Near c) l none l')
      (answered : u.IsBinding c → l'.Fulfilled u c) : Declared u c l l'
  | typed {l₁} {g g₁ : Global} {t : CType} (visit : Visit u (u.Near c) l none l₁)
      (kind : u.isTyped c = true) (binding : u.IsBinding c)
      (known : l₁.registry.globalOf? u c = some g₁) (outline : g.outline = g₁.outline)
      (own : g.isBuiltin = false)
      (meant : ∃ n, l₁.Renders u t.refs (u.typedMeaning (l₁.meaning u n) c) t) :
      Declared u c l (l₁.addTyped g t)

/-- What the step `x` does to `l` is to extract the declaration at `c`; a fault of its own finds it
registered. -/
def Declares (u : SourceUnit) (c : CursorId) (l : Listing) (x : Step Fault Listing Unit) : Prop :=
  match x l with
  | (.ok _, l') => Declared u c l l'
  | (.error e, l') => Visit u (u.Near c) l (some e) l' ∧
      (e.isLocal = true → ∃ id, l'.registry.idOf? u c = some id)

namespace Declares

variable {u : SourceUnit} {c : CursorId} {l : Listing} {x : Step Fault Listing Unit}

theorem of_ok {l' : Listing} (hx : x l = (.ok (), l')) (h : Declared u c l l') :
    Declares u c l x := by
  unfold Declares; rw [hx]; exact h

theorem of_error {e : Fault} {l' : Listing} (hx : x l = (.error e, l'))
    (hv : Visit u (u.Near c) l (some e) l')
    (hid : e.isLocal = true → ∃ id, l'.registry.idOf? u c = some id) : Declares u c l x := by
  unfold Declares; rw [hx]; exact ⟨hv, hid⟩

theorem typed {conv : Step Fault Listing CType} {k : Global → Global} {n : Nat} (hs : l.Sound u)
    (hk : ∀ g, (k g).outline = g.outline) (kind : u.isTyped c = true) (binding : u.IsBinding c)
    (hconv : ∀ {l}, l.Sound u → Runs u (u.Near c) l conv fun t l' =>
      l'.Renders u t.refs (u.typedMeaning (l'.meaning u n) c) t) :
    Declares u c l (do
      let g ← Listing.lookup u c
      if !g.isBuiltin then
        let t ← conv
        Step.modify (·.addTyped (k g) t)) := by
  rcases look : Listing.lookup u c l with ⟨e | g, l₁⟩
  · obtain rfl := Listing.lookup_error look
    refine of_error (by rw [Step.bind_run, look]) (.halt e) fun he => ?_
    rw [Listing.isLocal_of_lookup_error look] at he
    cases he
  have hl := Listing.proceeds_lookup hs look
  have known := Listing.known_of_lookup hs look
  have hg := hl.sound.registry.globalOf?_eq_some.2 known
  by_cases hb : g.isBuiltin = true
  · refine of_ok ?_ (.visited (.of_lookup look) fun _ => ⟨g, hg, .inl hb⟩)
    rw [Step.bind_run, look]
    simp [hb]
  rcases hrun : conv l₁ with ⟨e | t, l₂⟩
  · have hv := (hconv hl.sound).error hrun
    refine of_error ?_ (.looked look hv) fun _ => ⟨g.id, ?_⟩
    · rw [Step.bind_run, look]
      simp [hb, Step.bind_run, hrun]
    · exact (hv.frame hl.sound).2.1.registry.idOf? known.1
  · obtain ⟨hv, ha⟩ := (hconv hl.sound).ok hrun
    obtain ⟨g₁, hg₁, ho⟩ := (hv.proceeds hl.sound).succeeds.registry.globalOf? hg
    have hout : (k g).outline = g₁.outline := (hk g).trans ho.symm
    have own : (k g).isBuiltin = false := by
      rw [Global.isBuiltin_of_outline (hk g)]; simpa using hb
    refine of_ok ?_ (.typed (.looked look hv) kind binding hg₁ hout own ⟨n, ha⟩)
    rw [Step.bind_run, look]
    simp [hb, Step.bind_run, hrun, Step.modify]

theorem linked (hx : (u.cursor c).linkage.isBindable = true → Declares u c l x)
    (hn : u.IsBinding c → (u.cursor c).linkage.isBindable = true) :
    Declares u c l (do if (← checkLinkage u c) then x) := by
  by_cases hb : (u.cursor c).linkage.isBindable = true
  · have : (do if (← checkLinkage u c) then x) = x := by
      simp only [checkLinkage, if_pos hb, pure_bind, if_true]
    rw [this]; exact hx hb
  · let k := u.cursor c
    refine of_ok ?_ (.visited (.noted (.dropping k.spelling k.linkage.name) .done)
      fun h => absurd (hn h) hb)
    simp only [checkLinkage, if_neg hb, Step.bind_run, Step.modify, Step.pure_run,
      Bool.false_eq_true, if_false, k]

end Declares

section kinds

variable {u : SourceUnit} {r : Recursion} {n : Nat} {c : CursorId} {l : Listing}

theorem isBinding_of_isLinked (hk : u.kind c = .functionDecl ∨ u.kind c = .varDecl) :
    u.IsBinding c ↔ (u.cursor c).linkage.isBindable = true := by
  rcases hk with hk | hk <;> simp only [SourceUnit.IsBinding, hk] <;>
    cases (u.cursor c).linkage <;> simp [Linkage.isBindable]

theorem declares_visitFunction (hr : r.Faithful u n) (hs : l.Sound u)
    (hk : u.kind c = .functionDecl) : Declares u c l (visitFunction u r c) := by
  have binding := isBinding_of_isLinked (.inl hk)
  have conv : ∀ {l : Listing}, l.Sound u →
      Runs u (u.Near c) l (do return (← signature u r (u.cursor c).type c).toPointer) fun t l' =>
        l'.Renders u t.refs (u.typedMeaning (l'.meaning u n) c) t := by
    intro l hs
    refine (runs_signature hr hs _ c).map hs fun s l' _ h => ⟨?_, h.2⟩
    rw [SourceUnit.typedMeaning, hk]
    exact congrArg (Option.map Signature.toPointer) h.1
  refine .linked (fun hb => ?_) binding.1
  have := Declares.typed (k := fun g => g) hs (fun _ => rfl) (by simp [SourceUnit.isTyped, hk])
    (binding.2 hb) conv
  simpa only [bind_assoc, pure_bind] using this

theorem declares_visitVar (hr : r.Faithful u n) (hs : l.Sound u) (hk : u.kind c = .varDecl) :
    Declares u c l (visitVar u r c) := by
  have binding := isBinding_of_isLinked (.inr hk)
  have conv : ∀ {l : Listing}, l.Sound u →
      Runs u (u.Near c) l (r.convert (u.cursor c).type c) fun t l' =>
        l'.Renders u t.refs (u.typedMeaning (l'.meaning u n) c) t :=
    fun hs => (hr.convert _ c hs).mono hs fun t l' _ h =>
      ⟨by simp [SourceUnit.typedMeaning, hk, h.1], h.2⟩
  refine .linked (fun hb => ?_) binding.1
  exact .typed hs (fun g => by simp [Global.outline, Global.withConst])
    (by simp [SourceUnit.isTyped, hk]) (binding.2 hb) conv

theorem runs_declareTarget (hs : l.Sound u) (t : TypeId) :
    Runs u (u.Near c) l (declareTarget u t) fun _ _ => True := by
  unfold declareTarget
  generalize (if u.typeKind t = .elaborated then (u.typeNode t).named else t) = t'
  refine .ite (fun h => ?_) fun _ => .pure trivial
  cases hd : u.definition? (u.typeNode t').decl with
  | some _ => exact .pure trivial
  | none =>
    have named : u.Named (u.typeNode t').decl := ⟨t', by simpa using h, rfl⟩
    exact (runs_declareIncomplete _ hs (.inr (.inr named)) hd).map hs fun _ _ _ _ => trivial

theorem declares_visitTypedef (hr : r.Faithful u n) (hs : l.Sound u)
    (hk : u.kind c = .typedefDecl) : Declares u c l (visitTypedef u r c) := by
  have conv : ∀ {l : Listing}, l.Sound u →
      Runs u (u.Near c) l (do declareTarget u (u.typedefTarget c); r.convert (u.typedefTarget c) c)
        fun t l' => l'.Renders u t.refs (u.typedMeaning (l'.meaning u n) c) t :=
    fun hs => (runs_declareTarget hs _).bind hs fun _ l₁ h₁ _ =>
      (hr.convert _ c h₁.sound).mono h₁.sound fun t l' _ h =>
        ⟨by simp [SourceUnit.typedMeaning, hk, h.1], h.2⟩
  have := Declares.typed (k := fun g => g) hs (fun _ => rfl) (by simp [SourceUnit.isTyped, hk])
    (by simp [SourceUnit.IsBinding, hk]) conv
  unfold visitTypedef
  simpa only [bind_assoc] using this

theorem isLocal_of_declareIncomplete_error {l' : Listing} {e : Fault}
    (h : declareIncomplete u c l = (.error e, l')) : e.isLocal = false := by
  rw [declareIncomplete, Step.bind_run] at h
  rcases look : Listing.lookup u c l with ⟨e' | g, l₁⟩ <;> rw [look] at h
  · cases h; exact Listing.isLocal_of_lookup_error look
  · simp only [Step.bind_run, Step.read] at h
    split at h
    · cases h
    · unfold recordNoMembers at h
      cases hf : g.form <;> rw [hf] at h <;> cases h <;> rfl

theorem isBinding_of_isTag (hk : (u.kind c).isTag = true) :
    u.IsBinding c ↔ u.definition? c = none ∨ u.definition? c = some c := by
  unfold SourceUnit.IsBinding
  cases h : u.kind c <;> rw [h] at hk <;> first | exact .rfl | cases hk

theorem declares_declare (hr : r.Faithful u n) (hs : l.Sound u) (hk : (u.kind c).isTag = true) :
    Declares u c l (do let _ ← declare u r c) := by
  have runs := runs_declare hr hs (show u.Near c c from .inl ⟨rfl, hk⟩)
  rcases hrun : declare u r c l with ⟨e | o, l'⟩
  · refine .of_error (by rw [Step.bind_run, hrun]) (runs.error hrun) fun he => ?_
    unfold declare at hrun
    cases hd : u.definition? c with
    | none =>
      simp only [hd, Step.bind_run] at hrun
      split at hrun <;> cases hrun
      rename_i h
      rw [isLocal_of_declareIncomplete_error h] at he
      cases he
    | some d =>
      simp only [hd] at hrun
      split at hrun
      · rw [Step.bind_run] at hrun
        split at hrun <;> cases hrun
        rename_i h
        exact hr.registers hs h he
      · cases hrun
  · obtain ⟨hv, ho⟩ := runs.ok hrun
    refine .of_ok (by rw [Step.bind_run, hrun]; rfl) (.visited hv fun h => ?_)
    obtain ⟨g, -, hg⟩ := ho ((isBinding_of_isTag hk).1 h)
    exact ⟨g, hg⟩

theorem declares_visitDeclaration (hr : r.Faithful u n) (hs : l.Sound u) (c : CursorId) :
    Declares u c l (visitDeclaration u r c) := by
  unfold visitDeclaration
  cases hk : u.kind c <;> dsimp only
  case structDecl | unionDecl | enumDecl => exact declares_declare hr hs (by rw [hk]; rfl)
  case functionDecl => exact declares_visitFunction hr hs hk
  case varDecl => exact declares_visitVar hr hs hk
  case typedefDecl => exact declares_visitTypedef hr hs hk
  all_goals
    refine .of_ok rfl (.visited .done fun h => ?_)
    simp [SourceUnit.IsBinding, hk] at h

end kinds

end DeclAtlas
