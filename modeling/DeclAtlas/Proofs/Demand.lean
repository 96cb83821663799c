import DeclAtlas.Proofs.Declared

/-! What conversions and definitions demand of the recursion. Which pairs of a type and a cursor a
conversion goes on to is a matter of the unit alone. If the recursion meets these demands with
faults of some set, so does the conversion, and likewise a definition with the conversions and
definitions in its text. -/

namespace DeclAtlas

namespace SourceUnit

/-- The pairs that a signature goes on to: the result, and the parameters as they are declared at
the cursor or as the type gives them. -/
def signatureDemands (u : SourceUnit) (f : TypeId) (c : CursorId) : List (TypeId × CursorId) :=
  ((u.typeNode f).result, c) ::
    if (u.typeNode f).kind ≠ .functionProto then []
    else if (u.parameters c).length = (u.typeNode f).params.length then
      (u.parameters c).map fun p => ((u.cursor p).type, p)
    else (u.typeNode f).params.map fun t => (t, c)

/-- The pairs that a reference to a declaration goes on to: a typedef that the compiler provides is
looked through. The text of a record or enum is not among them. -/
def declaredDemands (u : SourceUnit) (d : CursorId) : List (TypeId × CursorId) :=
  if u.kind d = .typedefDecl && u.isImplicit (u.canonical d) then [((u.cursor d).underlying, d)]
  else []

/-- The pairs that a pointer type goes on to. -/
def pointerDemands (u : SourceUnit) (t : TypeId) (c : CursorId) : List (TypeId × CursorId) :=
  let node := u.typeNode (u.pointerTarget t)
  if node.kind ≠ .unexposed && !node.kind.isFunction then [(u.pointerTarget t, c)]
  else if u.typeKind node.result ≠ .invalid then u.signatureDemands (u.pointerTarget t) c
  else if !u.isFound node.decl then []
  else if (u.kind node.decl).isTypeDecl then u.declaredDemands node.decl
  else if u.kind c = .varDecl &&
      u.typeKind (u.typeNode (u.canonicalType t)).pointee ≠ .unexposed then
    [(u.canonicalType t, c)]
  else []

/-- The pairs that the conversion of a type as seen from a cursor goes on to. -/
def demands (u : SourceUnit) (t : TypeId) (c : CursorId) : List (TypeId × CursorId) :=
  let node := u.typeNode t
  match node.kind with
  | .pointer => u.pointerDemands t c
  | .constantArray | .incompleteArray | .variableArray | .dependentSizedArray => [(node.element, c)]
  | .functionProto | .functionNoProto => u.signatureDemands t c
  | .elaborated => [(node.named, c)]
  | .record | .enum | .typedef => u.declaredDemands node.decl
  | .unexposed =>
    if (u.kind node.decl).isTypeDecl then u.declaredDemands node.decl
    else if u.typeKind (u.canonicalType t) ≠ .unexposed then [(u.canonicalType t, c)]
    else []
  | _ => []

/-- The pairs that a function, variable or typedef of the top level goes on to. -/
def topDemands (u : SourceUnit) (c : CursorId) : List (TypeId × CursorId) :=
  match u.kind c with
  | .functionDecl => u.signatureDemands (u.cursor c).type c
  | .varDecl => [((u.cursor c).type, c)]
  | .typedefDecl => [(u.typedefTarget c, c)]
  | _ => []

end SourceUnit

/-- Faults in `E` may occur while `I` holds: those that a single declaration is skipped for are
among them, and `I` holds on as long as nothing fails. -/
structure Lenient (u : SourceUnit) (E : Fault → Prop) (I : Listing → Prop) : Prop where
  own : ∀ {e : Fault}, e.isLocal = true → E e
  keeps : ∀ {l l' : Listing}, l.Proceeds u l' → I l → I l'

/-- Wherever `I` holds, the step fails within `E`. -/
def Complies {α : Type} (u : SourceUnit) (E : Fault → Prop) (I : Listing → Prop)
    (x : Step Fault Listing α) : Prop :=
  ∀ ⦃l : Listing⦄, l.Sound u → I l → FailsWithin E l x

/-- The recursion meets these demands. -/
def Recursion.Serves (u : SourceUnit) (E : Fault → Prop) (I : Listing → Prop) (r : Recursion)
    (pairs : List (TypeId × CursorId)) : Prop :=
  ∀ y ∈ pairs, Complies u E I (r.convert y.1 y.2)

section conversion

variable {u : SourceUnit} {E : Fault → Prop} {I : Listing → Prop} {r : Recursion} {n : Nat}

theorem complies_declaredType (h : Lenient u E I) (d : CursorId)
    (look : (u.kind d).isTypeDecl = true → Complies u E I (Listing.lookup u d))
    (serves : r.Serves u E I (u.declaredDemands d))
    (materializes : ∀ {g : Global} {l : Listing}, (u.kind d).isTypeDecl = true → l.Sound u → I l →
      l.registry.globalOf? u d = some g → g.form.isTag = true →
      FailsWithin E l (materialize u r d g)) :
    Complies u E I (declaredType u r d) := by
  intro l hs hl
  refine .ite (fun _ => .pure _) fun hk => ?_
  have hd : (u.kind d).isTypeDecl = true := by simpa using hk
  refine .bind (S := fun _ => True) hs (runs_lookup d hs) (look hd hs hl) fun g l₁ h₁ hg => ?_
  have hl₁ := h.keeps h₁ hl
  have hget := (h₁.sound.registry.globalOf?_eq_some.1 hg).2
  split
  · exact .pure _
  · refine .ite (fun hi => ?_) fun _ => ?_
    · rw [SourceUnit.declaredDemands, if_pos hi] at serves
      exact serves _ (List.mem_cons_self ..) h₁.sound hl₁
    · -- resolving gives the same global back, unless it was skipped
      intro e l' hrun
      simp only [Step.bind_run, Listing.resolved, Registry.get, hget] at hrun
      by_cases hp : g.id ∈ l₁.registry.poisoned
      · simp only [hp, if_true] at hrun
        cases hrun
        exact h.own rfl
      · simp only [hp, if_false] at hrun
        revert hrun
        cases hf : g.form with
        | composite | enum =>
          have tag : g.form.isTag = true := by rw [hf]; rfl
          intro hrun
          exact FailsWithin.map (materializes hd h₁.sound hl₁ hg tag) (fun _ _ => .pure _) e l' hrun
        | typedef | var | function | builtin => exact FailsWithin.pure _ e l'

theorem complies_convertDeclared (hr : r.Faithful u n) (h : Lenient u E I) (ps : List CursorId)
    (serves : r.Serves u E I (ps.map fun p => ((u.cursor p).type, p))) :
    Complies u E I (convertDeclared u r ps) := by
  induction ps with
  | nil => exact fun _ _ _ => .pure _
  | cons p rest ih =>
    intro l hs hl
    have first := serves _ (List.mem_cons_self ..) hs hl
    refine .bind (S := fun _ => True) hs (hr.convert _ p hs) first fun _ l₁ h₁ _ => ?_
    have others := ih (fun y hy => serves y (List.mem_cons_of_mem _ hy)) h₁.sound (h.keeps h₁ hl)
    exact .map others fun _ _ => .pure _

theorem complies_convertUnnamed (hr : r.Faithful u n) (h : Lenient u E I) (c : CursorId)
    (ts : List TypeId) (serves : r.Serves u E I (ts.map fun t => (t, c))) :
    Complies u E I (convertUnnamed r c ts) := by
  induction ts with
  | nil => exact fun _ _ _ => .pure _
  | cons t rest ih =>
    intro l hs hl
    have first := serves _ (List.mem_cons_self ..) hs hl
    refine .bind (S := fun _ => True) hs (hr.convert t c hs) first fun _ l₁ h₁ _ => ?_
    have others := ih (fun y hy => serves y (List.mem_cons_of_mem _ hy)) h₁.sound (h.keeps h₁ hl)
    exact .map others fun _ _ => .pure _

theorem complies_signature (hr : r.Faithful u n) (h : Lenient u E I) (f : TypeId) (c : CursorId)
    (serves : r.Serves u E I (u.signatureDemands f c)) :
    Complies u E I (signature u r f c) := by
  intro l hs hl
  have result := serves _ (List.mem_cons_self ..) hs hl
  have others : r.Serves u E I _ := fun y hy => serves y (List.mem_cons_of_mem _ hy)
  refine .bind (S := fun _ => True) hs (hr.convert _ c hs) result fun _ l₁ h₁ _ => ?_
  have hl₁ := h.keeps h₁ hl
  refine .ite (fun _ => .pure _) fun hk => .ite (fun hp => ?_) fun hp => ?_
  · rw [if_neg hk, if_pos hp] at others
    exact .map (complies_convertDeclared hr h _ others h₁.sound hl₁) fun _ _ => .pure _
  · rw [if_neg hk, if_neg hp] at others
    exact .map (complies_convertUnnamed hr h c _ others h₁.sound hl₁) fun _ _ => .pure _

theorem complies_convertPointer (hr : r.Faithful u n) (h : Lenient u E I) (t : TypeId)
    (c : CursorId) (serves : r.Serves u E I (u.pointerDemands t c))
    (declared : ∀ d, r.Serves u E I (u.declaredDemands d) → Complies u E I (declaredType u r d)) :
    Complies u E I (convertPointer u r t c) := by
  intro l hs hl
  rw [convertPointer_eq]
  unfold SourceUnit.pointerDemands at serves
  dsimp only at serves ⊢
  refine .ite (fun h₁ => ?_) fun h₁ => .ite (fun h₂ => ?_) fun h₂ => .ite (fun h₃ => .pure _)
    fun h₃ => .ite (fun h₄ => ?_) fun h₄ => .ite (fun h₅ => ?_) fun _ => .pure _
  · rw [if_pos h₁] at serves
    exact .map (serves _ (List.mem_cons_self ..) hs hl) fun _ _ => .pure _
  · rw [if_neg h₁, if_pos h₂] at serves
    exact .map (complies_signature hr h _ c serves hs hl) fun _ _ => .pure _
  · rw [if_neg h₁, if_neg h₂, if_neg h₃, if_pos h₄] at serves
    exact .map (declared _ serves hs hl) fun _ _ => .pure _
  · rw [if_neg h₁, if_neg h₂, if_neg h₃, if_neg h₄, if_pos h₅] at serves
    exact serves _ (List.mem_cons_self ..) hs hl

theorem complies_convertType (hr : r.Faithful u n) (h : Lenient u E I) (t : TypeId) (c : CursorId)
    (serves : r.Serves u E I (u.demands t c))
    (declared : ∀ d, r.Serves u E I (u.declaredDemands d) → Complies u E I (declaredType u r d)) :
    Complies u E I (convertType u r t c) := by
  intro l hs hl
  unfold SourceUnit.demands at serves
  unfold convertType
  dsimp only at serves ⊢
  have function := complies_signature hr h t c
  have pointer := complies_convertPointer hr h t c
  generalize (u.typeNode t).kind = k at serves ⊢
  cases k <;> dsimp only at serves ⊢
  case pointer => exact pointer serves declared hs hl
  case record | enum | typedef => exact declared _ serves hs hl
  case elaborated => exact serves _ (List.mem_cons_self ..) hs hl
  case constantArray | incompleteArray | variableArray | dependentSizedArray =>
    exact .map (serves _ (List.mem_cons_self ..) hs hl) fun _ _ => .pure _
  case functionProto | functionNoProto =>
    exact .map (function serves hs hl) fun _ _ => .pure _
  case unexposed =>
    refine .ite (fun h₁ => ?_) fun h₁ => .ite (fun h₂ => ?_) fun _ => .pure _
    · rw [if_pos h₁] at serves
      exact declared _ serves hs hl
    · rw [if_neg h₁, if_pos h₂] at serves
      exact serves _ (List.mem_cons_self ..) hs hl
  case complex =>
    cases (u.typeKind (u.typeNode t).element).complexOver? with
    | none => exact .fail (h.own rfl)
    | some b => exact .pure _
  case int128 | uint128 | vector | other => exact .fail (h.own rfl)
  all_goals exact .pure _

end conversion

section definition

variable {u : SourceUnit} {E : Fault → Prop} {I : Listing → Prop} {r : Recursion} {n : Nat}
  {l : Listing} {parent c : CursorId} {acc : Gathering}

theorem failsWithin_flush (cut : ∀ k, u.isCutOff parent k = true → E .exhausted)
    (acc : Gathering) (l : Listing) : FailsWithin E l (acc.flush u parent) := by
  unfold Gathering.flush
  split
  · exact .pure _
  · exact .ite (fun _ => .ite (fun h => .fail (cut _ h)) fun _ => .pure _) fun _ => .pure _

theorem complies_addField (cut : ∀ k, u.isCutOff parent k = true → E .exhausted)
    (acc : Gathering) (conv : Complies u E I (r.convert (u.cursor c).type c)) :
    Complies u E I (addField u r parent acc c) := by
  intro l hs hl
  refine .map (conv hs hl) fun t l' => ?_
  cases (u.cursor c).bitWidth with
  | some width => exact .map (failsWithin_flush cut _ l') fun _ _ => .pure _
  | none => exact .map (failsWithin_flush cut _ l') fun _ _ => .pure _

theorem failsWithin_addNested (h : Lenient u E I)
    (cut : ∀ k, u.isCutOff parent k = true → E .exhausted) {cs : List CursorId}
    (hs : l.Sound u) (hl : I l) (hfit : acc.Fits u l cs)
    (declares : Complies u E I (declare u r c)) :
    FailsWithin E l (addNested u r parent acc c) := by
  refine .bind (S := fun _ => True) hs (hfit.flush parent) (failsWithin_flush cut acc l)
    fun acc l₁ h₁ _ => ?_
  refine .map (declares h₁.sound (h.keeps h₁ hl)) fun o l' => ?_
  cases o with
  | none => exact .pure _
  | some g => exact .pure _

theorem failsWithin_gather (hr : r.Faithful u n) (h : Lenient u E I)
    (cut : ∀ k, u.isCutOff parent k = true → E .exhausted) (cs rest : List CursorId)
    (fields : ∀ f ∈ rest, u.kind f = .fieldDecl →
      Complies u E I (r.convert (u.cursor f).type f))
    (nested : ∀ j ∈ rest, (u.kind j).isTag = true → Complies u E I (declare u r j))
    (hs : l.Sound u) (hl : I l) (hfit : acc.Fits u l cs) :
    FailsWithin E l (gather u r parent acc rest) := by
  induction rest generalizing l acc cs with
  | nil => exact .pure _
  | cons c rest ih =>
    have next : ∀ acc l₁, l.Proceeds u l₁ → acc.Fits u l₁ (cs ++ [c]) →
        FailsWithin E l₁ (gather u r parent acc rest) := by
      intro acc l₁ h₁ hfit
      exact ih (cs ++ [c]) (fun f hf => fields f (List.mem_cons_of_mem _ hf))
        (fun j hj => nested j (List.mem_cons_of_mem _ hj)) h₁.sound (h.keeps h₁ hl) hfit
    unfold gather
    dsimp only
    cases hk : u.kind c <;> dsimp only
    case fieldDecl =>
      have field := complies_addField cut acc (fields c (List.mem_cons_self ..) hk)
      exact .bind (S := fun _ => True) hs (runs_addField hr hs hk hfit) (field hs hl) next
    case structDecl | unionDecl | enumDecl =>
      have tag : (u.kind c).isTag = true := by rw [hk]; rfl
      have inner := failsWithin_addNested h cut hs hl hfit (nested c (List.mem_cons_self ..) tag)
      exact .bind (S := fun _ => True) hs (runs_addNested hr hs trivial tag hfit) inner next
    all_goals
      refine .bind (S := fun _ => True) hs (.pure (hfit.snoc (fun h => ?_) fun h => ?_)) (.pure _)
        next <;> rw [hk] at h <;> cases h

theorem complies_visitDefinition (hr : r.Faithful u n) (h : Lenient u E I) (c : CursorId)
    {g : Global} (form : g.form.isTag = true ∨ E (.notDefinable (u.kind c).name (u.spellingOf c)))
    (cut : ∀ k, u.isCutOff c k = true → E .exhausted)
    (fields : ∀ f ∈ u.children c, u.kind f = .fieldDecl →
      Complies u E I (r.convert (u.cursor f).type f))
    (nested : ∀ j ∈ u.children c, (u.kind j).isTag = true → Complies u E I (declare u r j)) :
    Complies u E I (visitDefinition u r c g) := by
  intro l hs hl
  have start : Gathering.Fits u l [] {} := ⟨⟨by simp, by simp, by simp⟩, fun h => by cases h⟩
  have members : FailsWithin E l (visitMembers u r c) :=
    .map (failsWithin_gather hr h cut [] (u.children c) fields nested hs hl start)
      fun acc l' => .map (failsWithin_flush cut acc l') fun _ _ => .pure _
  unfold visitDefinition
  cases hf : g.form with
  | composite => exact .map members fun _ _ => .of_ok rfl
  | enum => exact .of_ok rfl
  | typedef | var | function | builtin =>
    rw [hf] at form
    exact .fail (form.resolve_left Bool.false_ne_true)

theorem failsWithin_defineTag (hr : r.Faithful u n) (hs : l.Sound u)
    (look : FailsWithin E l (Listing.lookup u c))
    (inside : ∀ {g l₁}, Listing.lookup u c l = (.ok g, l₁) → g.isBuiltin = false →
      FailsWithin E (l₁.startDefining g.id) (visitDefinition u r c g)) :
    FailsWithin E l (defineTag u r c) := by
  intro e l' h
  rcases hlook : Listing.lookup u c l with ⟨e' | g, l₁⟩
  · simp only [defineTag, Step.bind_run, hlook] at h
    cases h
    exact look _ _ hlook
  by_cases hb : g.isBuiltin = true
  · simp [defineTag, Step.bind_run, hlook, hb] at h
  have own : g.isBuiltin = false := by simpa using hb
  rcases visit : visitDefinition u r c g (l₁.startDefining g.id) with ⟨e' | g', l₂⟩
  · -- giving a definition up keeps the fault that stopped it
    obtain ⟨l₃, -, hrun⟩ := defineTag_abandoned hr hs hlook own visit
    rw [hrun] at h
    cases h
    exact inside hlook own _ _ visit
  · rw [defineTag_ok hlook own visit] at h
    cases h

end definition

section top

variable {u : SourceUnit} {E : Fault → Prop} {I : Listing → Prop} {r : Recursion} {n : Nat}
  {c : CursorId}

theorem complies_typed {α : Type} {conv : Step Fault Listing α} {k : Global → α → Listing → Listing}
    (h : Lenient u E I) (look : Complies u E I (Listing.lookup u c)) (hconv : Complies u E I conv) :
    Complies u E I (do
      let g ← Listing.lookup u c
      if !g.isBuiltin then
        let t ← conv
        Step.modify (k g t)) := by
  intro l hs hl
  refine .bind (S := fun _ => True) hs (runs_lookup c hs) (look hs hl)
    fun g l₁ h₁ _ => .ite (fun _ => ?_) fun _ => .pure _
  exact .map (hconv h₁.sound (h.keeps h₁ hl)) fun _ _ => .of_ok rfl

theorem complies_linked {x : Step Fault Listing Unit} (hx : Complies u E I x) :
    Complies u E I (do if (← checkLinkage u c) then x) := by
  intro l hs hl
  by_cases hb : (u.cursor c).linkage.isBindable = true
  · simpa [checkLinkage, hb] using hx hs hl
  · have noted : (do if (← checkLinkage u c) then x : Step Fault Listing Unit) l =
        (.ok (), l.note (.dropping (u.cursor c).spelling (u.cursor c).linkage.name)) := by
      simp only [checkLinkage, if_neg hb, Step.bind_run, Step.modify, Step.pure_run,
        Bool.false_eq_true, if_false]
    exact .of_ok noted

theorem complies_declareTarget (t : TypeId)
    (incomplete : ∀ d, u.Named d → Complies u E I (declareIncomplete u d)) :
    Complies u E I (declareTarget u t) := by
  intro l hs hl
  unfold declareTarget
  generalize (if u.typeKind t = .elaborated then (u.typeNode t).named else t) = t'
  refine .ite (fun hk => ?_) fun _ => .pure _
  have named : u.Named (u.typeNode t').decl := ⟨t', by simpa using hk, rfl⟩
  cases u.definition? (u.typeNode t').decl with
  | some _ => exact .pure _
  | none => exact .map (incomplete _ named hs hl) fun _ _ => .pure _

theorem complies_visitDeclaration (hr : r.Faithful u n) (h : Lenient u E I) (c : CursorId)
    (look : u.isTyped c = true → Complies u E I (Listing.lookup u c))
    (incomplete : ∀ d, u.Named d → Complies u E I (declareIncomplete u d))
    (declares : (u.kind c).isTag = true → Complies u E I (declare u r c))
    (serves : r.Serves u E I (u.topDemands c)) :
    Complies u E I (visitDeclaration u r c) := by
  intro l hs hl
  unfold SourceUnit.topDemands at serves
  unfold SourceUnit.isTyped at look
  unfold visitDeclaration
  cases hk : u.kind c <;> rw [hk] at serves look <;> dsimp only at serves ⊢
  case structDecl | unionDecl | enumDecl =>
    exact .map (declares (by rw [hk]; rfl) hs hl) fun _ _ => .pure _
  case functionDecl =>
    exact complies_linked (complies_typed h (look rfl) (complies_signature hr h _ c serves)) hs hl
  case varDecl =>
    exact complies_linked (complies_typed h (look rfl) (serves _ (List.mem_cons_self ..))) hs hl
  case typedefDecl =>
    have conv : Complies u E I (do
        declareTarget u (u.typedefTarget c); r.convert (u.typedefTarget c) c) := by
      intro l hs hl
      refine .bind (S := u.Near c) hs (runs_declareTarget hs _)
        (complies_declareTarget _ incomplete hs hl) fun _ _ h₁ _ => ?_
      exact serves _ (List.mem_cons_self ..) h₁.sound (h.keeps h₁ hl)
    have := complies_typed (k := fun g t l => l.addTyped g t) h (look rfl) conv hs hl
    unfold visitTypedef
    simpa only [bind_assoc] using this
  all_goals exact .pure _

end top

end DeclAtlas
