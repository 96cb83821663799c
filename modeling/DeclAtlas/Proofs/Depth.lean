import DeclAtlas.Extraction.Run

/-! The bound on nested visits. An extraction that its bounds do not cut off gives the same result
under all larger bounds: the bounds stand for nothing but the recursion's end. -/

namespace DeclAtlas

namespace Step

variable {σ α β : Type}

/-- `y` does what `x` does wherever `x` is not cut off. -/
def Agrees (x y : Step Fault σ α) : Prop := ∀ s, (x s).1 ≠ .error .exhausted → y s = x s

namespace Agrees

variable {x x' y y' : Step Fault σ α} {f f' : α → Step Fault σ β}

theorem refl (x : Step Fault σ α) : Agrees x x := fun _ _ => rfl

theorem exhausted (y : Step Fault σ α) : Agrees (Step.fail .exhausted) y := fun _ h => absurd rfl h

theorem bind (hx : Agrees x x') (hf : ∀ a, Agrees (f a) (f' a)) :
    Agrees (x >>= f) (x' >>= f') := by
  intro s h
  rw [bind_run] at h
  rw [bind_run, bind_run]
  rcases hrun : x s with ⟨e | a, s'⟩ <;> rw [hrun] at h
  · rw [hx s (by rw [hrun]; rintro ⟨⟩; exact h rfl), hrun]
  · rw [hx s (by rw [hrun]; exact fun h => by cases h), hrun]
    exact hf a s' h

theorem ite {p : Prop} [Decidable p] (hx : Agrees x x') (hy : Agrees y y') :
    Agrees (if p then x else y) (if p then x' else y') := by
  split
  · exact hx
  · exact hy

theorem handling {handle : Fault → Step Fault σ α} (hx : Agrees x x')
    (hh : handle .exhausted = Step.fail .exhausted) :
    Agrees (x.handling handle) (x'.handling handle) := by
  intro s h
  unfold Step.handling at h ⊢
  rcases hrun : x s with ⟨e | a, s'⟩ <;> rw [hrun] at h
  · have hne : (x s).1 ≠ .error .exhausted := by
      rw [hrun]
      rintro ⟨⟩
      exact h (congrArg (fun y => (y s').1) hh)
    rw [hx s hne, hrun]
  · rw [hx s (by rw [hrun]; exact fun h => by cases h), hrun]

theorem andAlways {k : σ → σ} (hx : Agrees x x') : Agrees (x.andAlways k) (x'.andAlways k) := by
  intro s h
  unfold Step.andAlways at h ⊢
  rw [hx s h]

end Agrees

end Step

structure Recursion.Agrees (r r' : Recursion) : Prop where
  convert : ∀ t c, Step.Agrees (r.convert t c) (r'.convert t c)
  define : ∀ c, Step.Agrees (r.define c) (r'.define c)

open Step (Agrees)

section conversion

variable {u : SourceUnit} {r r' : Recursion}

theorem agrees_materialize (h : r.Agrees r') (d : CursorId) (g : Global) :
    Agrees (materialize u r d g) (materialize u r' d g) := by
  refine .bind (.refl _) fun b => .ite (.refl _) ?_
  cases u.definition? d with
  | none => exact .refl _
  | some k => exact .ite (.bind (h.define k) fun _ => .refl _) (.refl _)

theorem agrees_declaredType (h : r.Agrees r') (d : CursorId) :
    Agrees (declaredType u r d) (declaredType u r' d) := by
  refine .ite (.refl _) (.bind (.refl _) fun g => ?_)
  split
  · exact .refl _
  · refine .ite (h.convert _ d) (.bind (.refl _) fun g => ?_)
    split
    · exact .bind (agrees_materialize h d g) fun _ => .refl _
    · exact .bind (agrees_materialize h d g) fun _ => .refl _
    · exact .refl _

theorem agrees_convertDeclared (h : r.Agrees r') (ps : List CursorId) :
    Agrees (convertDeclared u r ps) (convertDeclared u r' ps) := by
  induction ps with
  | nil => exact .refl _
  | cons p rest ih => exact .bind (h.convert _ p) fun t => .bind ih fun _ => .refl _

theorem agrees_convertUnnamed (h : r.Agrees r') (c : CursorId) (ts : List TypeId) :
    Agrees (convertUnnamed r c ts) (convertUnnamed r' c ts) := by
  induction ts with
  | nil => exact .refl _
  | cons t rest ih => exact .bind (h.convert t c) fun m => .bind ih fun _ => .refl _

theorem agrees_signature (h : r.Agrees r') (f : TypeId) (c : CursorId) :
    Agrees (signature u r f c) (signature u r' f c) := by
  refine .bind (h.convert _ c) fun ret => .ite (.refl _) (.ite ?_ ?_)
  · exact .bind (agrees_convertDeclared h _) fun _ => .refl _
  · exact .bind (agrees_convertUnnamed h c _) fun _ => .refl _

theorem agrees_convertPointer (h : r.Agrees r') (t : TypeId) (c : CursorId) :
    Agrees (convertPointer u r t c) (convertPointer u r' t c) := by
  refine .ite (.bind (h.convert _ c) fun _ => .refl _) (.ite ?_ (.ite (.refl _) (.ite ?_ ?_)))
  · exact .bind (agrees_signature h _ c) fun _ => .refl _
  · exact .bind (agrees_declaredType h _) fun _ => .refl _
  · exact .ite (h.convert _ c) (.refl _)

theorem agrees_convertType (h : r.Agrees r') (t : TypeId) (c : CursorId) :
    Agrees (convertType u r t c) (convertType u r' t c) := by
  unfold convertType
  have declared := agrees_declaredType (u := u) h (u.typeNode t).decl
  have function := agrees_signature (u := u) h t c
  dsimp only
  generalize (u.typeNode t).kind = k
  cases k <;> dsimp only
  case pointer => exact agrees_convertPointer h t c
  case record | enum | typedef => exact declared
  case elaborated => exact h.convert _ c
  case constantArray | incompleteArray | variableArray | dependentSizedArray =>
    exact .bind (h.convert _ c) fun _ => .refl _
  case functionProto | functionNoProto => exact .bind function fun _ => .refl _
  case unexposed => exact .ite declared (.ite (h.convert _ c) (.refl _))
  all_goals exact .refl _

end conversion

section definition

variable {u : SourceUnit} {r r' : Recursion} {parent c : CursorId}

theorem agrees_declare (h : r.Agrees r') (c : CursorId) :
    Agrees (declare u r c) (declare u r' c) := by
  unfold declare
  cases u.definition? c with
  | none => exact .refl _
  | some d => exact .ite (.bind (h.define c) fun _ => .refl _) (.refl _)

theorem agrees_addField (h : r.Agrees r') (acc : Gathering) :
    Agrees (addField u r parent acc c) (addField u r' parent acc c) :=
  .bind (h.convert _ c) fun _ => .refl _

theorem agrees_addNested (h : r.Agrees r') (acc : Gathering) :
    Agrees (addNested u r parent acc c) (addNested u r' parent acc c) :=
  .bind (.refl _) fun _ => .bind (agrees_declare h c) fun _ => .refl _

theorem agrees_gather (h : r.Agrees r') (acc : Gathering) (cs : List CursorId) :
    Agrees (gather u r parent acc cs) (gather u r' parent acc cs) := by
  induction cs generalizing acc with
  | nil => exact .refl _
  | cons c rest ih =>
    unfold gather
    dsimp only
    cases u.kind c <;> dsimp only
    case fieldDecl => exact .bind (agrees_addField h acc) ih
    case structDecl | unionDecl | enumDecl => exact .bind (agrees_addNested h acc) ih
    all_goals exact .bind (.refl _) ih

theorem agrees_visitDefinition (h : r.Agrees r') (c : CursorId) (g : Global) :
    Agrees (visitDefinition u r c g) (visitDefinition u r' c g) := by
  unfold visitDefinition visitMembers
  cases g.form with
  | composite => exact .bind (.bind (agrees_gather h _ _) fun _ => .refl _) fun _ => .refl _
  | _ => exact .refl _

theorem agrees_defineTag (h : r.Agrees r') (c : CursorId) :
    Agrees (defineTag u r c) (defineTag u r' c) := by
  refine .bind (.refl _) fun g => .ite (.refl _) (.bind (.refl _) fun mark => .bind (.refl _)
    fun _ => .bind (.andAlways (.handling (agrees_visitDefinition h c g) rfl)) fun _ => .refl _)

end definition

namespace SourceUnit

variable (u : SourceUnit)

/-- A recursion does what the ones to a smaller depth do, where these are not cut off. -/
theorem recursionWithin_agrees {n n' : Nat} (hn : n ≤ n') :
    (u.recursionWithin n).Agrees (u.recursionWithin n') := by
  induction n generalizing n' with
  | zero => exact ⟨fun t c => .exhausted _, fun c => .exhausted _⟩
  | succ n ih =>
    obtain ⟨n', rfl⟩ : ∃ k, n' = k + 1 := ⟨n' - 1, by omega⟩
    have h : (u.recursionWithin n).Agrees (u.recursionWithin n') := ih (by omega)
    exact ⟨agrees_convertType h, agrees_defineTag h⟩

end SourceUnit

section walk

variable {u : SourceUnit} {r r' : Recursion}

theorem agrees_visitDeclaration (h : r.Agrees r') (c : CursorId) :
    Agrees (visitDeclaration u r c) (visitDeclaration u r' c) := by
  unfold visitDeclaration
  cases u.kind c <;> dsimp only
  case structDecl | unionDecl | enumDecl => exact .bind (agrees_declare h c) fun _ => .refl _
  case functionDecl =>
    exact .bind (.refl _) fun _ => .ite (.bind (.refl _) fun g =>
      .ite (.bind (agrees_signature h _ c) fun _ => .refl _) (.refl _)) (.refl _)
  case varDecl =>
    exact .bind (.refl _) fun _ => .ite (.bind (.refl _) fun g =>
      .ite (.bind (h.convert _ c) fun _ => .refl _) (.refl _)) (.refl _)
  case typedefDecl =>
    exact .bind (.refl _) fun g => .ite (.bind (.refl _) fun _ =>
      .bind (h.convert _ c) fun _ => .refl _) (.refl _)
  all_goals exact .refl _

theorem agrees_visitTop (h : r.Agrees r') (c p : CursorId) :
    Agrees (visitTop u r c p) (visitTop u r' c p) :=
  .ite (.refl _) (.ite (.refl _) (.bind (.handling (agrees_visitDeclaration h c) rfl)
    fun _ => .refl _))

variable {σ : Type} {step step' : CursorId → CursorId → Step Fault σ Advance}

theorem agrees_walkChildren {descend descend' : CursorId → Step Fault σ Bool}
    (hs : ∀ c p, Agrees (step c p) (step' c p)) (hd : ∀ c, Agrees (descend c) (descend' c))
    (p : CursorId) (cs : List CursorId) :
    Agrees (SourceUnit.walkChildren step descend p cs)
      (SourceUnit.walkChildren step' descend' p cs) := by
  induction cs with
  | nil => exact .refl _
  | cons c rest ih =>
    refine .bind (hs c p) fun a => ?_
    cases a with
    | nowhere => exact .refl _
    | beside => exact ih
    | below => exact .bind (hd c) fun _ => .ite (.refl _) ih

theorem agrees_walkWithin (hs : ∀ c p, Agrees (step c p) (step' c p)) {m m' : Nat} (hm : m ≤ m')
    (p : CursorId) : Agrees (u.walkWithin step m p) (u.walkWithin step' m' p) := by
  induction m generalizing m' p with
  | zero => exact .exhausted _
  | succ m ih =>
    obtain ⟨m', rfl⟩ : ∃ k, m' = k + 1 := ⟨m' - 1, by omega⟩
    exact agrees_walkChildren hs (fun c => ih (by omega) c) p _

end walk

namespace SourceUnit

variable (u : SourceUnit)

/-- Prunes what the walk has listed and reads the graph off the list. -/
def conclude : Step Fault Listing Graph := do
  Listing.prune
  let declarations ← Listing.globalsAt (← Step.read (·.order))
  let graph ← Step.read (·.graph declarations)
  Step.modify
    (·.note (.extracted graph.declarations.length graph.diagnostics.length u.spelling))
  return graph

/-- An extraction in which conversions and definitions nest at most `n` deep, and unexposed
declarations at most `m` deep. -/
def extractWithin (n m : Nat) (b : List BuiltinEntry) : Except Fault Graph × Listing :=
  (do let _ ← u.walkWithin (visitTop u (u.recursionWithin n)) m root; u.conclude)
    (.ofBuiltins (.ofEntries b))

theorem extract_eq_extractWithin (b : List BuiltinEntry) :
    u.extract b = u.extractWithin u.recursionBound u.depthBound b := by
  simp only [extract, extraction, gatherTop, walk, extractWithin, conclude, bind_assoc, pure_bind]
  rfl

theorem extractWithin_mono {n n' m m' : Nat} {b : List BuiltinEntry} (hn : n ≤ n') (hm : m ≤ m')
    (h : (u.extractWithin n m b).1 ≠ .error .exhausted) :
    u.extractWithin n' m' b = u.extractWithin n m b :=
  Agrees.bind (agrees_walkWithin (agrees_visitTop (u.recursionWithin_agrees hn)) hm root)
    (fun _ => .refl _) _ h

end SourceUnit

end DeclAtlas
