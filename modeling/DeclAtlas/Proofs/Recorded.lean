import DeclAtlas.Proofs.Arguments
import DeclAtlas.Proofs.Closure
import DeclAtlas.Proofs.Skipping

/-! Where the type of a listed function, variable or typedef comes from. Each of its declarations
that is extracted records its type anew, so the last one counts; nothing else that the extraction
does changes it. A function's own type is taken as it is written, and where it is written as
anything but a prototype the parameters are lost. -/

namespace DeclAtlas

section typing

open Listing

variable {u : SourceUnit} {r : Recursion} {c : CursorId} {l l' l₁ l₂ : Listing}

def typing (u : SourceUnit) (r : Recursion) (c : CursorId) : Step Fault Listing CType :=
  match u.kind c with
  | .functionDecl => do return (← signature u r (u.cursor c).type c).toPointer
  | .varDecl => r.convert (u.cursor c).type c
  | .typedefDecl => do
    declareTarget u (u.typedefTarget c)
    r.convert (u.typedefTarget c) c
  | _ => pure .void

/-- The global with what else its declaration says; that a variable is constant. -/
def SourceUnit.qualified (u : SourceUnit) (c : CursorId) (g : Global) : Global :=
  if u.kind c = .varDecl then g.withConst (u.typeNode (u.cursor c).type).isConst else g

theorem outline_qualified (g : Global) : (u.qualified c g).outline = g.outline := by
  unfold SourceUnit.qualified
  split
  · simp [Global.outline, Global.withConst]
  · rfl

/-- Functions, variables and typedefs are extracted in one way: looked up, and listed with their
type unless they are bound elsewhere. -/
theorem visitDeclaration_eq_typing (typed : u.isTyped c = true) (binding : u.IsBinding c) :
    visitDeclaration u r c = (do
      let g ← lookup u c
      if !g.isBuiltin then
        let t ← typing u r c
        Step.modify (·.addTyped (u.qualified c g) t)) := by
  unfold SourceUnit.isTyped at typed
  unfold visitDeclaration typing SourceUnit.qualified
  cases hk : u.kind c <;> rw [hk] at typed <;> try cases typed
  case functionDecl | varDecl =>
    have linked := (isBinding_of_isLinked (by simp [hk])).1 binding
    simp [visitFunction, visitVar, checkLinkage, linked]
  case typedefDecl =>
    simp [visitTypedef]

theorem runs_typing (hs : l.Sound u) : Runs u (u.Near c) l (typing u u.recursion c)
    fun _ _ => True := by
  have hr := u.recursion_faithful
  unfold typing
  split
  · exact (runs_signature hr hs _ c).map hs fun _ _ _ _ => trivial
  · exact (hr.convert _ c hs).mono hs fun _ _ _ _ => trivial
  · exact (runs_declareTarget hs _).bind hs fun _ l₁ h₁ _ =>
      (hr.convert _ c h₁.sound).mono h₁.sound fun _ _ _ _ => trivial
  · exact .pure trivial

/-- Extracting `c` succeeds and is up to recording a type under `id`. -/
structure Records (u : SourceUnit) (c : CursorId) (l l' : Listing) (id : Int) : Prop where
  run : visitDeclaration u u.recursion c l = (.ok (), l')
  typed : u.isTyped c = true
  binding : u.IsBinding c
  known : l'.registry.idOf? u c = some id

def Finds (u : SourceUnit) (c : CursorId) (l : Listing) (t : CType) : Prop :=
  ∃ g l₁ l₂, lookup u c l = (.ok g, l₁) ∧ typing u u.recursion c l₁ = (.ok t, l₂)

theorem typed_cases (typed : u.isTyped c = true) (binding : u.IsBinding c)
    (run : visitDeclaration u u.recursion c l = (.ok (), l')) :
    ∃ g l₁, lookup u c l = (.ok g, l₁) ∧ (g.isBuiltin = true ∧ l' = l₁ ∨
      g.isBuiltin = false ∧ ∃ t l₂, typing u u.recursion c l₁ = (.ok t, l₂) ∧
        l' = l₂.addTyped (u.qualified c g) t) := by
  rw [visitDeclaration_eq_typing typed binding, Step.bind_run] at run
  rcases look : lookup u c l with ⟨e | g, l₁⟩ <;> rw [look] at run
  · cases run
  refine ⟨g, l₁, rfl, ?_⟩
  cases hb : g.isBuiltin with
  | true =>
    simp only [hb, Bool.not_true, Bool.false_eq_true, if_false] at run
    cases run
    exact .inl ⟨rfl, rfl⟩
  | false =>
    simp only [hb, Bool.not_false, if_true, Step.bind_run] at run
    rcases found : typing u u.recursion c l₁ with ⟨e | t, l₂⟩ <;> rw [found] at run <;> cases run
    exact .inr ⟨rfl, t, l₂, rfl, rfl⟩

end typing

section steps

open Listing

variable {u : SourceUnit} {c : CursorId} {cs : List CursorId} {l l' l₁ l₂ : Listing} {id : Int}
  {d g g₁ : Global} {t t' : CType}

theorem addTyped_recorded (own : g.isBuiltin = false) (hid : id ∈ (l.addTyped g t').order)
    (hd : (l.addTyped g t').registry.globals.get? id = some d) (ht : d.type? = some t) :
    id = g.id ∧ t = t' ∨ id ≠ g.id ∧ id ∈ l.order ∧ l.registry.globals.get? id = some d := by
  obtain ⟨recast, g', added, outline⟩ := addTyped_eq own t' l
  have named := Global.id_of_outline outline
  by_cases he : id = g.id
  · refine .inl ⟨he, ?_⟩
    cases tag : g.form.isTag with
    | false =>
      rw [addTyped_registry tag, Registry.update, Table.get?_insert,
        if_pos (show id = (g.withType t').id from he)] at hd
      cases hd
      rw [Global.type?_withType tag] at ht
      exact (Option.some.inj ht).symm
    | true =>
      -- a record or enum has no place for a type
      rw [added, add_registry, Registry.update, Table.get?_insert,
        if_pos (he.trans named.symm)] at hd
      cases hd
      rw [← Global.isTag_of_outline outline, Global.isTag_eq_false_of_type? ht] at tag
      cases tag
  · refine .inr ⟨he, ((mem_addTyped_order own).1 hid).resolve_right he, ?_⟩
    rw [added, add_registry, Registry.update, Table.get?_insert, if_neg (named ▸ he)] at hd
    exact hd

/-- A step of the walk records a type under an identity, or leaves what is listed there alone. -/
theorem Extracted.recorded (h : Extracted u c l l') (hs : l.Sound u) (hid : id ∈ l'.order)
    (hd : l'.registry.globals.get? id = some d) (ht : d.type? = some t) :
    (id ∈ l.order ∧ l.registry.globals.get? id = some d) ∧ ¬Records u c l l' id ∨
      Records u c l l' id ∧ Finds u c l t := by
  cases h with
  | @skipped l₁ e i run own visit known =>
    rw [skipped_eq known] at hid hd
    refine .inl ⟨typed_of_visit visit hs (List.mem_of_mem_erase hid) hd ht, fun h => ?_⟩
    have := h.run
    rw [run] at this
    cases this
  | declared run declared =>
    by_cases hc : u.isTyped c = true ∧ u.IsBinding c
    · obtain ⟨typed, binding⟩ := hc
      obtain ⟨g, l₁, look, ⟨hb, rfl⟩ | ⟨hb, t', l₂, found, rfl⟩⟩ := typed_cases typed binding run
      · -- what is bound elsewhere is not listed
        refine .inl ⟨typed_of_visit (S := u.Near c) (.of_lookup look) hs hid hd ht, fun h => ?_⟩
        obtain ⟨known, hg⟩ := known_of_lookup hs look
        obtain ⟨g', hg', own⟩ := (proceeds_lookup hs look).sound.listed hid
        rw [h.known] at known
        cases known
        rw [hg] at hg'
        cases hg'
        rw [hb] at own
        cases own
      · have hl := proceeds_lookup hs look
        have visit := ((runs_typing hl.sound).ok found).1
        have hp := visit.proceeds hl.sound
        obtain ⟨g₁, hg₁, ho⟩ := hp.moves.registry.globalOf?
          (hl.sound.registry.globalOf?_eq_some.2 (known_of_lookup hs look))
        have outline : (u.qualified c g).outline = g₁.outline := (outline_qualified g).trans ho.symm
        have own : (u.qualified c g).isBuiltin = false := by
          rw [Global.isBuiltin_of_outline (outline_qualified g), hb]
        have named : (l₂.addTyped (u.qualified c g) t').registry.idOf? u c =
            some (u.qualified c g).id := by
          rw [Global.id_of_outline outline]
          exact (succeeds_addTyped t' hp.sound hg₁ outline own).registry.idOf?
            (hp.sound.registry.globalOf?_eq_some.1 hg₁).1
        rcases addTyped_recorded own hid hd ht with ⟨rfl, rfl⟩ | ⟨he, hid, hd⟩
        · exact .inr ⟨⟨run, typed, binding, named⟩, g, l₁, l₂, look, found⟩
        · obtain ⟨hid, hd⟩ := typed_of_visit visit hl.sound hid hd ht
          refine .inl
            ⟨typed_of_visit (S := u.Near c) (.of_lookup look) hs hid hd ht, fun h => he ?_⟩
          have := h.known
          rw [named] at this
          exact (Option.some.inj this).symm
    · cases declared with
      | visited visit _ =>
        exact .inl ⟨typed_of_visit visit hs hid hd ht, fun h => hc ⟨h.typed, h.binding⟩⟩
      | typed _ kind binding => exact absurd ⟨kind, binding⟩ hc

/-- None of some declarations that the walk comes to from `l` on records a type under `id`. -/
def Silent (u : SourceUnit) (cs : List CursorId) (l : Listing) (id : Int) : Prop :=
  ∀ pre c post l₁ l₂, cs = pre ++ c :: post → Walked u pre l l₁ → ¬Records u c l₁ l₂ id

/-- Of some declarations that the walk comes to from `l` on, `c` is the last that records a type
under `id`; the walk comes to it with the listing `l₁`. -/
def LastRecord (u : SourceUnit) (cs : List CursorId) (l : Listing) (id : Int) (c : CursorId)
    (l₁ : Listing) : Prop :=
  ∃ pre post l₂, cs = pre ++ c :: post ∧ Walked u pre l l₁ ∧ Records u c l₁ l₂ id ∧
    Silent u post l₂ id

theorem visitOne_of_records (h : Records u c l l' id) : visitOne u c l = (.ok (), l') := by
  unfold visitOne Step.handling
  rw [h.run]

theorem Silent.cons (step : visitOne u c l = (.ok (), l')) (first : ¬Records u c l l' id)
    (rest : Silent u cs l' id) : Silent u (c :: cs) l id := by
  rintro (_ | ⟨c', pre⟩) k post l₁ l₂ he hw hr
  · cases he
    cases hw
    have := visitOne_of_records hr
    rw [step] at this
    cases this
    exact first hr
  · cases he
    obtain - | ⟨step', hw⟩ := hw
    rw [step] at step'
    cases step'
    exact rest pre k post l₁ l₂ rfl hw hr

theorem LastRecord.cons (step : visitOne u c l = (.ok (), l')) {k : CursorId}
    (rest : LastRecord u cs l' id k l₁) : LastRecord u (c :: cs) l id k l₁ := by
  obtain ⟨pre, post, l₂, rfl, hw, hr, silent⟩ := rest
  exact ⟨c :: pre, post, l₂, rfl, .cons step hw, hr, silent⟩

/-- What is listed with a type after a walk was so before and no declaration recorded it since, or
it has its type from the last that did. -/
theorem Walked.recorded (h : Walked u cs l l') (hs : l.Sound u) (hid : id ∈ l'.order)
    (hd : l'.registry.globals.get? id = some d) (ht : d.type? = some t) :
    (id ∈ l.order ∧ l.registry.globals.get? id = some d) ∧ Silent u cs l id ∨
      ∃ c l₁, LastRecord u cs l id c l₁ ∧ Finds u c l₁ t := by
  induction h with
  | nil => exact .inl ⟨⟨hid, hd⟩, by rintro (_ | _) _ _ _ _ he <;> cases he⟩
  | @cons c cs l m _ step rest ih =>
    have hx := visitOne_extracted hs step
    rcases ih (hx.advances hs).sound hid hd with ⟨⟨hid, hd⟩, silent⟩ | ⟨k, l₁, last, found⟩
    · rcases hx.recorded hs hid hd ht with ⟨before, none⟩ | ⟨records, found⟩
      · exact .inl ⟨before, .cons step none silent⟩
      · exact .inr ⟨c, l, ⟨[], cs, m, rfl, .nil, records, silent⟩, found⟩
    · exact .inr ⟨k, l₁, last.cons step, found⟩

theorem LastRecord.resume (h : LastRecord u cs l id c l₁) (hw : Walked u cs l l')
    (hs : l.Sound u) : l₁.Sound u ∧
      ∃ post l₂, Records u c l₁ l₂ id ∧ Walked u post l₂ l' ∧ Silent u post l₂ id := by
  obtain ⟨pre, post, l₂, rfl, hpre, records, silent⟩ := h
  obtain ⟨m, hpre', hrest⟩ := hw.split
  cases hpre.unique hpre'
  obtain - | ⟨step, hpost⟩ := hrest
  rw [visitOne_of_records records] at step
  cases step
  exact ⟨(hpre.advances hs).sound, post, l₂, records, hpost, silent⟩

theorem Records.extracted (h : Records u c l l' id) (hs : l.Sound u) : Extracted u c l l' :=
  visitOne_extracted hs (visitOne_of_records h)

theorem LastRecord.finds (h : LastRecord u cs l id c l₁) (hw : Walked u cs l l') (hs : l.Sound u)
    (hid : id ∈ l'.order) (hd : l'.registry.globals.get? id = some d) (ht : d.type? = some t) :
    Finds u c l₁ t := by
  obtain ⟨hs₁, post, l₂, records, hpost, silent⟩ := h.resume hw hs
  have hx := records.extracted hs₁
  rcases hpost.recorded (hx.advances hs₁).sound hid hd ht with ⟨⟨hid, hd⟩, -⟩ | ⟨k, l₃, last, -⟩
  · rcases hx.recorded hs₁ hid hd ht with ⟨-, none⟩ | ⟨-, found⟩
    · exact absurd records none
    · exact found
  · obtain ⟨pre', post', l₄, he, hw', records', -⟩ := last
    exact absurd records' (silent pre' k post' l₃ l₄ he hw')

theorem LastRecord.known (h : LastRecord u cs l id c l₁) (hw : Walked u cs l l') (hs : l.Sound u) :
    l'.registry.idOf? u c = some id := by
  obtain ⟨hs₁, post, l₂, records, hpost, -⟩ := h.resume hw hs
  have hs₂ := ((records.extracted hs₁).advances hs₁).sound
  exact (hpost.advances hs₂).registry.idOf? records.known

/-- The type of a function that extracting it finds has the arguments of its own type, and none if
that is written as anything but a prototype. -/
theorem Finds.function (h : Finds u c l t) (hs : l.Sound u) (kind : u.kind c = .functionDecl) :
    ∃ s : Signature, t = s.toPointer ∧
      s.args.length = (u.sources (u.cursor c).type c).length ∧
      s.variadic = (decide (u.typeKind (u.cursor c).type = .functionProto) &&
        (u.typeNode (u.cursor c).type).variadic) := by
  obtain ⟨g, l₁, l₂, look, found⟩ := h
  have hs₁ := (proceeds_lookup hs look).sound
  simp only [typing, kind, Step.bind_run] at found
  rcases run : signature u u.recursion (u.cursor c).type c l₁ with ⟨e | s, l₃⟩ <;>
    rw [run] at found <;> cases found
  obtain ⟨-, meant, -⟩ := (runs_signature (S := u.Near c) u.recursion_faithful hs₁ _ c).ok run
  exact ⟨s, rfl, SourceUnit.length_args meant, (SourceUnit.signatureMeaning_sources meant).2.2⟩

end steps

namespace SourceUnit

variable {u : SourceUnit} {c : CursorId}

/-- Written as `own`, a function type keeps the parameters of `full` and whether more may follow. -/
def KeepsSignature (own full : TypeNode) : Prop :=
  if own.kind = .functionProto then
    own.params.length = full.params.length ∧ own.variadic = full.variadic
  else full.params = [] ∧ full.variadic = false

/-- `c` is the last declaration of the top level that records a type under `id`. -/
def LastDeclared (u : SourceUnit) (b : List BuiltinEntry) (id : Int) (c : CursorId) : Prop :=
  ∃ l, LastRecord u u.topLevel (.ofBuiltins (.ofEntries b)) id c l

end SourceUnit

section completed

open Listing SourceUnit

variable {u : SourceUnit} {b : List BuiltinEntry} {g : Graph} {l walked : Listing} {d : Global}
  {location : Location} {t : CType} {c : CursorId}

theorem Completed.walked_of_function (hc : Completed u b walked l g) (hd : d ∈ g.declarations)
    (function : d.form = .function location t) : d.id ∈ walked.order ∧
      walked.registry.globals.get? d.id = some d ∧ d.type? = some t := by
  obtain ⟨hid, hget⟩ := hc.mem_declarations.1 hd
  rw [hc.pruned.globals] at hget
  exact ⟨hc.pruned.order.subset hid, hget, by rw [Global.type?, function]; rfl⟩

theorem Completed.kind_of_lastDeclared (hc : Completed u b walked l g) (hd : d ∈ g.declarations)
    (function : d.form = .function location t) (last : u.LastDeclared b d.id c) :
    u.kind (u.canonical c) = .functionDecl := by
  obtain ⟨l₁, last⟩ := last
  obtain ⟨-, hget, -⟩ := hc.walked_of_function hd function
  have known := last.known hc.walk (sound_start u b)
  have own : d.isBuiltin = false := by rw [Global.isBuiltin, function]; rfl
  have declared := hc.sound_walked.registry.cursorKind?_eq
    (hc.sound_walked.registry.globalOf?_eq_some.2 ⟨known, hget⟩) own
  rw [function] at declared
  exact (Option.some.inj declared).symm

/-- A function of the graph has the signature of its last declaration, as that is written. If it is
written as a prototype, it has all the parameters; if it is written in another way, they are lost,
and so is whether more may follow. So the signature is that of the canonical type exactly when the
type is written as a prototype like it, or when there is nothing to lose. -/
theorem function_signature_iff (h : u.extract b = (.ok g, l)) (hd : d ∈ g.declarations)
    (function : d.form = .function location t) :
    (∃ c, u.LastDeclared b d.id c) ∧ ∀ c, u.LastDeclared b d.id c →
      u.kind (u.canonical c) = .functionDecl ∧ (u.kind c = .functionDecl →
        let own := u.typeNode (u.cursor c).type
        let full := u.typeNode (u.canonicalType (u.cursor c).type)
        ∃ ret args variadic, t = .functionPointer ret args variadic ∧
          (own.kind = .functionProto →
            args.length = own.params.length ∧ variadic = own.variadic) ∧
          (own.kind ≠ .functionProto → args = [] ∧ variadic = false) ∧
          (args.length = full.params.length ∧ variadic = full.variadic ↔
            KeepsSignature own full)) := by
  obtain ⟨walked, hc⟩ := extract_completed h
  obtain ⟨listed, hget, typed⟩ := hc.walked_of_function hd function
  have start := sound_start u b
  refine ⟨?_, fun c last => ⟨hc.kind_of_lastDeclared hd function last, fun kind => ?_⟩⟩
  · rcases hc.walk.recorded start listed hget typed with ⟨⟨hid, -⟩, -⟩ | ⟨c, l₁, last, -⟩
    · cases hid
    · exact ⟨c, l₁, last⟩
  obtain ⟨l₁, last⟩ := last
  have found := last.finds hc.walk start listed hget typed
  have hs₁ := (last.resume hc.walk start).1
  obtain ⟨⟨ret, args, variadic⟩, rfl, number, more⟩ := found.function hs₁ kind
  dsimp only at number more
  have written (proto : u.typeKind (u.cursor c).type = .functionProto) :
      args.length = (u.typeNode (u.cursor c).type).params.length ∧
        variadic = (u.typeNode (u.cursor c).type).variadic := by
    rw [u.length_sources proto] at number
    exact ⟨number, by simpa [proto] using more⟩
  have lost (sugar : u.typeKind (u.cursor c).type ≠ .functionProto) :
      args = [] ∧ variadic = false := by
    rw [u.sources_of_ne sugar] at number
    exact ⟨List.length_eq_zero_iff.1 number, by simpa [sugar] using more⟩
  refine ⟨ret, args, variadic, rfl, written, lost, ?_⟩
  unfold KeepsSignature
  split <;> rename_i own
  · rw [(written own).1, (written own).2]
  · rw [(lost own).1, (lost own).2, List.length_nil, eq_comm, List.length_eq_zero_iff,
      @eq_comm _ false]

end completed

/-- `typedef int F(int x, ...); F f;` if the type of `f` is written as type 1, and
`int f(int, ...);` if as type 0. -/
def variadicFunction (written : TypeId) : SourceUnit where
  spelling := "test.c"
  cursors := #[
    { kind := .other "TRANSLATION_UNIT", spelling := "test.c", children := [.node 1, .node 2] },
    { kind := .typedefDecl, spelling := "F", file := some "test.c", line := 1, column := 13,
      underlying := .node 0, children := [.node 3] },
    { kind := .functionDecl, spelling := "f", file := some "test.c", line := 2, column := 3,
      type := written, args := [.node 4], linkage := .external },
    { kind := .parmDecl, spelling := "x", file := some "test.c", line := 1, column := 19,
      type := .node 2 },
    { kind := .parmDecl, file := some "test.c", line := 2, column := 3, type := .node 2 }]
  types := #[
    { kind := .functionProto, spelling := "int (int, ...)", result := .node 2,
      params := [.node 2], variadic := true },
    { kind := .elaborated, spelling := "F", canonical := some (.node 0), named := .node 3,
      result := .node 2, decl := .node 1 },
    { kind := .int, spelling := "int" },
    { kind := .typedef, spelling := "F", canonical := some (.node 0), result := .node 2,
      decl := .node 1 }]

/-- Whether a global is a function of a type that `p` accepts. -/
def Global.isFunctionOf (p : CType → Bool) (d : Global) : Bool :=
  match d.form with
  | .function _ t => p t
  | _ => false

theorem Global.exists_of_isFunctionOf {p : CType → Bool} {d : Global}
    (h : d.isFunctionOf p = true) : ∃ location t, d.form = .function location t ∧ p t = true := by
  unfold isFunctionOf at h
  split at h
  · exact ⟨_, _, ‹_›, h⟩
  · cases h

theorem eq_of_kind_canonical {written : TypeId} {c : CursorId}
    (h : (variadicFunction written).kind ((variadicFunction written).canonical c) = .functionDecl) :
    c = .node 2 := by
  rcases c with _ | i
  · cases h
  · rcases i with _ | _ | _ | _ | _ | i <;> first | rfl | cases h

theorem variadicFunction_yields : (variadicFunction (.node 0)).yields [] fun g _ =>
    g.declarations.any (Global.isFunctionOf fun _ => true) := by
  decide +kernel

/-- A function that is written as a prototype keeps its parameter, and that more may follow. -/
theorem prototype_keeps_signature : ∃ g l d location ret a,
    (variadicFunction (.node 0)).extract [] = (.ok g, l) ∧ d ∈ g.declarations ∧
      d.form = .function location (.functionPointer ret [a] true) := by
  obtain ⟨g, l, h, hp⟩ := SourceUnit.exists_of_yields variadicFunction_yields
  obtain ⟨d, hd, hp⟩ := List.any_eq_true.1 hp
  obtain ⟨location, t, function, -⟩ := Global.exists_of_isFunctionOf hp
  obtain ⟨⟨c, last⟩, sig⟩ := function_signature_iff h hd function
  obtain ⟨kind, sig⟩ := sig c last
  obtain rfl := eq_of_kind_canonical kind
  obtain ⟨ret, args, variadic, rfl, written, -⟩ := sig rfl
  obtain ⟨one, rfl⟩ := written rfl
  obtain ⟨a, rfl⟩ := List.length_eq_one_iff.1 one
  exact ⟨g, l, d, location, ret, a, h, hd, function⟩

theorem writtenFunction_yields : (variadicFunction (.node 1)).yields [] fun g _ =>
    g.declarations.any (Global.isFunctionOf fun t => match t with
      | .functionPointer _ [] false => true
      | _ => false) := by
  decide +kernel

/-- A function that is written as the name of its type has lost both. -/
theorem typedef_loses_signature : ∃ g l d location ret,
    (variadicFunction (.node 1)).extract [] = (.ok g, l) ∧ d ∈ g.declarations ∧
      d.form = .function location (.functionPointer ret [] false) ∧
      ∀ c, (variadicFunction (.node 1)).LastDeclared [] d.id c →
        let u := variadicFunction (.node 1)
        let full := u.typeNode (u.canonicalType (u.cursor c).type)
        full.kind = .functionProto ∧ full.params.length = 1 ∧ full.variadic = true := by
  obtain ⟨g, l, h, hp⟩ := SourceUnit.exists_of_yields writtenFunction_yields
  obtain ⟨d, hd, hp⟩ := List.any_eq_true.1 hp
  obtain ⟨location, t, function, hp⟩ := Global.exists_of_isFunctionOf hp
  split at hp
  · obtain ⟨walked, hc⟩ := SourceUnit.extract_completed h
    refine ⟨g, l, d, location, _, h, hd, function, fun c last => ?_⟩
    obtain rfl := eq_of_kind_canonical (hc.kind_of_lastDeclared hd function last)
    exact ⟨rfl, rfl, rfl⟩
  · cases hp

end DeclAtlas
