import DeclAtlas.Proofs.Demand
import DeclAtlas.Proofs.Linked
import Mathlib.Data.List.Forall2

/-! Where the arguments of function types come from. A conversion comes to the function types inside
a type one after another, each as seen from some cursor, and makes one signature for each. The
parameters declared at the cursor are taken for a prototype when they agree with it in number; the
cursor of a function is kept while its result type is converted, so its parameters can be taken for
another prototype than its own. -/

namespace DeclAtlas

namespace CType

def signature? : CType → Option Signature
  | .prototype ret args variadic | .functionPointer ret args variadic => some ⟨ret, args, variadic⟩
  | _ => none

/-- The signatures of the function types that stand in a type, from the outside in. -/
def functions (t : CType) : List Signature := t.parts.filterMap signature?

theorem filterMap_argParts (args : List (Param CType)) :
    (argParts args).filterMap signature? = args.flatMap fun a => a.type.functions := by
  induction args with
  | nil => rfl
  | cons a rest ih => simp [argParts, List.filterMap_append, ih, functions]

@[simp] theorem functions_toPrototype (s : Signature) : s.toPrototype.functions =
    s :: (s.ret.functions ++ s.args.flatMap fun a => a.type.functions) := by
  rw [← filterMap_argParts, functions, functions, ← List.filterMap_append]
  rfl

@[simp] theorem functions_toPointer (s : Signature) : s.toPointer.functions =
    s :: (s.ret.functions ++ s.args.flatMap fun a => a.type.functions) := by
  rw [← filterMap_argParts, functions, functions, ← List.filterMap_append]
  rfl

end CType

theorem Registry.Sound.functions_link {u : SourceUnit} {r : Registry} (hs : r.Sound u)
    (d : CursorId) : SourceUnit.Ensures (fun k => k.type.functions = []) (r.link? u d) := by
  intro k hk
  obtain ⟨g, hg, rfl⟩ := Option.map_eq_some_iff.1 hk
  unfold Global.link Global.reference
  cases form : g.form with
  | builtin t =>
    obtain ⟨external, -, rfl⟩ := hs.external_of_builtin hg form
    rfl
  | _ => rfl

namespace SourceUnit

section sights

variable (u : SourceUnit)

/-- What the arguments of a function type are converted from: a name, and a type as seen from a
cursor. -/
def sources (f : TypeId) (c : CursorId) : List (Param (TypeId × CursorId)) :=
  if u.typeKind f ≠ .functionProto then []
  else if (u.parameters c).length = (u.typeNode f).params.length then
    (u.parameters c).map fun p => ⟨u.spellingOf p, (u.cursor p).type, p⟩
  else (u.typeNode f).params.map fun t => ⟨"", t, c⟩

theorem signatureDemands_eq (f : TypeId) (c : CursorId) :
    u.signatureDemands f c = ((u.typeNode f).result, c) :: (u.sources f c).map Param.type := by
  rw [signatureDemands, sources, typeKind]
  split
  · rfl
  · split <;> simp [Function.comp_def]

theorem length_sources {f : TypeId} (proto : u.typeKind f = .functionProto) (c : CursorId) :
    (u.sources f c).length = (u.typeNode f).params.length := by
  unfold sources
  split
  · contradiction
  · split
    · rwa [List.length_map]
    · rw [List.length_map]

theorem sources_of_ne {f : TypeId} (kind : u.typeKind f ≠ .functionProto) (c : CursorId) :
    u.sources f c = [] := if_pos kind

/-- Parameters are declared with types that have these canonical types. -/
def DeclaredAs (ps : List CursorId) (ts : List TypeId) : Prop :=
  ps.map (fun p => u.canonicalType (u.cursor p).type) = ts.map u.canonicalType

instance (ps : List CursorId) (ts : List TypeId) : Decidable (u.DeclaredAs ps ts) :=
  inferInstanceAs (Decidable (_ = _))

/-- The parameters declared at the cursor are those of the function type, unless they differ from
them in number already. -/
def Aligned (f : TypeId) (c : CursorId) : Prop :=
  (u.parameters c).length = (u.typeNode f).params.length →
    u.DeclaredAs (u.parameters c) (u.typeNode f).params

instance (f : TypeId) (c : CursorId) : Decidable (u.Aligned f c) :=
  inferInstanceAs (Decidable (_ → _))

/-- The arguments of a prototype are converted from the types that it has for them exactly when the
parameters declared at the cursor do not get in the way. -/
theorem sources_canonical_iff {f : TypeId} (proto : u.typeKind f = .functionProto) (c : CursorId) :
    (u.sources f c).map (fun s => u.canonicalType s.type.1) =
      (u.typeNode f).params.map u.canonicalType ↔ u.Aligned f c := by
  rw [sources, if_neg (not_not.2 proto), Aligned, DeclaredAs]
  split <;> rename_i h <;> simp [h, Function.comp_def]

variable (link : CursorId → Option Link) (inner : TypeId → CursorId → List (TypeId × CursorId))

/-- A function type as seen from a cursor, and those in its result and its arguments. -/
def signatureSights (f : TypeId) (c : CursorId) : List (TypeId × CursorId) :=
  (f, c) :: (u.signatureDemands f c).flatMap fun y => inner y.1 y.2

/-- The function types behind a reference to a declaration; there are some only where a typedef is
looked through. -/
def declaredSights (d : CursorId) : List (TypeId × CursorId) :=
  if !(u.kind d).isTypeDecl then []
  else (link d).elim [] fun k =>
    if k.bound then [] else (u.declaredDemands d).flatMap fun y => inner y.1 y.2

def pointerSights (t : TypeId) (c : CursorId) : List (TypeId × CursorId) :=
  let target := u.pointerTarget t
  let node := u.typeNode target
  if node.kind ≠ .unexposed && !node.kind.isFunction then inner target c
  else if u.typeKind node.result ≠ .invalid then u.signatureSights inner target c
  else if !u.isFound node.decl then []
  else if (u.kind node.decl).isTypeDecl then u.declaredSights link inner node.decl
  else if u.kind c = .varDecl &&
      u.typeKind (u.typeNode (u.canonicalType t)).pointee ≠ .unexposed then
    inner (u.canonicalType t) c
  else []

def typeSights (t : TypeId) (c : CursorId) : List (TypeId × CursorId) :=
  let node := u.typeNode t
  match node.kind with
  | .pointer => u.pointerSights link inner t c
  | .constantArray | .incompleteArray | .variableArray | .dependentSizedArray =>
    inner node.element c
  | .functionProto | .functionNoProto => u.signatureSights inner t c
  | .elaborated => inner node.named c
  | .record | .enum | .typedef => u.declaredSights link inner node.decl
  | .unexposed =>
    if (u.kind node.decl).isTypeDecl then u.declaredSights link inner node.decl
    else if u.typeKind (u.canonicalType t) ≠ .unexposed then inner (u.canonicalType t) c
    else []
  | _ => []

end sights

/-- The function types that the conversion of a type comes to, each with the cursor from which it is
seen, in order and through at most `depth` nested types. -/
def sightsWithin (u : SourceUnit) (link : CursorId → Option Link) :
    Nat → TypeId → CursorId → List (TypeId × CursorId)
  | 0, _, _ => []
  | depth + 1, t, c => u.typeSights link (u.sightsWithin link depth) t c

/-- The signature is that of the function type as seen from the cursor: each argument has the name
of its source, and the type that this source denotes. -/
structure Fits (u : SourceUnit) (r : Registry) (f : TypeId × CursorId) (s : Signature) : Prop where
  ret : u.Denotes r (u.typeNode f.1).result f.2 s.ret
  args : List.Forall₂ (fun source a => a.name = source.name ∧
    u.Denotes r source.type.1 source.type.2 a.type) (u.sources f.1 f.2) s.args
  variadic : s.variadic = (decide (u.typeKind f.1 = .functionProto) && (u.typeNode f.1).variadic)

section pieces

variable {u : SourceUnit} {r : Registry} {link : CursorId → Option Link}
  {conv : TypeId → CursorId → Option CType} {inner : TypeId → CursorId → List (TypeId × CursorId)}

theorem declaredMeanings_sources (ps : List CursorId) :
    Ensures (List.Forall₂ (fun source a => a.name = source.name ∧
        conv source.type.1 source.type.2 = some a.type)
      (ps.map fun p => (⟨u.spellingOf p, (u.cursor p).type, p⟩ : Param (TypeId × CursorId))))
      (u.declaredMeanings conv ps) := by
  induction ps with
  | nil => exact .some .nil
  | cons p rest ih =>
    intro args h
    obtain ⟨t, ht, h⟩ := Option.bind_eq_some_iff.1 h
    obtain ⟨others, hothers, rfl⟩ := Option.map_eq_some_iff.1 h
    exact .cons ⟨rfl, ht⟩ (ih others hothers)

theorem unnamedMeanings_sources (c : CursorId) (ts : List TypeId) :
    Ensures (List.Forall₂ (fun source a => a.name = source.name ∧
        conv source.type.1 source.type.2 = some a.type)
      (ts.map fun t => (⟨"", t, c⟩ : Param (TypeId × CursorId))))
      (unnamedMeanings conv c ts) := by
  induction ts with
  | nil => exact .some .nil
  | cons t rest ih =>
    intro args h
    obtain ⟨m, hm, h⟩ := Option.bind_eq_some_iff.1 h
    obtain ⟨others, hothers, rfl⟩ := Option.map_eq_some_iff.1 h
    exact .cons ⟨rfl, hm⟩ (ih others hothers)

theorem signatureMeaning_sources {f : TypeId} {c : CursorId} {s : Signature}
    (h : u.signatureMeaning conv f c = some s) :
    conv (u.typeNode f).result c = some s.ret ∧
    List.Forall₂ (fun source a => a.name = source.name ∧
      conv source.type.1 source.type.2 = some a.type) (u.sources f c) s.args ∧
    s.variadic = (decide (u.typeKind f = .functionProto) && (u.typeNode f).variadic) := by
  obtain ⟨ret, hret, h⟩ := Option.bind_eq_some_iff.1 h
  rw [sources, typeKind]
  split at h
  · rename_i kind
    cases h
    rw [if_pos kind]
    exact ⟨hret, .nil, by simp [kind]⟩
  · rename_i kind
    obtain ⟨args, hargs, rfl⟩ := Option.map_eq_some_iff.1 h
    rw [if_neg kind]
    refine ⟨hret, ?_, by simp [not_not.1 kind]⟩
    unfold parameterMeanings at hargs
    split at hargs <;> rename_i number
    · rw [if_pos number]
      exact declaredMeanings_sources _ args hargs
    · rw [if_neg number]
      exact unnamedMeanings_sources c _ args hargs

theorem length_args {f : TypeId} {c : CursorId} {s : Signature}
    (h : u.signatureMeaning conv f c = some s) : s.args.length = (u.sources f c).length :=
  (signatureMeaning_sources h).2.1.length_eq.symm

section fits

variable (hd : ∀ t c m, conv t c = some m → u.Denotes r t c m)
  (hc : ∀ t c, Ensures (fun m => List.Forall₂ (u.Fits r) (inner t c) m.functions) (conv t c))

include hc

theorem fits_args {sources : List (Param (TypeId × CursorId))} {args : List (Param CType)}
    (h : List.Forall₂ (fun source a => a.name = source.name ∧
      conv source.type.1 source.type.2 = some a.type) sources args) :
    List.Forall₂ (u.Fits r) ((sources.map Param.type).flatMap fun y => inner y.1 y.2)
      (args.flatMap fun a => a.type.functions) := by
  induction h with
  | nil => exact .nil
  | cons first _ ih => exact List.rel_append (hc _ _ _ first.2) ih

include hd

theorem fits_signature {f : TypeId} {c : CursorId} {s : Signature}
    (h : u.signatureMeaning conv f c = some s) :
    List.Forall₂ (u.Fits r) (u.signatureSights inner f c)
      (s :: (s.ret.functions ++ s.args.flatMap fun a => a.type.functions)) := by
  obtain ⟨hret, hargs, variadic⟩ := signatureMeaning_sources h
  rw [signatureSights, signatureDemands_eq]
  refine .cons ⟨hd _ _ _ hret, ?_, variadic⟩ (List.rel_append (hc _ _ _ hret) (fits_args hc hargs))
  exact hargs.imp fun source a ha => ⟨ha.1, hd _ _ _ ha.2⟩

variable (hl : ∀ d, Ensures (fun k => k.type.functions = []) (link d))

include hl

omit hd in
theorem fits_declared (d : CursorId) :
    Ensures (fun m => List.Forall₂ (u.Fits r) (u.declaredSights link inner d) m.functions)
      (u.declaredMeaning link conv d) := by
  intro m h
  unfold declaredMeaning at h
  unfold declaredSights
  split at h <;> rename_i kind
  · cases h
    rw [if_pos kind]
    exact .nil
  rw [if_neg kind]
  obtain ⟨k, hk, h⟩ := Option.bind_eq_some_iff.1 h
  rw [hk, Option.elim_some]
  have none := hl d k hk
  split at h <;> rename_i bound
  · cases h
    rw [if_pos bound, none]
    exact .nil
  rw [if_neg bound, declaredDemands]
  split at h <;> rename_i through
  · rw [if_pos through, List.flatMap_singleton]
    exact hc _ _ m h
  · cases h
    rw [if_neg through, none]
    exact .nil

theorem fits_pointer (t : TypeId) (c : CursorId) :
    Ensures (fun m => List.Forall₂ (u.Fits r) (u.pointerSights link inner t c) m.functions)
      (u.pointerMeaning link conv t c) := by
  unfold pointerMeaning pointerSights
  dsimp only
  split
  · exact .map (hc _ _) fun h => h
  split
  · intro m h
    obtain ⟨s, hs, rfl⟩ := Option.map_eq_some_iff.1 h
    rw [CType.functions_toPointer]
    exact fits_signature hd hc hs
  split
  · exact .some .nil
  split
  · exact .map (fits_declared hc hl _) fun h => h
  split
  · exact hc _ _
  · exact .some .nil

theorem fits_type (t : TypeId) (c : CursorId) :
    Ensures (fun m => List.Forall₂ (u.Fits r) (u.typeSights link inner t c) m.functions)
      (u.typeMeaning link conv t c) := by
  have base (x : Option BaseKind) :
      Ensures (fun m : CType => List.Forall₂ (u.Fits r) [] m.functions) (x.map CType.base) :=
    .map (P := fun _ => True) (fun _ _ => trivial) fun _ => .nil
  have function : Ensures (fun m => List.Forall₂ (u.Fits r) (u.signatureSights inner t c)
      m.functions) ((u.signatureMeaning conv t c).map Signature.toPrototype) := by
    intro m h
    obtain ⟨s, hs, rfl⟩ := Option.map_eq_some_iff.1 h
    rw [CType.functions_toPrototype]
    exact fits_signature hd hc hs
  unfold typeMeaning typeSights
  dsimp only
  generalize (u.typeNode t).kind = k
  cases k <;> dsimp only
  case void | invalid | bool => exact .some .nil
  case pointer => exact fits_pointer hd hc hl t c
  case constantArray | incompleteArray | variableArray | dependentSizedArray =>
    exact .map (hc _ _) fun h => h
  case functionProto | functionNoProto => exact function
  case elaborated => exact hc _ _
  case record | enum | typedef => exact fits_declared hc hl _
  case unexposed =>
    split
    · exact fits_declared hc hl _
    split
    · exact hc _ _
    · exact .some .nil
  case int128 | uint128 | vector => exact fun _ h => by cases h
  all_goals exact base _

end fits

end pieces

/-- A meaning has one function type for each that the conversion comes to, in the same order, and
each takes its arguments from its own sources. -/
theorem fits_meaningWithin {u : SourceUnit} {r : Registry} (hs : r.Sound u) (n : Nat) (t : TypeId)
    (c : CursorId) :
    Ensures (fun m => List.Forall₂ (u.Fits r) (u.sightsWithin (r.link? u) n t c) m.functions)
      (u.meaningWithin (r.link? u) n t c) := by
  induction n generalizing t c with
  | zero => intro m h; cases h
  | succ n ih => exact fits_type (fun t c m h => ⟨n, h⟩) ih hs.functions_link t c

/-- The arguments belong to the function type: there are as many as it has parameters, and each is
what some type with the canonical type of the parameter denotes. -/
def Belong (u : SourceUnit) (r : Registry) (f : TypeId) (s : Signature) : Prop :=
  List.Forall₂ (fun a t => ∃ t' c, u.canonicalType t' = u.canonicalType t ∧ u.Denotes r t' c a.type)
    s.args (u.typeNode f).params

theorem belong_of_sources {u : SourceUnit} {r : Registry}
    {sources : List (Param (TypeId × CursorId))} {args : List (Param CType)} {ts : List TypeId}
    (denoted : List.Forall₂ (fun source a => a.name = source.name ∧
      u.Denotes r source.type.1 source.type.2 a.type) sources args)
    (same : sources.map (fun s => u.canonicalType s.type.1) = ts.map u.canonicalType) :
    List.Forall₂ (fun a t => ∃ t' c, u.canonicalType t' = u.canonicalType t ∧
      u.Denotes r t' c a.type) args ts := by
  induction denoted generalizing ts with
  | nil =>
    cases ts with
    | nil => exact .nil
    | cons t ts => cases same
  | @cons source a _ _ first _ ih =>
    cases ts with
    | nil => cases same
    | cons t ts =>
      rw [List.map_cons, List.map_cons, List.cons.injEq] at same
      exact .cons ⟨source.type.1, source.type.2, same.1, first.2⟩ (ih same.2)

/-- How the signature that is made for a function type, as seen from a cursor, has its arguments. -/
structure Takes (u : SourceUnit) (r : Registry) (f : TypeId × CursorId) (s : Signature) : Prop where
  fits : u.Fits r f s
  arity : u.typeKind f.1 = .functionProto → s.args.length = (u.typeNode f.1).params.length
  source : u.typeKind f.1 = .functionProto →
    ((u.sources f.1 f.2).map (fun s => u.canonicalType s.type.1) =
      (u.typeNode f.1).params.map u.canonicalType ↔ u.Aligned f.1 f.2)
  belong : u.typeKind f.1 = .functionProto → u.Aligned f.1 f.2 → u.Belong r f.1 s

theorem Fits.takes {u : SourceUnit} {r : Registry} {f : TypeId × CursorId} {s : Signature}
    (h : u.Fits r f s) : u.Takes r f s where
  fits := h
  arity proto := h.args.length_eq.symm.trans (u.length_sources proto f.2)
  source proto := u.sources_canonical_iff proto f.2
  belong proto aligned := belong_of_sources h.args ((u.sources_canonical_iff proto f.2).2 aligned)

end SourceUnit

section conversion

open SourceUnit

variable {u : SourceUnit} {l : Listing}

/-- A conversion makes one signature for each function type that it comes to. A prototype gets as
many arguments as it has parameters, each from its source. Where the parameters declared at the
cursor agree with the prototype in number, they are its sources; the arguments belong to the
prototype if those are its parameters indeed, as they are for the function that is declared
there. -/
theorem function_types_take_arguments (hs : l.Sound u) (n : Nat) (t : TypeId) (c : CursorId) :
    (∀ m l', u.convertWithin n t c l = (.ok m, l') →
      List.Forall₂ (u.Takes l'.registry) (u.sightsWithin (l'.registry.link? u) n t c)
        m.functions) ∧
    ∀ s l', signature u (u.recursionWithin n) t c l = (.ok s, l') →
      List.Forall₂ (u.Takes l'.registry)
        (u.signatureSights (u.sightsWithin (l'.registry.link? u) n) t c) s.toPointer.functions ∧
      (u.kind c = .functionDecl → u.typeKind t = .functionProto →
        u.DeclaredAs (u.cursor c).args (u.typeNode t).params → u.Belong l'.registry t s) := by
  have faithful := u.recursionWithin_faithful n
  constructor
  · intro m l' run
    obtain ⟨visit, meant, -⟩ := (faithful.convert (S := fun _ => False) t c hs).ok run
    have hs' := (visit.proceeds hs).sound.registry
    exact (fits_meaningWithin hs' n t c m meant).imp fun _ _ h => h.takes
  · intro s l' run
    obtain ⟨visit, meant, -⟩ := (runs_signature (S := fun _ => False) faithful hs t c).ok run
    have hs' := (visit.proceeds hs).sound.registry
    have fits := fits_signature (fun t c m h => ⟨n, h⟩) (fits_meaningWithin hs' n) meant
    rw [CType.functions_toPointer]
    refine ⟨fits.imp fun _ _ h => h.takes, fun kind proto own => ?_⟩
    obtain - | ⟨itself, -⟩ := fits
    refine itself.takes.belong proto fun _ => ?_
    rw [parameters, if_pos kind]
    exact own

/-- `void (*signal(int sig, void (*handler)(int)))(int)` -/
def signalUnit : SourceUnit where
  spelling := "test.c"
  cursors := #[
    { kind := .other "TRANSLATION_UNIT", spelling := "test.c", children := [.node 1] },
    { kind := .functionDecl, spelling := "signal", file := some "test.c", line := 1, column := 8,
      type := .node 0, args := [.node 2, .node 3], linkage := .external },
    { kind := .parmDecl, spelling := "sig", file := some "test.c", line := 1, column := 19,
      type := .node 2 },
    { kind := .parmDecl, spelling := "handler", file := some "test.c", line := 1, column := 31,
      type := .node 1, children := [.node 4] },
    { kind := .parmDecl, file := some "test.c", line := 1, column := 43, type := .node 2 }]
  types := #[
    { kind := .functionProto, spelling := "void (*(int, void (*)(int)))(int)", result := .node 1,
      params := [.node 2, .node 1] },
    { kind := .pointer, spelling := "void (*)(int)", pointee := .node 3 },
    { kind := .int, spelling := "int" },
    { kind := .functionProto, spelling := "void (int)", result := .node 4, params := [.node 2] },
    { kind := .void, spelling := "void" }]

/-- The function has two parameters and the function behind its result one, so neither takes the
parameters of the other. -/
theorem signal_takes_arguments :
    ∃ s l', signature signalUnit (signalUnit.recursionWithin 3) (.node 0) (.node 1)
        (.ofBuiltins ∅) = (.ok s, l') ∧ s.toPointer.functions.length = 3 ∧
      List.Forall₂ (signalUnit.Takes l'.registry)
        [(.node 0, .node 1), (.node 3, .node 1), (.node 3, .node 3)] s.toPointer.functions ∧
      signalUnit.Belong l'.registry (.node 0) s := by
  have given : Step.gives (signature signalUnit (signalUnit.recursionWithin 3) (.node 0) (.node 1))
      (.ofBuiltins ∅) (fun s => s.toPointer.functions.length == 3) = true := by decide +kernel
  obtain ⟨s, l', run, three⟩ := Step.exists_of_gives given
  have sound := Listing.sound_ofBuiltins signalUnit ∅
  obtain ⟨takes, belong⟩ :=
    (function_types_take_arguments sound 3 (.node 0) (.node 1)).2 s l' run
  exact ⟨s, l', run, by simpa using three, takes,
    belong (by decide) (by decide) (by decide)⟩

/-- `int (*f(double x))(char)` -/
def resultUnit : SourceUnit where
  spelling := "test.c"
  cursors := #[
    { kind := .other "TRANSLATION_UNIT", spelling := "test.c", children := [.node 1] },
    { kind := .functionDecl, spelling := "f", file := some "test.c", line := 1, column := 7,
      type := .node 0, args := [.node 2], linkage := .external },
    { kind := .parmDecl, spelling := "x", file := some "test.c", line := 1, column := 16,
      type := .node 2 }]
  types := #[
    { kind := .functionProto, spelling := "int (*(double))(char)", result := .node 1,
      params := [.node 2] },
    { kind := .pointer, spelling := "int (*)(char)", pointee := .node 3 },
    { kind := .double, spelling := "double" },
    { kind := .functionProto, spelling := "int (char)", result := .node 5, params := [.node 4] },
    { kind := .charS, spelling := "char" },
    { kind := .int, spelling := "int" }]

theorem resultUnit_denotes {r : Registry} {t : TypeId} {c : CursorId}
    (h : resultUnit.Denotes r t c (.base .double)) :
    resultUnit.canonicalType t ≠ resultUnit.canonicalType (.node 4) := by
  intro same
  have own : ∀ t, resultUnit.canonicalType t = t := by
    rintro (_ | i)
    · rfl
    · rcases i with _ | _ | _ | _ | _ | _ | i <;> rfl
  rw [own, own] at same
  subst same
  obtain ⟨_ | n, h⟩ := h <;> cases h

/-- The function's own parameter is declared as it should be, but the function behind its result
takes it as well: a `double`, where its prototype has a `char`. -/
theorem result_takes_parameter_of_function :
    (∀ c, resultUnit.kind c = .functionDecl → resultUnit.DeclaredAs (resultUnit.cursor c).args
      (resultUnit.typeNode (resultUnit.cursor c).type).params) ∧
    resultUnit.pointerTarget (resultUnit.typeNode (.node 0)).result = .node 3 ∧
    ∃ s inner l', signature resultUnit resultUnit.recursion (.node 0) (.node 1)
        (.ofBuiltins ∅) = (.ok s, l') ∧ s.ret = inner.toPointer ∧
      inner.args = [⟨"x", .base .double⟩] ∧ ¬resultUnit.Belong l'.registry (.node 3) inner := by
  have given : Step.gives (signature resultUnit resultUnit.recursion (.node 0) (.node 1))
      (.ofBuiltins ∅) (fun s => match s.ret with
        | .functionPointer _ args _ => args.length == 1 && args.all fun
          | ⟨"x", .base .double⟩ => true
          | _ => false
        | _ => false) = true := by decide +kernel
  obtain ⟨s, l', run, shape⟩ := Step.exists_of_gives given
  refine ⟨?_, rfl, ?_⟩
  · rintro (_ | i) kind
    · cases kind
    · rcases i with _ | _ | _ | i
      · cases kind
      · decide
      · cases kind
      · cases kind
  · split at shape
    · rename_i ret args variadic hret
      rw [Bool.and_eq_true, beq_iff_eq, List.length_eq_one_iff] at shape
      obtain ⟨⟨a, rfl⟩, shape⟩ := shape
      rw [List.all_cons, List.all_nil, Bool.and_true] at shape
      split at shape
      · refine ⟨s, ⟨ret, _, variadic⟩, l', run, hret, rfl, fun belong => ?_⟩
        obtain - | ⟨⟨t, c, same, denotes⟩, -⟩ := belong
        exact resultUnit_denotes denotes same
      · cases shape
    · cases shape

end conversion

end DeclAtlas
