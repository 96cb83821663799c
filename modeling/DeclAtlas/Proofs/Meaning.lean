import DeclAtlas.Extraction.Conversion
import DeclAtlas.Proofs.Registered

/-! What a type of the front end stands for, apart from any listing: the model type is read off
the links that the registry gives to declarations, and nothing is listed, defined or refused on
the way. More depth and more links keep an answer, so a type has at most one meaning over a
whole run. -/

namespace DeclAtlas

/-- What a reference to a registered declaration is. A `bound` one is bound elsewhere, whatever
the unit says about it. -/
structure Link where
  bound : Bool
  type : CType

/-- The type that refers to a global. -/
def Global.reference (g : Global) : CType :=
  match g.form with
  | .builtin t => t
  | .composite .. => .composite g.id
  | .enum _ => .enum g.id
  | _ => .named g.name.text false (some g.id)

def Global.link (g : Global) : Link := ⟨g.isBuiltin, g.reference⟩

def Registry.link? (r : Registry) (u : SourceUnit) (d : CursorId) : Option Link :=
  (r.globalOf? u d).map Global.link

namespace SourceUnit

section pieces

variable (u : SourceUnit) (link : CursorId → Option Link)
  (conv : TypeId → CursorId → Option CType)

def declaredMeaning (d : CursorId) : Option CType :=
  if !(u.kind d).isTypeDecl then some .void
  else (link d).bind fun k =>
    if k.bound then some k.type
    else if u.kind d = .typedefDecl && u.isImplicit (u.canonical d) then
      conv (u.cursor d).underlying d
    else some k.type

def declaredMeanings : List CursorId → Option (List (Param CType))
  | [] => some []
  | p :: rest => (conv (u.cursor p).type p).bind fun t =>
    (declaredMeanings rest).map (⟨u.spellingOf p, t⟩ :: ·)

def unnamedMeanings (c : CursorId) : List TypeId → Option (List (Param CType))
  | [] => some []
  | t :: rest => (conv t c).bind fun m => (unnamedMeanings c rest).map (⟨"", m⟩ :: ·)

def parameterMeanings (f : TypeId) (c : CursorId) : Option (List (Param CType)) :=
  if (u.parameters c).length = (u.typeNode f).params.length then
    u.declaredMeanings conv (u.parameters c)
  else unnamedMeanings conv c (u.typeNode f).params

def signatureMeaning (f : TypeId) (c : CursorId) : Option Signature :=
  (conv (u.typeNode f).result c).bind fun ret =>
    if (u.typeNode f).kind ≠ .functionProto then some ⟨ret, [], false⟩
    else (u.parameterMeanings conv f c).map fun args => ⟨ret, args, (u.typeNode f).variadic⟩

/-- What a pointer points to; a function that the front end does not expose is looked through. -/
def pointerTarget (t : TypeId) : TypeId :=
  let pointee := (u.typeNode t).pointee
  if u.typeKind pointee = .unexposed && (u.typeKind (u.canonicalType pointee)).isFunction then
    u.canonicalType pointee
  else pointee

def pointerMeaning (t : TypeId) (c : CursorId) : Option CType :=
  let isConst := (u.typeNode (u.typeNode t).pointee).isConst
  let target := u.pointerTarget t
  let node := u.typeNode target
  if node.kind ≠ .unexposed && !node.kind.isFunction then
    (conv target c).map fun m => .pointer m isConst
  else if u.typeKind node.result ≠ .invalid then
    (u.signatureMeaning conv target c).map Signature.toPointer
  else if !u.isFound node.decl then some (.pointer .void isConst)
  else if (u.kind node.decl).isTypeDecl then
    (u.declaredMeaning link conv node.decl).map fun m => .pointer m isConst
  else if u.kind c = .varDecl &&
      u.typeKind (u.typeNode (u.canonicalType t)).pointee ≠ .unexposed then
    conv (u.canonicalType t) c
  else some (.pointer .void isConst)

def typeMeaning (t : TypeId) (c : CursorId) : Option CType :=
  let node := u.typeNode t
  match node.kind with
  | .void | .invalid => some .void
  | .bool => some (.base .uchar)
  | .complex => (u.typeKind node.element).complexOver?.map .base
  | .pointer => u.pointerMeaning link conv t c
  | .constantArray => (conv node.element c).map fun m => .array m node.count
  | .incompleteArray | .variableArray | .dependentSizedArray =>
    (conv node.element c).map fun m => .array m 0
  | .functionProto | .functionNoProto => (u.signatureMeaning conv t c).map Signature.toPrototype
  | .elaborated => conv node.named c
  | .record | .enum | .typedef => u.declaredMeaning link conv node.decl
  | .unexposed =>
    if (u.kind node.decl).isTypeDecl then u.declaredMeaning link conv node.decl
    else if u.typeKind (u.canonicalType t) ≠ .unexposed then conv (u.canonicalType t) c
    else some .void
  | .int128 | .uint128 | .vector => none
  | k => k.base?.map .base

end pieces

/-- The meaning of a type as seen from a cursor, through at most `depth` nested types. -/
def meaningWithin (u : SourceUnit) (link : CursorId → Option Link) :
    Nat → TypeId → CursorId → Option CType
  | 0, _, _ => none
  | depth + 1, t, c => u.typeMeaning link (u.meaningWithin link depth) t c

/-- An answer that another keeps. -/
def Kept {α : Type} (x x' : Option α) : Prop := ∀ a, x = some a → x' = some a

namespace Kept

variable {α β : Type} {x x' y y' : Option α}

theorem refl (x : Option α) : Kept x x := fun _ h => h

theorem map {f : α → β} (h : Kept x x') : Kept (x.map f) (x'.map f) := by
  intro b hb
  obtain ⟨a, ha, rfl⟩ := Option.map_eq_some_iff.1 hb
  exact Option.map_eq_some_iff.2 ⟨a, h a ha, rfl⟩

theorem bind {f f' : α → Option β} (h : Kept x x') (hf : ∀ a, Kept (f a) (f' a)) :
    Kept (x.bind f) (x'.bind f') := by
  intro b hb
  obtain ⟨a, ha, hb⟩ := Option.bind_eq_some_iff.1 hb
  exact Option.bind_eq_some_iff.2 ⟨a, h a ha, hf a b hb⟩

theorem ite {p : Prop} [Decidable p] (h : Kept x x') (h' : Kept y y') :
    Kept (if p then x else y) (if p then x' else y') := by
  split
  · exact h
  · exact h'

end Kept

section mono

variable {u : SourceUnit} {link link' : CursorId → Option Link}
  {conv conv' : TypeId → CursorId → Option CType}

theorem declaredMeanings_mono (hc : ∀ t c, Kept (conv t c) (conv' t c)) (ps : List CursorId) :
    Kept (u.declaredMeanings conv ps) (u.declaredMeanings conv' ps) := by
  induction ps with
  | nil => exact .refl _
  | cons p rest ih => exact .bind (hc _ _) fun _ => .map ih

theorem unnamedMeanings_mono (hc : ∀ t c, Kept (conv t c) (conv' t c)) (c : CursorId)
    (ts : List TypeId) : Kept (unnamedMeanings conv c ts) (unnamedMeanings conv' c ts) := by
  induction ts with
  | nil => exact .refl _
  | cons t rest ih => exact .bind (hc _ _) fun _ => .map ih

theorem signatureMeaning_mono (hc : ∀ t c, Kept (conv t c) (conv' t c)) (f : TypeId)
    (c : CursorId) : Kept (u.signatureMeaning conv f c) (u.signatureMeaning conv' f c) :=
  .bind (hc _ _) fun _ => .ite (.refl _)
    (.map (.ite (declaredMeanings_mono hc _) (unnamedMeanings_mono hc _ _)))

theorem declaredMeaning_mono (hl : ∀ d, Kept (link d) (link' d))
    (hc : ∀ t c, Kept (conv t c) (conv' t c)) (d : CursorId) :
    Kept (u.declaredMeaning link conv d) (u.declaredMeaning link' conv' d) :=
  .ite (.refl _) (.bind (hl _) fun _ => .ite (.refl _) (.ite (hc _ _) (.refl _)))

theorem pointerMeaning_mono (hl : ∀ d, Kept (link d) (link' d))
    (hc : ∀ t c, Kept (conv t c) (conv' t c)) (t : TypeId) (c : CursorId) :
    Kept (u.pointerMeaning link conv t c) (u.pointerMeaning link' conv' t c) :=
  .ite (.map (hc _ _)) (.ite (.map (signatureMeaning_mono hc _ _)) (.ite (.refl _)
    (.ite (.map (declaredMeaning_mono hl hc _)) (.ite (hc _ _) (.refl _)))))

theorem typeMeaning_mono (hl : ∀ d, Kept (link d) (link' d))
    (hc : ∀ t c, Kept (conv t c) (conv' t c)) (t : TypeId) (c : CursorId) :
    Kept (u.typeMeaning link conv t c) (u.typeMeaning link' conv' t c) := by
  unfold typeMeaning
  generalize u.typeNode t = node
  dsimp only
  split
  case h_5 => exact pointerMeaning_mono hl hc t c
  case h_6 | h_7 | h_8 | h_9 => exact .map (hc _ _)
  case h_10 | h_11 => exact .map (signatureMeaning_mono hc _ _)
  case h_12 => exact hc _ _
  case h_13 | h_14 | h_15 => exact declaredMeaning_mono hl hc _
  case h_16 => exact .ite (declaredMeaning_mono hl hc _) (.ite (hc _ _) (.refl _))
  all_goals exact .refl _

theorem meaningWithin_mono (hl : ∀ d, Kept (link d) (link' d)) {n n' : Nat} (hn : n ≤ n')
    (t : TypeId) (c : CursorId) :
    Kept (u.meaningWithin link n t c) (u.meaningWithin link' n' t c) := by
  induction n generalizing n' t c with
  | zero => intro m h; cases h
  | succ n ih =>
    obtain ⟨n', rfl⟩ : ∃ k, n' = k + 1 := ⟨n' - 1, by omega⟩
    exact typeMeaning_mono hl (ih (by omega)) t c

end mono

/-- What a type means over a registry. -/
def Denotes (u : SourceUnit) (r : Registry) (t : TypeId) (c : CursorId) (m : CType) : Prop :=
  ∃ n, u.meaningWithin (r.link? u) n t c = some m

end SourceUnit

theorem Global.reference_of_outline {g g' : Global} (h : g'.outline = g.outline) :
    g'.reference = g.reference := by
  obtain ⟨hn, hf⟩ := Global.outline_eq.1 h
  obtain ⟨n, f⟩ := g
  obtain ⟨n', f'⟩ := g'
  dsimp only at hn hf
  subst hn
  cases f <;> cases f' <;> simp_all [Global.reference, Form.outline, Global.id]

theorem Global.link_of_outline {g g' : Global} (h : g'.outline = g.outline) : g'.link = g.link := by
  simp only [Global.link, Global.isBuiltin_of_outline h, Global.reference_of_outline h]

theorem Registry.Grows.link {r r' : Registry} (h : Grows r r') (u : SourceUnit) (d : CursorId) :
    SourceUnit.Kept (r.link? u d) (r'.link? u d) := by
  intro k hk
  obtain ⟨g, hg, rfl⟩ := Option.map_eq_some_iff.1 hk
  obtain ⟨g', hg', ho⟩ := h.globalOf? hg
  exact Option.map_eq_some_iff.2 ⟨g', hg', Global.link_of_outline ho⟩

namespace SourceUnit.Denotes

variable {u : SourceUnit} {r r' : Registry} {t : TypeId} {c : CursorId} {m m' : CType}

theorem grows (h : u.Denotes r t c m) (hg : r.Grows r') : u.Denotes r' t c m := by
  obtain ⟨n, hn⟩ := h
  exact ⟨n, meaningWithin_mono (hg.link u) (Nat.le_refl n) t c m hn⟩

theorem unique (h : u.Denotes r t c m) (h' : u.Denotes r t c m') : m = m' := by
  obtain ⟨n, hn⟩ := h
  obtain ⟨n', hn'⟩ := h'
  have hm := meaningWithin_mono (fun d => .refl (r.link? u d)) (Nat.le_max_left n n') t c m hn
  have hm' := meaningWithin_mono (fun d => .refl (r.link? u d)) (Nat.le_max_right n n') t c m' hn'
  exact Option.some.inj (hm.symm.trans hm')

end SourceUnit.Denotes

end DeclAtlas
