import DeclAtlas.Extraction.Incomplete
import DeclAtlas.Extraction.Recursion

/-! Conversion of the front end's types into the type model. A type is converted as seen
from a cursor, which supplies the names of parameters. -/

namespace DeclAtlas

/-- Makes sure that a record or enum that is referred to reaches the list. Definitions in the
source are listed by the walk; one without a definition is listed now, and one that the
compiler provides is defined on demand. -/
def materialize (u : SourceUnit) (r : Recursion) (d : CursorId) (g : Global) :
    Step Fault Listing Unit := do
  if (← Step.read fun l => l.isListed g.id || decide (g.id ∈ l.defining)) then
    return
  match u.definition? d with
  | none => let _ ← declareIncomplete u d
  | some k => if u.isImplicit k then let _ ← r.define k

def declaredType (u : SourceUnit) (r : Recursion) (d : CursorId) : Step Fault Listing CType := do
  if !(u.kind d).isTypeDecl then
    return .void
  let g ← Listing.lookup u d
  if let .builtin t := g.form then
    return t
  if u.kind d = .typedefDecl && u.isImplicit (u.canonical d) then
    return ← r.convert (u.cursor d).underlying d
  let g ← Listing.resolved g.id
  match g.form with
  | .composite .. =>
    materialize u r d g
    return .composite g.id
  | .enum _ =>
    materialize u r d g
    return .enum g.id
  | _ => return .named g.name.text false (some g.id)

/-- Parameters from their declarations, each converted as seen from itself. -/
def convertDeclared (u : SourceUnit) (r : Recursion) :
    List CursorId → Step Fault Listing (List (Param CType))
  | [] => pure []
  | p :: rest => do
    let t ← r.convert (u.cursor p).type p
    return ⟨u.spellingOf p, t⟩ :: (← convertDeclared u r rest)

def convertUnnamed (r : Recursion) (c : CursorId) :
    List TypeId → Step Fault Listing (List (Param CType))
  | [] => pure []
  | t :: rest => do
    let t ← r.convert t c
    return ⟨"", t⟩ :: (← convertUnnamed r c rest)

def SourceUnit.parameters (u : SourceUnit) (c : CursorId) : List CursorId :=
  if u.kind c = .functionDecl then (u.cursor c).args
  else (u.children c).filter fun p => u.kind p == .parmDecl

/-- The signature of a function type. The parameters declared at the cursor are taken when
they agree in number with the prototype. -/
def signature (u : SourceUnit) (r : Recursion) (f : TypeId) (c : CursorId) :
    Step Fault Listing Signature := do
  let node := u.typeNode f
  let ret ← r.convert node.result c
  if node.kind ≠ .functionProto then
    return ⟨ret, [], false⟩
  let declared := u.parameters c
  let args ← if declared.length = node.params.length then convertDeclared u r declared
    else convertUnnamed r c node.params
  return ⟨ret, args, node.variadic⟩

/-- Conversion of a pointer type. A pointer to a function becomes a function pointer. -/
def convertPointer (u : SourceUnit) (r : Recursion) (t : TypeId) (c : CursorId) :
    Step Fault Listing CType := do
  let pointee := (u.typeNode t).pointee
  let isConst := (u.typeNode pointee).isConst
  let target :=
    if u.typeKind pointee = .unexposed && (u.typeKind (u.canonicalType pointee)).isFunction then
      u.canonicalType pointee
    else pointee
  let node := u.typeNode target
  if node.kind ≠ .unexposed && !node.kind.isFunction then
    return .pointer (← r.convert target c) isConst
  if u.typeKind node.result ≠ .invalid then
    return (← signature u r target c).toPointer
  if !u.isFound node.decl then
    return .pointer .void isConst
  if (u.kind node.decl).isTypeDecl then
    return .pointer (← declaredType u r node.decl) isConst
  let desugared := u.canonicalType t
  if u.kind c = .varDecl && u.typeKind (u.typeNode desugared).pointee ≠ .unexposed then
    r.convert desugared c
  else
    return .pointer .void isConst

def convertType (u : SourceUnit) (r : Recursion) (t : TypeId) (c : CursorId) :
    Step Fault Listing CType :=
  let node := u.typeNode t
  match node.kind with
  | .void | .invalid => pure .void
  | .bool => pure (.base .uchar)
  | .complex =>
    match (u.typeKind node.element).complexOver? with
    | some k => pure (.base k)
    | none => Step.fail (.unsupported node.kind.name s!"complex {node.spelling} is not supported")
  | .pointer => convertPointer u r t c
  | .constantArray => do return .array (← r.convert node.element c) node.count
  | .incompleteArray | .variableArray | .dependentSizedArray => do
    return .array (← r.convert node.element c) 0
  | .functionProto | .functionNoProto => do return (← signature u r t c).toPrototype
  | .elaborated => r.convert node.named c
  | .record | .enum | .typedef => declaredType u r node.decl
  | .unexposed =>
    if (u.kind node.decl).isTypeDecl then declaredType u r node.decl
    else if u.typeKind (u.canonicalType t) ≠ .unexposed then r.convert (u.canonicalType t) c
    else pure .void
  | .int128 | .uint128 | .vector =>
    Step.fail (.unsupported node.kind.name "128-bit integers and/or vectors are not supported")
  | k =>
    match k.base? with
    | some b => pure (.base b)
    | none => Step.fail (.unsupported k.name s!"{node.spelling} ({k.name}) is not supported")

end DeclAtlas
