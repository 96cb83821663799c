import DeclAtlas.Failure
import DeclAtlas.Nesting
import DeclAtlas.Schema.Graph

/-! Writing values as JSON where their types may nest too deep for it. -/

namespace DeclAtlas

def CType.family : CType → Family
  | .pointer .. => .pointers
  | .array .. => .arrays
  | .prototype .. => .prototypes
  | .functionPointer .. => .functionPointers
  | _ => .everything

def CType.fitsAlone (t : CType) : Bool := t.fits ⟨t.family, 0⟩

def Param.fitsAlone (p : Param CType) : Bool := p.type.fits .parameter

def Signature.fits (s : Signature) : Bool := s.ret.fitsAlone && s.args.all Param.fitsAlone

def Global.fits (g : Global) : Bool := g.type?.all (CType.fits {})

def Member.fits (m : Member) : Bool := m.type.fits {}

def Graph.fits (g : Graph) : Bool :=
  g.declarations.all Global.fits && g.members.entries.all fun (_, ms) => ms.all Member.fits

def encodeIf (fits : Bool) (v : Json) : Except Failure Json :=
  if fits then .ok v else .error .tooDeep

def CType.encode (t : CType) : Except Failure Json := encodeIf t.fitsAlone t.toJson

def Signature.encode (s : Signature) : Except Failure Json := encodeIf s.fits s.toJson

def Global.encode (g : Global) : Except Failure Json := encodeIf g.fits g.toJson

def Member.encodeAll (ms : List Member) : Except Failure Json :=
  encodeIf (ms.all Member.fits) (.ofList Member.toJson ms)

def Graph.encode (g : Graph) : Except Failure Json := encodeIf g.fits g.toJson

end DeclAtlas
