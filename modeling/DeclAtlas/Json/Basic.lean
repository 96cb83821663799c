/-! JSON values. A number written with a fraction or an exponent is kept apart from the
integers, as a decimal; objects keep the order of their fields. -/

namespace DeclAtlas

/-- A JSON value; `decimal m e` stands for `m * 10 ^ e`, and `nonFinite` for the infinities and
the value that is no number. -/
inductive Json where
  | null
  | bool (b : Bool)
  | int (n : Int)
  | decimal (mantissa exponent : Int)
  | nonFinite
  | str (s : String)
  | arr (items : List Json)
  | obj (fields : List (String × Json))
  deriving BEq, Repr, Inhabited

namespace Json

def get? (key : String) : Json → Option Json
  | obj fields => fields.lookup key
  | _ => none

def ofOption {α : Type} (f : α → Json) : Option α → Json
  | some a => f a
  | none => null

def ofList {α : Type} (f : α → Json) (l : List α) : Json := arr (l.map f)

end Json

end DeclAtlas
