import DeclAtlas.Json.Basic
import DeclAtlas.Json.Number
import DeclAtlas.Json.Read
import DeclAtlas.Path
import DeclAtlas.Text.Letter

/-! Checking JSON values against the shape that is expected of them. A check reports all that
is wrong with a value, not only the first thing, each with the path that leads to it. Numbers
and truth values are taken in a generous reading: an integer may be written as a string. -/

namespace DeclAtlas.Json

inductive IssueKind where
  | missing
  | intType | intParsing | intFromFloat | intParsingSize | finiteNumber
  | stringType | pathType | boolType | boolParsing
  | enumWord
  | listType | setType | dictType
  | modelType | modelAttributesType
  | unionTagNotFound | unionTagInvalid
  | tooDeep
  deriving DecidableEq, Repr, Inhabited

def IssueKind.name : IssueKind → String
  | missing => "missing"
  | intType => "int_type"
  | intParsing => "int_parsing"
  | intFromFloat => "int_from_float"
  | intParsingSize => "int_parsing_size"
  | finiteNumber => "finite_number"
  | stringType => "string_type"
  | pathType => "path_type"
  | boolType => "bool_type"
  | boolParsing => "bool_parsing"
  | enumWord => "enum"
  | listType => "list_type"
  | setType => "set_type"
  | dictType => "dict_type"
  | modelType => "model_type"
  | modelAttributesType => "model_attributes_type"
  | unionTagNotFound => "union_tag_not_found"
  | unionTagInvalid => "union_tag_invalid"
  | tooDeep => "recursion_depth_exceeded"

structure Issue where
  kind : IssueKind
  path : List String := []
  deriving DecidableEq, Repr, Inhabited

/-- The outcome of a check: a value, or all that is wrong. -/
inductive Checked (α : Type) where
  | ok (a : α)
  | bad (issues : List Issue)
  deriving Repr

namespace Checked

variable {α β : Type}

instance : Inhabited (Checked α) := ⟨bad []⟩

def issue (kind : IssueKind) : Checked α := bad [⟨kind, []⟩]

def map (f : α → β) : Checked α → Checked β
  | ok a => ok (f a)
  | bad issues => bad issues

/-- Applies one outcome to another; what is wrong with either is wrong with the whole. -/
def apply : Checked (α → β) → Checked α → Checked β
  | ok f, ok a => ok (f a)
  | ok _, bad issues => bad issues
  | bad issues, ok _ => bad issues
  | bad issues, bad more => bad (issues ++ more)

instance : Applicative Checked where
  pure := ok
  map := map
  seq x y := apply x (y ())

def under (key : String) : Checked α → Checked α
  | ok a => ok a
  | bad issues => bad (issues.map fun i => { i with path := key :: i.path })

def toExcept : Checked α → Except (List Issue) α
  | ok a => .ok a
  | bad issues => .error issues

end Checked

def checkItems {α : Type} (f : Json → Checked α) (i : Nat) : List Json → Checked (List α)
  | [] => .ok []
  | v :: rest => (· :: ·) <$> (f v).under (toString i) <*> checkItems f (i + 1) rest

def asList {α : Type} (f : Json → Checked α) : Json → Checked (List α)
  | arr items => checkItems f 0 items
  | _ => .issue .listType

def asString : Json → Checked String
  | str s => .ok s
  | _ => .issue .stringType

def asPath : Json → Checked Path
  | str s => .ok (Path.ofString s)
  | _ => .issue .pathType

def asOption {α : Type} (f : Json → Checked α) : Json → Checked (Option α)
  | null => .ok none
  | v => some <$> f v

def asWord {α : Type} (ofWord? : String → Option α) : Json → Checked α
  | str s =>
    match ofWord? s with
    | some a => .ok a
    | none => .issue .enumWord
  | _ => .issue .enumWord

/-- An integer as JSON writes it: a minus sign or none, then digits without zeros in front. The
sign counts as a digit when the length is limited. -/
def plainInteger (cs : List Char) : Except IssueKind Int :=
  let negative := cs.head? == some '-'
  let body := if negative then cs.drop 1 else cs
  let digits := body.takeWhile Char.isDigit
  if digits.isEmpty || (digits.head? == some '0' && digits.length != 1) then .error .intParsing
  else if digitLimit < cs.length - body.length + digits.length then .error .intParsingSize
  else if digits.length < body.length then .error .intParsing
  else
    let n : Int := digitsToNat digits
    .ok (if negative then -n else n)

/-- A text without the zeros in front, among which underscores may stand. The zero before a
point stays, and so does the last of nothing but zeros. -/
def dropZeros? (cs : List Char) : Option (List Char) :=
  match cs with
  | '0' :: rest =>
    let filler := rest.takeWhile fun c => c == '0' || c == '_'
    match rest.drop filler.length with
    | [] => some [('0' :: filler).getLast?.getD '0']
    | c :: more =>
      if c == '.' then some (('0' :: filler).getLast?.getD '0' :: c :: more)
      else if c == '-' || c.isDigit then some (c :: more)
      else none
  | c :: _ => if c == '-' || c.isDigit then some cs else none
  | [] => none

def dropFraction (cs : List Char) : List Char :=
  let fraction := (cs.dropWhile (· != '.')).drop 1
  if !fraction.isEmpty && fraction.all (· == '0') then cs.takeWhile (· != '.') else cs

def misplacedUnderscore : List Char → Bool
  | [] => false
  | ['_'] => true
  | '_' :: '_' :: _ => true
  | _ :: rest => misplacedUnderscore rest

def ungroup (cs : List Char) : List Char :=
  if cs.head? == some '_' || misplacedUnderscore cs then cs else cs.filter (· != '_')

def isNumberSpace (c : Char) : Bool := Text.isBlank c && !(0x1C ≤ c.toNat && c.toNat ≤ 0x1F)

def trimSpaces (cs : List Char) : List Char :=
  ((cs.dropWhile isNumberSpace).reverse.dropWhile isNumberSpace).reverse

/-- A generously written integer as JSON would write it: without spaces around it, a plus sign,
zeros in front, a fraction of zeros and single underscores. -/
def tidyInteger? (cs : List Char) : Option (List Char) := do
  let finish := fun cs => (dropZeros? cs).map fun cs => ungroup (dropFraction cs)
  match trimSpaces cs with
  | '+' :: '-' :: _ => none
  | '+' :: rest => finish rest
  | '-' :: rest => return '-' :: (← finish rest)
  | cs => finish cs

/-- An integer in a string. One that is too long is told apart only if it is written plainly. -/
def integerOfString (s : String) : Checked Int :=
  match plainInteger s.toList with
  | .ok n => .ok n
  | .error .intParsingSize => .issue .intParsingSize
  | .error _ =>
    match (tidyInteger? s.toList).map plainInteger with
    | some (.ok n) => .ok n
    | _ => .issue .intParsing

/-- An integer; truth values, decimals without a fraction and strings are read as one. -/
def asInt : Json → Checked Int
  | int n => .ok n
  | bool b => .ok (if b then 1 else 0)
  | decimal m e =>
    match wholeOfDecimal m e with
    | .integer n => if n.natAbs < Nat.pow 2 63 then .ok n else .issue .intParsingSize
    | .fractional => .issue .intFromFloat
    | .infinite => .issue .finiteNumber
  | nonFinite => .issue .finiteNumber
  | str s => integerOfString s
  | _ => .issue .intType

def trueWords : List String := ["1", "t", "true", "y", "yes", "on"]

def falseWords : List String := ["0", "f", "false", "n", "no", "off"]

def lowerCase (s : String) : String := String.ofList (s.toList.map Char.toLower)

/-- A truth value given as a number. One that is not of machine size is no truth value at all. -/
def boolOfInt (machineSize : Bool) (n : Int) : Checked Bool :=
  if n = 1 then .ok true
  else if n = 0 then .ok false
  else if machineSize then .issue .boolParsing
  else .issue .boolType

def asBool : Json → Checked Bool
  | bool b => .ok b
  | str s =>
    if lowerCase s ∈ trueWords then .ok true
    else if lowerCase s ∈ falseWords then .ok false
    else .issue .boolParsing
  | int n => boolOfInt (-(Nat.pow 2 63 : Nat) ≤ n ∧ n < (Nat.pow 2 63 : Nat)) n
  | decimal m e =>
    match wholeOfDecimal m e with
    | .integer n => boolOfInt (n.natAbs < Nat.pow 2 63) n
    | _ => .issue .boolType
  | _ => .issue .boolType

/-- Checks the fields of an object. Fields that nobody asks for are ignored. -/
def asObject {α : Type} (f : List (String × Json) → Checked α) : Json → Checked α
  | obj fields => f fields
  | _ => .issue .modelType

def required {α : Type} (fields : List (String × Json)) (key : String) (f : Json → Checked α) :
    Checked α :=
  match fields.lookup key with
  | some v => (f v).under key
  | none => Checked.under key (.issue .missing)

def optional {α : Type} (fields : List (String × Json)) (key : String) (default : α)
    (f : Json → Checked α) : Checked α :=
  match fields.lookup key with
  | some v => (f v).under key
  | none => .ok default

/-- One of several shapes, told apart by the field `kind`. -/
def asTagged {α : Type} (shapes : List (String × (List (String × Json) → Checked α))) :
    Json → Checked α
  | obj fields =>
    match fields.lookup "kind" with
    | none => .issue .unionTagNotFound
    | some (str tag) =>
      match shapes.lookup tag with
      | some f => (f fields).under tag
      | none => .issue .unionTagInvalid
    | some _ => .issue .unionTagInvalid
  | _ => .issue .modelAttributesType

end DeclAtlas.Json
