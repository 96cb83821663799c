import DeclAtlas.Console.Colour

/-! Styles by name. A style is a list of words: attributes, each on or off, a colour, a background,
and a link. Whatever the order and the spelling of the words, a style has one name. -/

namespace DeclAtlas

/-- A style; the attributes are given in the order in which they were set. -/
structure Style where
  attributes : List (String × Bool) := []
  colour : Option String := none
  background : Option String := none
  link : Option String := none
  deriving DecidableEq, Repr, Inhabited

namespace Style

def attributeWords : List (String × List String) :=
  [("bold", ["bold", "b"]), ("dim", ["dim", "d"]), ("italic", ["italic", "i"]),
   ("underline", ["underline", "u"]), ("blink", ["blink"]), ("blink2", ["blink2"]),
   ("reverse", ["reverse", "r"]), ("conceal", ["conceal", "c"]), ("strike", ["strike", "s"]),
   ("underline2", ["underline2", "uu"]), ("frame", ["frame"]), ("encircle", ["encircle"]),
   ("overline", ["overline", "o"])]

def attribute? (word : String) : Option String :=
  (attributeWords.find? fun (_, words) => words.contains word).map (·.1)

/-- A text in small letters; a capital with a dot keeps its dot. -/
def lowerCase (s : String) : String :=
  String.ofList (s.toList.flatMap fun c =>
    if c = 'İ' then ['i', Char.ofNat 0x307] else [Text.lower c])

def addWords (style : Style) : List String → Except Failure (Option Style)
  | [] => .ok style
  | word :: rest =>
    match lowerCase word with
    | "on" =>
      match rest with
      | [] => .ok none
      | colour :: rest => do
        let colour := lowerCase colour
        if (← Colour.isName colour.toList) then
          addWords { style with background := some colour } rest
        else return none
    | "not" =>
      match rest with
      | [] => .ok none
      | word :: rest =>
        match attribute? word with
        | some a => addWords { style with attributes := style.attributes ++ [(a, false)] } rest
        | none => .ok none
    | "link" =>
      match rest with
      | [] => .ok none
      | url :: rest => addWords { style with link := some url } rest
    | low =>
      match attribute? low with
      | some a => addWords { style with attributes := style.attributes ++ [(a, true)] } rest
      | none => do
        if (← Colour.isName low.toList) then addWords { style with colour := some low } rest
        else return none

/-- The words of a name: each attribute as it was set last, and the rest. -/
def words (s : Style) : List String :=
  let attributes := attributeWords.filterMap fun (a, _) =>
    (s.attributes.reverse.lookup a).map fun on => if on then a else "not " ++ a
  attributes ++ s.colour.toList ++ (s.background.map ("on " ++ ·)).toList ++
    (s.link.map ("link " ++ ·)).toList

def plainName : String := "none"

def name (s : Style) : String :=
  if s.words.isEmpty then plainName else String.intercalate " " s.words

def splitWithin : Nat → List Char → List String
  | 0, _ => []
  | n + 1, cs =>
    let start := cs.dropWhile Text.isBlank
    if start.isEmpty then []
    else String.ofList (start.takeWhile fun c => !Text.isBlank c) ::
      splitWithin n (start.dropWhile fun c => !Text.isBlank c)

def split (cs : List Char) : List String := splitWithin cs.length cs

def strip (cs : List Char) : List Char :=
  ((cs.dropWhile Text.isBlank).reverse.dropWhile Text.isBlank).reverse

/-- The one name of the style that a text describes. A text that describes none is its own name, in
small letters. -/
def nameOf (text : List Char) : Except Failure String := do
  let stripped := strip text
  if stripped = plainName.toList then return plainName
  match (← addWords {} (split stripped)) with
  | some s => return s.name
  | none => return lowerCase (String.ofList stripped)

end Style

end DeclAtlas
