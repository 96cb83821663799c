import DeclAtlas.Console.Emoji
import DeclAtlas.Console.Glyph
import DeclAtlas.Console.Literal
import DeclAtlas.Console.Style

/-! Marked-up text. A tag is an opening bracket, a small letter or one of three signs, and
anything but another opening bracket up to the first closing one. Tags vanish; a tag after a
backslash stays and the backslash goes; any other bracket is text. A closing tag needs an open
one, which it names or which is the last; a tag that starts an action is checked when it closes. -/

namespace DeclAtlas.Markup

inductive Piece where
  | plain (text : List Char)
  | tag (body : List Char)
  deriving DecidableEq, Repr, Inhabited

def startsTag (c : Char) : Bool :=
  ('a' ≤ c && c ≤ 'z') || c == '#' || c == '/' || c == '@'

def tag? : List Char → Option (List Char × List Char)
  | '[' :: c :: cs =>
    if startsTag c then
      match cs.dropWhile fun d => d != ']' && d != '[' with
      | ']' :: rest => some (c :: cs.takeWhile fun d => d != ']' && d != '[', rest)
      | _ => none
    else none
  | _ => none

def ofText (cs : List Char) : List Piece := if cs = [] then [] else [.plain cs]

/-- The pieces of a text after some plain text, found in at most `n` steps. Of the backslashes
before a tag every two are one, and one left over makes the tag plain. -/
def piecesWithin : Nat → List Char → List Char → List Piece
  | 0, before, cs => ofText (before ++ cs)
  | n + 1, before, cs =>
    let slashes := cs.takeWhile (· == '\\')
    let rest := cs.dropWhile (· == '\\')
    match tag? rest, rest with
    | some (body, after), _ =>
      ofText before ++ ofText (slashes.take (slashes.length / 2)) ++
        (if slashes.length % 2 = 1 then ofText ('[' :: body ++ [']']) else [.tag body]) ++
        piecesWithin n [] after
    | none, [] => ofText (before ++ slashes)
    | none, c :: after => piecesWithin n (before ++ slashes ++ [c]) after

def pieces (cs : List Char) : List Piece := piecesWithin (cs.length + 1) [] cs

/-- A backslash before a bracket goes, whether or not the bracket starts a tag. -/
def unescape : List Char → List Char
  | '\\' :: '[' :: cs => '[' :: unescape cs
  | c :: cs => c :: unescape cs
  | [] => []

/-- Whether a character is shown; bells and feeds other than the line feed are not. -/
def isShown (c : Char) : Bool :=
  !([7, 8, 11, 12, 13].contains c.toNat)

def shown (cs : List Char) : List Char := (Emoji.replace cs).filter isShown

/-- An open tag: the name of its style, what is after the first `=`, and where it was opened. -/
structure OpenTag where
  name : String
  argument : Option (List Char) := none
  start : Nat := 0
  deriving DecidableEq, Repr, Inhabited

def tagName (body : List Char) : List Char := body.takeWhile (· != '=')

def tagArgument (body : List Char) : Option (List Char) := (body.dropWhile (· != '=')).tail?

/-- The values that an action is given. They stand in parentheses after the dotted name of a
handler; without parentheses there are none, and a text of another form is itself the value. -/
def actionValues (argument : List Char) : List Char :=
  let text := Style.strip argument
  let rest := text.dropWhile fun c => Text.isWord c || c == '.'
  if rest.isEmpty then ['(', ')']
  else if rest.head? = some '(' && rest.getLast? = some ')' && !rest.contains '\n' then rest
  else text

structure Span where
  start : Nat
  stop : Nat
  style : List Char := []
  deriving DecidableEq, Repr, Inhabited

namespace OpenTag

def isAction (t : OpenTag) : Bool := t.name.toList.head? == some '@'

/-- Whether a tag can be closed: the values that an action is given must be literals. -/
def isClosable (t : OpenTag) : Bool :=
  !t.isAction || (t.argument.getD []).isEmpty ||
    Literal.isLiteral (actionValues (t.argument.getD []))

def span (t : OpenTag) (stop : Nat) : Span :=
  ⟨t.start, stop, t.name.toList ++ (t.argument.map (' ' :: ·)).getD []⟩

def closedSpan (t : OpenTag) (stop : Nat) : Span :=
  if t.isAction then { start := t.start, stop := stop } else t.span stop

end OpenTag

/-- The tag that is closed, which is the last or the last of a name, and the tags left open. -/
def closeTag (closed : List Char) (tags : List OpenTag) :
    Except Failure (OpenTag × List OpenTag) := do
  let found ←
    if (Style.strip closed).isEmpty then pure tags.head?
    else do
      let name ← Style.nameOf closed
      pure (tags.find? (·.name == name))
  match found with
  | some t => if t.isClosable then return (t, tags.erase t) else throw .badMarkup
  | none => throw .badMarkup

structure Marked where
  text : List Char := []
  spans : List Span := []
  deriving DecidableEq, Repr, Inhabited

/-- The text of some pieces from the position `here` on, given the tags that are open, the last one
first. -/
def join : List OpenTag → Nat → List Piece → Except Failure Marked
  | tags, here, [] => .ok { spans := tags.map (·.span here) }
  | tags, here, .plain cs :: rest => do
    let text := shown (unescape cs)
    let m ← join tags (here + text.length) rest
    return { m with text := text ++ m.text }
  | tags, here, .tag body :: rest =>
    match tagName body with
    | '/' :: closed => do
      let (t, tags) ← closeTag closed tags
      let m ← join tags here rest
      return { m with spans := t.closedSpan here :: m.spans }
    | name => do
      let t : OpenTag := ⟨← Style.nameOf name, tagArgument body, here⟩
      join (t :: tags) here rest

def read (s : String) : Except Failure Marked :=
  if s.toList.contains '[' then join [] 0 (pieces s.toList) else .ok { text := shown s.toList }

namespace Marked

/-- The stretch that a position is in: stretches are numbered by the edges of the styles. -/
def stretchAt (spans : List Span) (i : Nat) : Option Nat :=
  if spans.any fun s => s.start ≤ i && i < s.stop then
    some ((spans.flatMap fun s => [s.start, s.stop]).countP (· ≤ i))
  else none

def glyphs (m : Marked) : List Glyph :=
  m.text.zipIdx.map fun (c, i) => ⟨c, stretchAt m.spans i⟩

/-- Looks up the styles. One that does not exist does no harm. -/
def checkStyles (m : Marked) : Except Failure Unit :=
  m.spans.forM fun s => discard (Style.nameOf s.style)

end Marked

end DeclAtlas.Markup
