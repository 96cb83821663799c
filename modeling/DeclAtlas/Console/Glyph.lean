import DeclAtlas.Text.Letter
import DeclAtlas.Text.Width

/-! Text that is partly styled, as characters that know their stretch. A line is put together from
its stretches, so on the screen each of them is measured by itself. -/

namespace DeclAtlas

structure Glyph where
  char : Char
  /-- The stretch of styled text that the character is in, if any. -/
  stretch : Option Nat := none
  deriving DecidableEq, Repr, Inhabited

namespace Glyph

def plain (cs : List Char) : List Glyph := cs.map fun c => { char := c }

def spaces (n : Nat) : List Glyph := List.replicate n { char := ' ' }

def chars (gs : List Glyph) : List Char := gs.map Glyph.char

def columns (gs : List Glyph) : Nat := Text.columns (chars gs)

def isBlank (g : Glyph) : Bool := Text.isBlank g.char

def withChars : List Char → List Glyph → List Glyph
  | c :: cs, g :: gs => { g with char := c } :: withChars cs gs
  | cs, [] => plain cs
  | [], _ => []

/-- A text brought to a number of columns, by spaces at its end or by cutting it. -/
def resize (room : Nat) (gs : List Glyph) : List Glyph :=
  withChars (Text.resize room (chars gs)) gs

def stretches (gs : List Glyph) : List (List Char) :=
  (gs.splitBy fun g h => g.stretch == h.stretch).map chars

/-- As much of some stretches as `room` columns hold. -/
def cut (room : Nat) : List (List Char) → List Char
  | [] => []
  | s :: rest =>
    if Text.columns s < room then s ++ cut (room - Text.columns s) rest else Text.resize room s

def fit (room : Nat) (line : List Glyph) : List Char :=
  let taken := ((stretches line).map Text.columns).foldr (· + ·) 0
  if taken ≤ room then chars line ++ List.replicate (room - taken) ' '
  else cut room (stretches line)

end Glyph

end DeclAtlas
