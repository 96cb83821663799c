import DeclAtlas.Console.Glyph

/-! Setting a text in a given number of columns. A line is broken before a word that does not fit
any more. A word that is too wide for any line is cut into pieces or, in a cell, put on a line of
its own and shortened. -/

namespace DeclAtlas.Wrap

open Glyph (chars columns isBlank resize spaces)

def trimRight (gs : List Glyph) : List Glyph := (gs.reverse.dropWhile isBlank).reverse

def linesOf : List Glyph → List (List Glyph)
  | [] => [[]]
  | g :: gs =>
    if g.char = '\n' then [] :: linesOf gs
    else match linesOf gs with
      | [] => [[g]]
      | l :: ls => (g :: l) :: ls

/-- The words of a line in at most `n` steps, each with the blanks around it; blanks that stand
alone are no word. -/
def wordsWithin : Nat → List Glyph → List (List Glyph)
  | 0, _ => []
  | n + 1, gs =>
    let start := gs.dropWhile isBlank
    if start = [] then []
    else
      let rest := start.dropWhile fun g => !isBlank g
      (gs.takeWhile isBlank ++ start.takeWhile (fun g => !isBlank g) ++ rest.takeWhile isBlank) ::
        wordsWithin n (rest.dropWhile isBlank)

def words (gs : List Glyph) : List (List Glyph) := wordsWithin gs.length gs

/-- Cuts a word into pieces that fit, grapheme by grapheme; `piece` is the piece under way and
`used` its columns. What takes no columns at the end makes no piece of its own. -/
def chop (room : Nat) (piece : List Glyph) (used : Nat) :
    List Text.Grapheme → List Glyph → List (List Glyph)
  | [], _ => if used = 0 then [] else [piece]
  | grapheme :: rest, gs =>
    let size := grapheme.chars.length
    if room < used + grapheme.columns then
      piece :: chop room (gs.take size) grapheme.columns rest (gs.drop size)
    else chop room (piece ++ gs.take size) (used + grapheme.columns) rest (gs.drop size)

inductive Overflow where
  | fold
  | shorten
  deriving DecidableEq, Repr, Inhabited

def piecesOf (o : Overflow) (room : Nat) (word : List Glyph) : List (List Glyph) :=
  match o with
  | .fold => chop room [] 0 (Text.graphemes (chars word)) word
  | .shorten => [word]

/-- The lines that words are put on, after a line under way of which `used` columns are taken. -/
def fill (o : Overflow) (room : Nat) (line : List Glyph) (used : Nat) :
    List (List Glyph) → List (List Glyph)
  | [] => [line]
  | word :: rest =>
    let need := columns (trimRight word)
    if used + need ≤ room then fill o room (line ++ word) (used + columns word) rest
    else
      let pieces := if room < need then piecesOf o room word else [word]
      let last := pieces.getLast?.getD []
      (if line = [] then [] else [line]) ++ pieces.dropLast ++ fill o room last (columns last) rest

/-- Breaks a line. A line of blanks stays as it is. -/
def breakLine (o : Overflow) (room : Nat) (line : List Glyph) : List (List Glyph) :=
  if words line = [] then [line] else fill o room [] 0 (words line)

/-- A line without those blanks at its end that are beyond its room, counted in characters. -/
def cropBlanks (room : Nat) (line : List Glyph) : List Glyph :=
  let blanks := line.length - (trimRight line).length
  line.take (line.length - min blanks (line.length - room))

def shorten (o : Overflow) (room : Nat) (line : List Glyph) : List Glyph :=
  if columns line ≤ room then line
  else
    match o with
    | .fold => resize room line
    | .shorten => Glyph.withChars (Text.resize (room - 1) (chars line) ++ ['…']) line

inductive Alignment where
  | none | left | right | centre
  deriving DecidableEq, Repr, Inhabited

/-- A line in its place. In the centre an odd space goes right. -/
def align (a : Alignment) (o : Overflow) (room : Nat) (line : List Glyph) : List Glyph :=
  let kept := shorten o room (trimRight line)
  match a with
  | .none => line
  | .left =>
    if room < columns line then shorten o room line else line ++ spaces (room - columns line)
  | .right => spaces (room - columns kept) ++ kept
  | .centre =>
    let moved := spaces ((room - columns kept) / 2) ++ kept
    moved ++ spaces (room - columns moved)

/-- A line with spaces for its tabs, so that what follows a tab starts at a multiple of eight
columns. `part` is what is between the last tab and here, and `column` is where it starts. -/
def expandAfter (part : List Glyph) (column : Nat) : List Glyph → List Glyph
  | [] => part
  | g :: gs =>
    if g.char = '\t' then
      let space : Glyph := { g with char := ' ' }
      let reached := column + columns (part ++ [space])
      let step := (8 - reached % 8) % 8
      part ++ List.replicate (step + 1) space ++ expandAfter [] (reached + step) gs
    else expandAfter (part ++ [g]) column gs

def expandTabs (line : List Glyph) : List Glyph := expandAfter [] 0 line

def set (a : Alignment) (o : Overflow) (room : Nat) (text : List Glyph) : List (List Glyph) :=
  (linesOf text).flatMap fun line =>
    (breakLine o room (expandTabs line)).map fun part =>
      shorten o room (align a o room (cropBlanks room part))

end DeclAtlas.Wrap
