import DeclAtlas.Console.Markup
import DeclAtlas.Console.Wrap
import DeclAtlas.Declaration
import DeclAtlas.Diagnostic
import DeclAtlas.Table

/-! The table of declarations. Every column is as wide as its widest cell or heading; a cell
with several lines makes its row as high. -/

namespace DeclAtlas

def Global.row (g : Global) (type : Option CType) : List String :=
  [toString g.id, g.kindWord, g.name.display, (type.map CType.describe).getD "",
    (g.location?.map Location.text).getD ""]

/-- The rows of some declarations; a type recorded aside counts for one that has none. -/
def declarationRows (recast : IdTable CType) (globals : List Global) : List (List String) :=
  globals.map fun g => g.row (g.type?.or (recast.get? g.id))

namespace Console

def headings : List (String × Wrap.Alignment) :=
  [("#", .right), ("kind", .left), ("name", .left), ("type", .left), ("location", .left)]

def endsLine (c : Char) : Bool :=
  [0x0A, 0x0B, 0x0C, 0x0D, 0x1C, 0x1D, 0x1E, 0x85, 0x2028, 0x2029].contains c.toNat

/-- The columns of the widest line of a text; `line` is the line under way. -/
def measureAfter (line : List Char) : List Char → Nat
  | [] => Text.columns line
  | c :: cs =>
    if endsLine c then max (Text.columns line) (measureAfter [] cs)
    else measureAfter (line ++ [c]) cs

def measure (text : List Char) : Nat := measureAfter [] text

def width (heading : String) (cells : List Markup.Marked) : Nat :=
  (cells.map fun m => measure m.text).foldl max (measure heading.toList)

def terminalWidth : Nat := 1000

/-- The nearest whole number to a quotient; a half goes to the even neighbour. -/
def roundDiv (n d : Nat) : Nat :=
  let below := n / d
  if 2 * (n % d) < d then below
  else if d < 2 * (n % d) then below + 1
  else below + below % 2

/-- Takes `excess` off the widths that are `widest`, of which there are `count`, in equal shares
of at most `most`. -/
def takeOff (widest most : Nat) : Nat → Nat → List Nat → List Nat
  | _, _, [] => []
  | excess, count, w :: rest =>
    if w = widest then
      let share := min most (roundDiv excess count)
      (w - share) :: takeOff widest most (excess - share) (count - 1) rest
    else w :: takeOff widest most excess count rest

/-- Narrows the widest columns to the next widest, again and again, until all fit into `room`; at
most `n` times. -/
def narrowWithin (room : Nat) : Nat → List Nat → List Nat
  | 0, ws => ws
  | n + 1, ws =>
    let excess := ws.foldr (· + ·) 0 - room
    if excess = 0 then ws
    else
      let widest := ws.foldl max 0
      let next := (ws.filter (· != widest)).foldl max 0
      narrowWithin room n
        (takeOff widest (min excess (widest - next)) excess (ws.count widest) ws)

def narrow (room : Nat) (ws : List Nat) : List Nat := narrowWithin room (ws.foldr (· + ·) 0 + 1) ws

structure Rule where
  first : Char
  line : Char
  between : Char
  last : Char

def topRule : Rule := ⟨'┏', '━', '┳', '┓'⟩

def headingRule : Rule := ⟨'┡', '━', '╇', '┩'⟩

def bottomRule : Rule := ⟨'└', '─', '┴', '┘'⟩

def Rule.draw (r : Rule) (widths : List Nat) : List Char :=
  let parts := widths.map fun w => List.replicate (w + 2) r.line
  r.first :: (List.intercalate [r.between] parts ++ [r.last])

def barLine (bar : Char) (parts : List (List Char)) : List Char :=
  bar :: ' ' :: (List.intercalate [' ', bar, ' '] parts ++ [' ', bar])

abbrev Cell : Type := List (List Char)

def Cell.set (a : Wrap.Alignment) (width : Nat) (text : List Glyph) : Cell :=
  (Wrap.set a .shorten width text).map (Glyph.fit width)

def drawRow (bar : Char) (widths : List Nat) (row : List (List Glyph)) : List (List Char) :=
  let cells := (headings.zip (widths.zip row)).map fun ((_, a), w, text) => (w, Cell.set a w text)
  let height := (cells.map (·.2.length)).foldl max 1
  (List.range height).map fun i =>
    barLine bar (cells.map fun (w, c) => c.getD i (List.replicate w ' '))

def totalWidth (widths : List Nat) : Nat := (widths.map (· + 3)).foldr (· + ·) 0 + 1

def drawTitle (title : String) (width : Nat) : Except Failure (List (List Char)) := do
  if title = "" then return []
  let m ← Markup.read title
  m.checkStyles
  return (Wrap.set .centre .fold width m.glyphs).map Glyph.chars

def columnOf (i : Nat) (rows : List (List String)) : List String := rows.map (·.getD i "")

/-- The lines of a table. The cells are read column by column before anything is drawn, and styles
are looked up when it is. -/
def drawTable (title : String) (rows : List (List String)) : Except Failure (List String) := do
  let columns ← (List.range headings.length).mapM fun i => (columnOf i rows).mapM Markup.read
  let asked := (headings.zip columns).map fun ((name, _), cells) => width name cells
  let room := terminalWidth - 6
  let ws := (narrow room (asked.map fun w => min (w + 2) room)).map (· - 2)
  let titleLines ← drawTitle title (totalWidth ws)
  columns.forM fun cells => cells.forM (·.checkStyles)
  let heads := headings.map fun (name, _) => Glyph.plain name.toList
  let rowOf (i : Nat) : List (List Glyph) := columns.map fun cells => (cells.getD i default).glyphs
  return (titleLines ++ [topRule.draw ws] ++ drawRow '┃' ws heads ++ [headingRule.draw ws] ++
    (List.range rows.length).flatMap (fun i => drawRow '│' ws (rowOf i)) ++
    [bottomRule.draw ws]).map String.ofList

def diagnosticLines (d : Diagnostic) : List String :=
  let text := Glyph.plain (Markup.shown d.text.toList)
  (Wrap.set .none .fold terminalWidth text).map fun line => String.ofList (Glyph.chars line)

def unlines (lines : List String) : String := String.join (lines.map (· ++ "\n"))

end Console

end DeclAtlas
