import DeclAtlas.Text.Letter

/-! Patterns: what a regular expression stands for once it is read. -/

namespace DeclAtlas

namespace Pattern

inductive Category where
  | digit
  | space
  | word
  deriving DecidableEq, Repr

def Category.accepts (k : Category) (ascii : Bool) (c : Char) : Bool :=
  (!ascii || decide (c.toNat < 0x80)) &&
    match k with
    | digit => Text.isDecimalDigit c
    | space => Text.isBlank c
    | word => Text.isWord c

inductive SetItem where
  | char (c : Char)
  | range (first last : Char)
  | category (k : Category) (ascii negated : Bool)
  deriving DecidableEq, Repr

def SetItem.accepts (c : Char) : SetItem → Bool
  | char d => c == d
  | range first last => decide (first ≤ c ∧ c ≤ last)
  | category k ascii negated => k.accepts ascii c != negated

/-- Classes of small letters that count as one letter when case is ignored. -/
def kindred : List (List Nat) :=
  [[0x69, 0x131], [0x73, 0x17F], [0xB5, 0x3BC], [0x345, 0x3B9, 0x1FBE], [0x390, 0x1FD3],
   [0x3B0, 0x1FE3], [0x3B2, 0x3D0], [0x3B5, 0x3F5], [0x3B8, 0x3D1], [0x3BA, 0x3F0],
   [0x3C0, 0x3D6], [0x3C1, 0x3F1], [0x3C2, 0x3C3], [0x3C6, 0x3D5], [0x432, 0x1C80],
   [0x434, 0x1C81], [0x43E, 0x1C82], [0x441, 0x1C83], [0x442, 0x1C84, 0x1C85], [0x44A, 0x1C86],
   [0x463, 0x1C87], [0x1C88, 0xA64B], [0x1E61, 0x1E9B], [0xFB05, 0xFB06]]

def kin (low : Char) : List Char :=
  low :: ((kindred.find? (·.contains low.toNat)).getD []).map Char.ofNat

/-- The characters whose lower case is a given small letter. -/
def raised (low : Char) : List Char :=
  let n : Int := low.toNat
  low :: low.toUpper :: Text.lowerRuns.filterMap fun (first, last, step, distance) =>
    let m := n - distance
    if (first : Int) ≤ m ∧ m ≤ last ∧ (m - first) % step = 0 then some (Char.ofNat m.toNat) else none

def caseVariants (c : Char) : List Char := (kin (Text.lower c)).flatMap raised

/-- Which letters count as the same: only equal ones, those that differ in case only, or of
these only the letters of ASCII. -/
inductive Folding where
  | exact
  | ascii
  | full
  deriving DecidableEq, Repr, Inhabited

def Folding.low (f : Folding) (c : Char) : Char :=
  match f with
  | exact => c
  | ascii => c.toLower
  | full => Text.lower c

def sameLetter (f : Folding) (c d : Char) : Bool :=
  match f with
  | .full => (kin (Text.lower c)).contains (Text.lower d)
  | f => f.low c == f.low d

/-- Whether an item has a character that counts as the same. Letters beyond the basic plane count
as the same in a range, but a single one only as itself in its small form. -/
def SetItem.acceptsFolded (f : Folding) (c : Char) (item : SetItem) : Bool :=
  match item with
  | char d => if 0xFFFF < (f.low d).toNat then f.low c == d else sameLetter f c d
  | range .. =>
    match f with
    | .exact => item.accepts c
    | .ascii => item.accepts c.toLower || item.accepts c.toUpper
    | .full => (caseVariants c).any (SetItem.accepts · item)
  | category .. => item.accepts (f.low c)

/-- Whether one of some items has a character. A set of one character is that character. -/
def setAccepts (items : List SetItem) (f : Folding) (c : Char) : Bool :=
  match items with
  | [.char d] => sameLetter f c d
  | _ => items.any (SetItem.acceptsFolded f c)

inductive Anchor where
  | textStart
  | lineStart
  | textEnd
  /-- The end of the text, or a line feed that ends it. -/
  | lastLineEnd
  | lineEnd
  | wordEdge (ascii negated : Bool)
  deriving DecidableEq, Repr

/-- How a repetition chooses: as often as possible, as seldom as possible, or as often as
possible without ever giving back. -/
inductive Greed where
  | greedy
  | reluctant
  | possessive
  deriving DecidableEq, Repr

end Pattern

open Pattern in
inductive Pattern where
  | empty
  | nothing
  | char (c : Char) (folding : Folding)
  | any (lineFeed : Bool)
  | set (negated : Bool) (items : List SetItem) (folding : Folding)
  | anchor (a : Anchor)
  | seq (p q : Pattern)
  | alt (p q : Pattern)
  | group (index : Nat) (p : Pattern)
  | reference (index : Nat) (folding : Folding)
  /-- The first pattern if a group has captured something, else the second. -/
  | choice (index : Nat) (p q : Pattern)
  /-- A pattern with options of its own. -/
  | enclosed (p : Pattern)
  | repeated (least : Nat) (most : Option Nat) (greed : Greed) (p : Pattern)
  | atomic (p : Pattern)
  | ahead (negated : Bool) (p : Pattern)
  /-- Looks at the `width` characters before the current place. -/
  | behind (negated : Bool) (width : Nat) (p : Pattern)
  deriving DecidableEq, Repr

namespace Pattern

structure Width where
  least : Nat
  most : Option Nat
  deriving DecidableEq, Repr

namespace Width

def exactly (n : Nat) : Width := ⟨n, some n⟩

def add (a b : Width) : Width :=
  ⟨a.least + b.least, do return (← a.most) + (← b.most)⟩

def join (a b : Width) : Width :=
  ⟨min a.least b.least, do return max (← a.most) (← b.most)⟩

def scale (least : Nat) (most : Option Nat) (w : Width) : Width :=
  ⟨least * w.least,
    match most, w.most with
    | some 0, _ => some 0
    | _, some 0 => some 0
    | some n, some m => some (n * m)
    | _, _ => none⟩

end Width

def width (groups : Nat → Width) : Pattern → Width
  | empty | nothing | anchor _ | ahead .. | behind .. => .exactly 0
  | char .. | any _ | set .. => .exactly 1
  | seq p q => (p.width groups).add (q.width groups)
  | alt p q => (p.width groups).join (q.width groups)
  | group _ p => p.width groups
  | reference index _ => groups index
  | choice _ p q => (p.width groups).join (q.width groups)
  | enclosed p => p.width groups
  | repeated least most _ p => (p.width groups).scale least most
  | atomic p => p.width groups

end Pattern

end DeclAtlas
