/-! How alike two words are: the share of their characters that stand in blocks which both words
have in the same order. The longest block comes first, and then the blocks on either side of it. -/

namespace DeclAtlas.Text

def commonStart : List Char → List Char → Nat
  | c :: cs, d :: ds => if c = d then commonStart cs ds + 1 else 0
  | _, _ => 0

/-- A block that two words share: where it starts in either, and how long it is. -/
structure Block where
  left : Nat := 0
  right : Nat := 0
  size : Nat := 0
  deriving DecidableEq, Repr, Inhabited

/-- The longer of two blocks; the first if they are equally long. -/
def Block.longer (a b : Block) : Block := if a.size < b.size then b else a

def longestAt (i : Nat) (cs : List Char) (j : Nat) : List Char → Block
  | [] => {}
  | d :: ds => Block.longer ⟨i, j, commonStart cs (d :: ds)⟩ (longestAt i cs (j + 1) ds)

/-- The longest block at position `i` of the left word or after it. Of equally long ones it is
the first in the left word, and then the first in the right one. -/
def longestFrom (right : List Char) (i : Nat) : List Char → Block
  | [] => {}
  | c :: cs => Block.longer (longestAt i (c :: cs) 0 right) (longestFrom right (i + 1) cs)

def sharedWithin : Nat → List Char → List Char → Nat
  | 0, _, _ => 0
  | n + 1, left, right =>
    let b := longestFrom right 0 left
    if b.size = 0 then 0
    else b.size + sharedWithin n (left.take b.left) (right.take b.right) +
      sharedWithin n (left.drop (b.left + b.size)) (right.drop (b.right + b.size))

def shared (left right : List Char) : Nat := sharedWithin left.length left right

structure Likeness where
  word : String
  shared : Nat
  /-- The characters of both words. -/
  total : Nat
  deriving DecidableEq, Repr, Inhabited

namespace Likeness

def of (sought word : String) : Likeness :=
  ⟨word, Text.shared word.toList sought.toList, word.length + sought.length⟩

/-- Three fifths of the characters are enough. -/
def isClose (l : Likeness) : Bool := decide (3 * l.total ≤ 10 * l.shared)

/-- Whether one comes before another: it is more alike, or its word is greater. -/
def before (a b : Likeness) : Bool :=
  if a.shared * b.total = b.shared * a.total then decide (b.word < a.word)
  else decide (b.shared * a.total < a.shared * b.total)

end Likeness

/-- The three words most alike a word, in alphabetic order. -/
def closeWords (sought : String) (words : List String) : List String :=
  let close := (words.map (Likeness.of sought)).filter Likeness.isClose
  let best := (close.mergeSort fun a b => !b.before a).take 3
  (best.map Likeness.word).mergeSort fun a b => !decide (b < a)

end DeclAtlas.Text
