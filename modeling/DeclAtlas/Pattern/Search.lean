import DeclAtlas.Pattern.Basic

/-! Searching a text for a pattern. A match hands the places where it can end, one after the
other, to a test that says whether the rest goes well from there; the first place from which it
does decides. -/

namespace DeclAtlas.Pattern

/-- A place in a text, and what the groups captured on the way to it. -/
structure Place where
  /-- What stands before the place, last character first. -/
  before : List Char
  after : List Char
  groups : List (Nat × List Char) := []
  deriving DecidableEq, Repr

namespace Place

def advance (p : Char → Bool) (s : Place) : Option Place :=
  match s.after with
  | c :: rest => if p c then some { s with before := c :: s.before, after := rest } else none
  | [] => none

def capture (s : Place) (index : Nat) (start : Place) : Place :=
  { s with groups :=
      (index, (s.before.take (s.before.length - start.before.length)).reverse) :: s.groups }

def take (same : Char → Char → Bool) : List Char → Place → Option Place
  | [], s => some s
  | c :: cs, s => (s.advance (same c)).bind (take same cs)

def goBack (n : Nat) (s : Place) : Place :=
  { s with before := s.before.drop n, after := (s.before.take n).reverse ++ s.after }

def atWordEdge (ascii : Bool) (s : Place) : Bool :=
  (s.before.head?.any (Category.word.accepts ascii)) !=
    (s.after.head?.any (Category.word.accepts ascii))

end Place

def Anchor.holds (s : Place) : Anchor → Bool
  | textStart => s.before.isEmpty
  | lineStart => s.before.isEmpty || s.before.head? == some '\n'
  | textEnd => s.after.isEmpty
  | lastLineEnd => s.after.isEmpty || s.after == ['\n']
  | lineEnd => s.after.isEmpty || s.after.head? == some '\n'
  | wordEdge ascii negated => s.atWordEdge ascii != negated

/-- What is to happen after a match: the place where everything ends, if it goes well. -/
abbrev Rest : Type := Place → Option Place

/-- A repetition of `body`, `count` rounds of which are done, and then the rest. An optional round
is not started where the round before it started, so rounds that take nothing come to an end. -/
def repeatFrom (body : Rest → Rest) (least : Nat) (most : Option Nat) (reluctant : Bool)
    (rest : Rest) : Nat → Nat → Option Nat → Rest
  | 0, _, _, _ => none
  | fuel + 1, count, last, s =>
    if count < least then
      body (repeatFrom body least most reluctant rest fuel (count + 1) last) s
    else
      let again := fun (_ : Unit) =>
        if most.all (count < ·) && last != some s.after.length then
          body (repeatFrom body least most reluctant rest fuel (count + 1) (some s.after.length)) s
        else none
      if reluctant then (rest s).orElse again else (again ()).orElse fun _ => rest s

/-- Where a match of the pattern from a place, and then the rest, ends. -/
def run : Pattern → Rest → Rest
  | empty, rest, s => rest s
  | nothing, _, _ => none
  | char c folding, rest, s => (s.advance (sameLetter folding c)).bind rest
  | any lineFeed, rest, s => (s.advance fun c => lineFeed || c != '\n').bind rest
  | set negated items folding, rest, s =>
    (s.advance fun c => setAccepts items folding c != negated).bind rest
  | anchor a, rest, s => if a.holds s then rest s else none
  | seq p q, rest, s => p.run (q.run rest) s
  | alt p q, rest, s => (p.run rest s).orElse fun _ => q.run rest s
  | group index p, rest, s => p.run (fun t => rest (t.capture index s)) s
  | reference index folding, rest, s =>
    ((s.groups.lookup index).bind fun text =>
      s.take (fun c d => folding.low c == folding.low d) text).bind rest
  | choice index p q, rest, s =>
    if (s.groups.lookup index).isSome then p.run rest s else q.run rest s
  | enclosed p, rest, s => p.run rest s
  | repeated least most greed p, rest, s =>
    let rounds := fun rest =>
      repeatFrom p.run least most (greed = .reluctant) rest (least + s.after.length + 2) 0 none s
    if greed = .possessive then (rounds some).bind rest else rounds rest
  | atomic p, rest, s => (p.run some s).bind rest
  | ahead negated p, rest, s =>
    match p.run some s with
    | none => if negated then rest s else none
    | some t => if negated then none else rest { s with groups := t.groups }
  | behind negated width p, rest, s =>
    if s.before.length < width then (if negated then rest s else none)
    else match p.run some (s.goBack width) with
      | none => if negated then rest s else none
      | some t => if negated then none else rest { s with groups := t.groups }

def foundFrom (p : Pattern) (before : List Char) : List Char → Bool
  | [] => (p.run some ⟨before, [], []⟩).isSome
  | c :: rest => (p.run some ⟨before, c :: rest, []⟩).isSome || p.foundFrom (c :: before) rest

def occurs (p : Pattern) (text : String) : Bool := p.foundFrom [] text.toList

end DeclAtlas.Pattern
