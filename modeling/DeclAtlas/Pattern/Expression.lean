import DeclAtlas.Json.Read
import DeclAtlas.Pattern.Basic
import DeclAtlas.Text.Identifier

/-! Reading regular expressions. Whatever is wrong with one, it is malformed, unless it is the
size of a number or the choice of options. -/

namespace DeclAtlas.Expression

open Pattern

structure Flags where
  ignoreCase : Bool := false
  multiline : Bool := false
  lineFeed : Bool := false
  verbose : Bool := false
  ascii : Bool := false
  deriving DecidableEq, Repr, Inhabited

def Flags.folding (f : Flags) : Folding :=
  if f.ignoreCase then (if f.ascii then .ascii else .full) else .exact

/-- How far an expression is read, and what is known of its groups. -/
structure Reader where
  rest : List Char
  flags : Flags := {}
  /-- The letters of the options for the whole expression. -/
  optionLetters : List Char := []
  /-- The number of groups opened so far. -/
  opened : Nat := 0
  closed : List (Nat × Width) := []
  names : List (String × Nat) := []
  /-- Groups that choices ask for; they may come later. -/
  wanted : List Nat := []
  /-- Inside a lookbehind, the number of groups opened before it. -/
  behindFrom : Option Nat := none
  /-- Whether there is a lookbehind without a fixed width. -/
  unfixed : Bool := false
  deriving Repr, Inhabited

inductive Flaw where
  | malformed
  /-- The options ask for two alphabets at once. -/
  | twoAlphabets
  /-- A number of repetitions is too large. -/
  | countTooLarge
  /-- A number of repetitions has too many digits to be read. -/
  | longCount (digits : Nat)
  deriving DecidableEq, Repr, Inhabited

abbrev Reading (α : Type) : Type := StateT Reader (Except Flaw) α

def bad {α : Type} : Reading α := throw .malformed

def next? : Reading (Option Char) := do
  match (← get).rest with
  | [] => return none
  | c :: rest =>
    modify fun r => { r with rest := rest }
    return some c

def next : Reading Char := do
  match (← next?) with
  | some c => return c
  | none => bad

def peek? : Reading (Option Char) := return (← get).rest.head?

def accept (c : Char) : Reading Bool := do
  match (← get).rest with
  | d :: rest =>
    if c = d then
      modify fun r => { r with rest := rest }
      return true
    else return false
  | [] => return false

def expect (c : Char) : Reading Unit := do
  if !(← accept c) then bad

def takeSome (limit : Nat) (p : Char → Bool) : Reading (List Char) := do
  let taken := ((← get).rest.take limit).takeWhile p
  modify fun r => { r with rest := r.rest.drop taken.length }
  return taken

def takeAll (p : Char → Bool) : Reading (List Char) := do
  takeSome (← get).rest.length p

def isOctal (c : Char) : Bool := decide ('0' ≤ c ∧ c ≤ '7')

def octalValue (digits : List Char) : Nat :=
  digits.foldl (fun n c => 8 * n + (c.toNat - '0'.toNat)) 0

def hexNumber (digits : List Char) : Nat :=
  digits.foldl (fun n c => 16 * n + (Json.hexValue? c).getD 0) 0

def hexChar (n : Nat) : Reading Char := do
  let digits ← takeSome n fun c => (Json.hexValue? c).isSome
  if digits.length = n && hexNumber digits < 0x110000 then return Char.ofNat (hexNumber digits)
  else bad

def letterEscape? : Char → Option Char
  | 'a' => some '\x07'
  | 'f' => some '\x0c'
  | 'n' => some '\n'
  | 'r' => some '\r'
  | 't' => some '\t'
  | 'v' => some '\x0b'
  | '\\' => some '\\'
  | _ => none

def categoryEscape? (ascii : Bool) : Char → Option SetItem
  | 'd' => some (.category .digit ascii false)
  | 'D' => some (.category .digit ascii true)
  | 's' => some (.category .space ascii false)
  | 'S' => some (.category .space ascii true)
  | 'w' => some (.category .word ascii false)
  | 'W' => some (.category .word ascii true)
  | _ => none

def anchorEscape? (ascii : Bool) : Char → Option Anchor
  | 'A' => some .textStart
  | 'Z' => some .textEnd
  | 'b' => some (.wordEdge ascii false)
  | 'B' => some (.wordEdge ascii true)
  | _ => none

def octalChar (digits : List Char) : Reading Char :=
  if octalValue digits ≤ 0o377 then return Char.ofNat (octalValue digits) else bad

def setEscape : Reading SetItem := do
  let c ← next
  let ascii := (← get).flags.ascii
  if let some item := categoryEscape? ascii c then return item
  if let some d := letterEscape? c then return .char d
  if c = 'b' then return .char '\x08'
  if c = 'x' then return .char (← hexChar 2)
  if c = 'u' then return .char (← hexChar 4)
  if c = 'U' then return .char (← hexChar 8)
  if isOctal c then return .char (← octalChar (c :: (← takeSome 2 isOctal)))
  if c.isAlphanum then bad else return .char c

def setItem (c : Char) : Reading SetItem :=
  if c = '\\' then setEscape else return .char c

def setItems : Nat → List SetItem → Reading (List SetItem)
  | 0, _ => bad
  | fuel + 1, acc => do
    let c ← next
    if c = ']' && !acc.isEmpty then return acc.reverse
    let item ← setItem c
    if !(← accept '-') then return ← setItems fuel (item :: acc)
    let d ← next
    if d = ']' then return (.char '-' :: item :: acc).reverse
    let other ← setItem d
    match item, other with
    | .char first, .char last =>
      if first ≤ last then setItems fuel (.range first last :: acc) else bad
    | _, _ => bad

def characterSet : Reading Pattern := do
  let negated ← accept '^'
  let items ← setItems ((← get).rest.length + 1) []
  return .set negated items.eraseDups (← get).flags.folding

def widthOf (index : Nat) (r : Reader) : Width := (r.closed.lookup index).getD (.exactly 0)

/-- A reference to a group that is closed already. -/
def reference (index : Nat) : Reading Pattern := do
  let r ← get
  if (r.closed.lookup index).isNone || r.behindFrom.any (· < index) then bad
  else return Pattern.reference index r.flags.folding

/-- A reference to a group by number, or an octal code of three digits. -/
def numberEscape (c : Char) : Reading Pattern := do
  match (← peek?) with
  | some d =>
    if d.isDigit then
      let _ ← next
      if isOctal c && isOctal d && (← peek?).any isOctal then
        let e ← next
        return .char (← octalChar [c, d, e]) (← get).flags.folding
      reference (Json.digitsToNat [c, d])
    else reference (Json.digitsToNat [c])
  | none => reference (Json.digitsToNat [c])

def escape : Reading Pattern := do
  let c ← next
  let flags := (← get).flags
  if let some a := anchorEscape? flags.ascii c then return .anchor a
  if let some item := categoryEscape? flags.ascii c then return .set false [item] .exact
  let single (d : Char) : Pattern := .char d flags.folding
  if let some d := letterEscape? c then return single d
  if c = 'x' then return single (← hexChar 2)
  if c = 'u' then return single (← hexChar 4)
  if c = 'U' then return single (← hexChar 8)
  if c = '0' then return single (← octalChar (c :: (← takeSome 2 isOctal)))
  if c.isDigit then return ← numberEscape c
  if c.isAlpha then bad else return single c

def countLimit : Nat := 4294967295

def count (digits : List Char) : Reading Nat := do
  if Json.digitLimit < digits.length then throw (.longCount digits.length)
  if countLimit ≤ Json.digitsToNat digits then throw .countTooLarge
  return Json.digitsToNat digits

/-- The bounds of a counted repetition after its opening brace. What is no such thing leaves the
reader where it was: the brace then stands for itself. -/
def bounds? : Reading (Option (Nat × Option Nat)) := do
  let start ← get
  if (← peek?) = some '\x7d' then return none
  let low ← takeAll Char.isDigit
  let comma ← accept ','
  let high ← if comma then takeAll Char.isDigit else pure low
  if !(← accept '\x7d') then
    set start
    return none
  let least ← count low
  if high.isEmpty then return some (least, none)
  let most ← count high
  if most < least then bad else return some (least, some most)

def repetition? (c : Char) : Reading (Option (Nat × Option Nat)) :=
  match c with
  | '*' => return some (0, none)
  | '+' => return some (1, none)
  | '?' => return some (0, some 1)
  | _ => bounds?

def greedMark : Reading Greed := do
  if (← accept '?') then return .reluctant
  if (← accept '+') then return .possessive
  return .greedy

/-- An item of a sequence; anchors and repetitions cannot be repeated. -/
structure Item where
  node : Pattern
  repeatable : Bool := true

def sequence : List Pattern → Pattern
  | [] => .empty
  | p :: rest => rest.foldl .seq p

def partsOf : Pattern → List Pattern
  | .empty => []
  | .seq p q => partsOf p ++ partsOf q
  | p => [p]

def isSimple : Pattern → Bool
  | .char .. | .any _ | .set .. | .anchor _ | .reference .. => true
  | _ => false

/-- The simple pattern that all alternatives start with. -/
def commonHead? (branches : List (List Pattern)) : Option Pattern :=
  match branches with
  | (p :: _) :: rest =>
    if isSimple p && rest.all (fun b => b.head? == some p) then some p else none
  | _ => none

def setItems? : List Pattern → Option (List SetItem)
  | [.char c _] => some [.char c]
  | [.set false items _] => some items
  | _ => none

def firstOf : List Pattern → Pattern
  | [] => .nothing
  | [p] => p
  | p :: rest => .alt p (firstOf rest)

/-- Alternatives that do not start alike, as a sequence: if they are all single characters they
are a set. -/
def apart (f : Folding) (branches : List (List Pattern)) : List Pattern :=
  match branches.mapM setItems? with
  | some items => [.set false items.flatten.eraseDups f]
  | none => [firstOf (branches.map sequence)]

/-- Several alternatives as a sequence. What all start with is taken out first, in at most `n`
steps. -/
def joined (f : Folding) : Nat → List (List Pattern) → List Pattern
  | 0, branches => apart f branches
  | n + 1, branches =>
    match commonHead? branches with
    | some p => p :: joined f n (branches.map (·.drop 1))
    | none => apart f branches

def flagOf? : Char → Option (Bool → Flags → Flags)
  | 'i' => some fun b f => { f with ignoreCase := b }
  | 'm' => some fun b f => { f with multiline := b }
  | 's' => some fun b f => { f with lineFeed := b }
  | 'x' => some fun b f => { f with verbose := b }
  | 'a' => some fun b f => { f with ascii := b }
  | 'u' => some fun b f => { f with ascii := !b }
  | _ => none

def flagLetters : Reading (List Char) := takeAll fun c => (flagOf? c).isSome

def applyFlags (value : Bool) (letters : List Char) (f : Flags) : Flags :=
  letters.foldl (fun f c => match flagOf? c with | some g => g value f | none => f) f

def addedFlags (c : Char) : Reading (List Char) := do
  if c = '-' then return []
  let letters := c :: (← flagLetters)
  if letters.any fun d => (flagOf? d).isNone then bad
  if letters.contains 'a' && letters.contains 'u' then bad
  return letters

/-- Whether the options end here and are meant for the whole expression. -/
def endsOptions (c : Char) : Reading Bool := if c = '-' then return false else accept ')'

def removedFlags (c : Char) : Reading (List Char) := do
  let hyphen ← if c = '-' then pure true else accept '-'
  if !hyphen then return []
  let letters ← flagLetters
  if letters.isEmpty || letters.contains 'a' || letters.contains 'u' then bad
  return letters

def groupName (close : Char) : Reading String := do
  let name ← takeAll (· != close)
  expect close
  if Text.isName name then return String.ofList name else bad

def openGroup (name : Option String) : Reading Nat := do
  let r ← get
  let index := r.opened + 1
  match name with
  | some n =>
    if (r.names.lookup n).isSome then bad
    else set { r with opened := index, names := (n, index) :: r.names }
  | none => set { r with opened := index }
  return index

def closeGroup (index : Nat) (p : Pattern) : Reading Unit :=
  modify fun r => { r with closed := (index, p.width (widthOf · r)) :: r.closed }

/-- The group that a choice asks for, up to the closing parenthesis. A number may be that of a
group to come. -/
def chosenGroup : Reading Nat := do
  let name ← takeAll (· != ')')
  expect ')'
  let r ← get
  let known := r.names.lookup (String.ofList name)
  let number := if name.all Char.isDigit then Json.digitsToNat name else 0
  let index := known.getD number
  if index = 0 then bad
  if r.behindFrom.any (· < index) || (r.behindFrom.isSome && (r.closed.lookup index).isNone) then
    bad
  set { r with wanted := index :: r.wanted }
  return index

/-- Skips what comes up to `stop`, in which a backslash takes the next character with it; says
whether `stop` was there. -/
def skipPast (stop : Char) : Nat → Reading Bool
  | 0 => return false
  | n + 1 => do
    match (← next?) with
    | none => return false
    | some c =>
      if c = stop then return true
      if c = '\\' then
        let _ ← next
      skipPast stop n

def skipVerbose (c : Char) : Reading Bool := do
  if !(← get).flags.verbose then return false
  if c = ' ' || c = '\t' || c = '\n' || c = '\r' || c = '\x0b' || c = '\x0c' then return true
  if c = '#' then
    let _ ← skipPast '\n' (← get).rest.length
    return true
  return false

mutual

/-- Alternatives up to a closing parenthesis or the end. `top` says that no group is open. -/
def alternatives : Nat → Bool → Reading Pattern
  | 0, _ => bad
  | fuel + 1, top => do
    match (← branches fuel top) with
    | [only] => return sequence only
    | several =>
      let most := (several.map List.length).foldl max 0
      return sequence (joined (← get).flags.folding most several)

def branches : Nat → Bool → Reading (List (List Pattern))
  | 0, _ => bad
  | fuel + 1, top => do
    let first ← branch fuel top
    if (← accept '|') then return first :: (← branches fuel false)
    return [first]

def branch : Nat → Bool → Reading (List Pattern)
  | 0, _ => bad
  | fuel + 1, top => do
    return ((← items fuel top []).map Item.node).flatMap partsOf

/-- The items of a sequence after those in `acc`, which has the last item in front. `first`
says that options for the whole expression may still come. -/
def items : Nat → Bool → List Item → Reading (List Item)
  | 0, _, _ => bad
  | fuel + 1, first, acc => do
    match (← peek?) with
    | none => return acc.reverse
    | some c =>
      if c = '|' || c = ')' then return acc.reverse
      let _ ← next
      if (← skipVerbose c) then items fuel first acc
      else if c = '*' || c = '+' || c = '?' || c = '\x7b' then
        match (← repetition? c) with
        | none => items fuel first (⟨.char c (← get).flags.folding, true⟩ :: acc)
        | some (least, most) =>
          match acc with
          | ⟨p, true⟩ :: rest =>
            items fuel first (⟨.repeated least most (← greedMark) p, false⟩ :: rest)
          | _ => bad
      else if c = '(' then
        match (← group fuel (first && acc.isEmpty)) with
        | some item => items fuel first (item :: acc)
        | none => items fuel first acc
      else
        items fuel first ((← simple c) :: acc)

def group : Nat → Bool → Reading (Option Item)
  | 0, _ => bad
  | fuel + 1, first => do
    if !(← accept '?') then
      return some (← capturing fuel none)
    let c ← next
    if c = ':' then return some ⟨← body fuel, true⟩
    if c = '>' then return some ⟨.atomic (← body fuel), true⟩
    if c = '=' then return some ⟨.ahead false (← body fuel), true⟩
    if c = '!' then return some ⟨.ahead true (← body fuel), true⟩
    if c = '<' then
      let mark ← next
      if mark = '=' then return some (← lookbehind fuel false)
      if mark = '!' then return some (← lookbehind fuel true)
      bad
    if c = '#' then
      if (← skipPast ')' (← get).rest.length) then return none else bad
    if c = '(' then return some (← conditional fuel)
    if c = 'P' then
      if (← accept '<') then return some (← capturing fuel (some (← groupName '>')))
      if (← accept '=') then
        match (← get).names.lookup (← groupName ')') with
        | some index => return some ⟨← reference index, true⟩
        | none => bad
      bad
    options fuel first c

def conditional : Nat → Reading Item
  | 0 => bad
  | fuel + 1 => do
    let index ← chosenGroup
    let p ← branch fuel false
    let q ← if (← accept '|') then branch fuel false else pure []
    expect ')'
    return ⟨.choice index (sequence p) (sequence q), true⟩

def body : Nat → Reading Pattern
  | 0 => bad
  | fuel + 1 => do
    let p ← alternatives fuel false
    expect ')'
    return p

def capturing : Nat → Option String → Reading Item
  | 0, _ => bad
  | fuel + 1, name => do
    let index ← openGroup name
    let p ← body fuel
    closeGroup index p
    return ⟨.group index p, true⟩

/-- A lookbehind, whose inside must have a fixed width; if not, that is the last thing to be
complained of. -/
def lookbehind : Nat → Bool → Reading Item
  | 0, _ => bad
  | fuel + 1, negated => do
    let outer := (← get).behindFrom
    modify fun r => { r with behindFrom := some (outer.getD r.opened) }
    let p ← body fuel
    modify fun r => { r with behindFrom := outer }
    let w := p.width (widthOf · (← get))
    modify fun r => { r with unfixed := r.unfixed || w.most != some w.least }
    return ⟨.behind negated w.least p, true⟩

def options : Nat → Bool → Char → Reading (Option Item)
  | 0, _, _ => bad
  | fuel + 1, first, c => do
    let start := (← get).flags
    let added ← addedFlags c
    if (← endsOptions c) then
      if !first then bad
      modify fun r =>
        { r with
          flags := applyFlags true added start
          optionLetters := r.optionLetters ++ added }
      return none
    let removed ← removedFlags c
    if removed.any added.contains then bad
    expect ':'
    modify fun r => { r with flags := applyFlags false removed (applyFlags true added start) }
    let p ← body fuel
    modify fun r => { r with flags := start }
    return some ⟨.enclosed p, true⟩

def simple : Char → Reading Item
  | '.' => return ⟨.any (← get).flags.lineFeed, true⟩
  | '^' => return ⟨.anchor (if (← get).flags.multiline then .lineStart else .textStart), false⟩
  | '$' => return ⟨.anchor (if (← get).flags.multiline then .lineEnd else .lastLineEnd), false⟩
  | '[' => return ⟨← characterSet, true⟩
  | '\\' => do
    match (← escape) with
    | .anchor a => return ⟨.anchor a, false⟩
    | p => return ⟨p, true⟩
  | c => return ⟨.char c (← get).flags.folding, true⟩

end

def parse (s : String) : Except Flaw Pattern := do
  let (p, r) ← (alternatives (8 * s.length + 8) true).run { rest := s.toList }
  if r.optionLetters.contains 'a' && r.optionLetters.contains 'u' then throw .twoAlphabets
  if r.rest.isEmpty && r.wanted.all (· ≤ r.opened) && !r.unfixed then return p
  else throw .malformed

end DeclAtlas.Expression
