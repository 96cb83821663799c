import DeclAtlas.Json.Read
import DeclAtlas.Text.Letter

/-! Literal values, as an action in marked-up text takes them: numbers, quoted text, constants, and
tuples, sets and tables of literals. Only whether a text is one is told. -/

namespace DeclAtlas.Literal

/-- What matters of a value: two kinds of numbers can be added, and collections can be neither in
a set nor the keys of a table. -/
inductive Kind where
  | real
  | imaginary
  | constant
  | collection
  deriving DecidableEq, Repr, Inhabited

/-- Skips blanks and comments, and inside brackets also line ends, in at most `n` steps. -/
def skipWithin (inside : Bool) : Nat → List Char → List Char
  | 0, cs => cs
  | _ + 1, [] => []
  | n + 1, c :: cs =>
    if c = ' ' || c = '\t' || c = '\x0c' then skipWithin inside n cs
    else if inside && (c = '\n' || c = '\r') then skipWithin inside n cs
    else if c = '#' then skipWithin inside n (cs.dropWhile (· != '\n'))
    else if c = '\\' && cs.head? = some '\n' then skipWithin inside n (cs.drop 1)
    else c :: cs

def skip (inside : Bool) (cs : List Char) : List Char := skipWithin inside cs.length cs

/-- What follows a row of digits, in which single underscores may stand before digits, and the
digits. -/
def digitRun (p : Char → Bool) : List Char → List Char × List Char
  | '_' :: c :: cs =>
    if p c then
      let (digits, rest) := digitRun p cs
      (c :: digits, rest)
    else ([], '_' :: c :: cs)
  | c :: cs =>
    if p c then
      let (digits, rest) := digitRun p cs
      (c :: digits, rest)
    else ([], c :: cs)
  | [] => ([], [])

def decimals (cs : List Char) : List Char × List Char :=
  if cs.head?.any Char.isDigit then digitRun Char.isDigit cs else ([], cs)

def basedNumber (p : Char → Bool) (cs : List Char) : Option (Kind × List Char) :=
  let (digits, rest) := digitRun p cs
  if digits.isEmpty then none else some (.real, rest)

def exponent? : List Char → Option (List Char)
  | c :: cs =>
    if c = 'e' || c = 'E' then
      let unsigned := if cs.head? = some '+' || cs.head? = some '-' then cs.drop 1 else cs
      let (digits, rest) := decimals unsigned
      if digits.isEmpty then none else some rest
    else none
  | [] => none

/-- A decimal number. One without point and exponent has no zeros in front and is not too long,
unless it is imaginary. -/
def decimalNumber (cs : List Char) : Option (Kind × List Char) :=
  let (whole, afterWhole) := decimals cs
  let point := afterWhole.head? == some '.'
  let (fraction, afterFraction) :=
    if point then decimals (afterWhole.drop 1) else ([], afterWhole)
  if whole.isEmpty && fraction.isEmpty then none
  else
    let afterNumber := (exponent? afterFraction).getD afterFraction
    if afterNumber.head? = some 'j' || afterNumber.head? = some 'J' then
      some (.imaginary, afterNumber.drop 1)
    else if point || (exponent? afterFraction).isSome then some (.real, afterNumber)
    else if whole.head? = some '0' && whole.any (· != '0') then none
    else if 4300 < whole.length then none
    else some (.real, afterNumber)

def number (cs : List Char) : Option (Kind × List Char) :=
  match cs with
  | '0' :: base :: rest =>
    if base = 'x' || base = 'X' then basedNumber (fun c => (Json.hexValue? c).isSome) rest
    else if base = 'o' || base = 'O' then basedNumber (fun c => '0' ≤ c && c ≤ '7') rest
    else if base = 'b' || base = 'B' then basedNumber (fun c => c = '0' || c = '1') rest
    else decimalNumber cs
  | _ => decimalNumber cs

structure Quoting where
  raw : Bool := false
  bytes : Bool := false
  deriving DecidableEq, Repr, Inhabited

def quoting? (cs : List Char) : Option (Quoting × List Char) :=
  let isQuote := fun c => c = '\'' || c = '"'
  let letters := (cs.takeWhile fun c => !isQuote c).take 3
  let rest := cs.drop letters.length
  if rest.head?.any isQuote then
    match letters.map Char.toLower with
    | [] | ['u'] => some ({}, rest)
    | ['r'] => some ({ raw := true }, rest)
    | ['b'] => some ({ bytes := true }, rest)
    | ['b', 'r'] | ['r', 'b'] => some ({ raw := true, bytes := true }, rest)
    | _ => none
  else none

def afterHex? (n : Nat) (cs : List Char) : Option (List Char) :=
  if (cs.take n).length = n && (cs.take n).all (fun c => (Json.hexValue? c).isSome) then
    some (cs.drop n)
  else none

def afterName? : List Char → Option (List Char)
  | '\x7b' :: cs =>
    let name := cs.takeWhile (· != '\x7d')
    if name.isEmpty then none
    else (cs.drop name.length).tail?
  | _ => none

def afterEscape? (q : Quoting) : List Char → Option (List Char)
  | [] => none
  | c :: cs =>
    if q.bytes && 0x80 ≤ c.toNat then none
    else if q.raw then some cs
    else if c = 'x' then afterHex? 2 cs
    else if q.bytes then some cs
    else if c = 'u' then afterHex? 4 cs
    else if c = 'U' then
      if (cs.take 8).foldl (fun n c => 16 * n + (Json.hexValue? c).getD 0) 0 < 0x110000 then
        afterHex? 8 cs
      else none
    else if c = 'N' then afterName? cs
    else some cs

def afterQuoted? (q : Quoting) (quote : Char) (triple : Bool) : Nat → List Char →
    Option (List Char)
  | 0, _ => none
  | _ + 1, [] => none
  | n + 1, c :: cs =>
    if triple && (c :: cs).take 3 = [quote, quote, quote] then some (cs.drop 2)
    else if !triple && c = quote then some cs
    else if !triple && (c = '\n' || c = '\r') then none
    else if q.bytes && 0x80 ≤ c.toNat then none
    else if c = '\\' then (afterEscape? q cs).bind (afterQuoted? q quote triple n)
    else afterQuoted? q quote triple n cs

def quoted? (cs : List Char) : Option (Bool × List Char) := do
  let (q, rest) ← quoting? cs
  let quote ← rest.head?
  let triple := rest.take 3 = [quote, quote, quote]
  let after ← afterQuoted? q quote triple rest.length (rest.drop (if triple then 3 else 1))
  return (q.bytes, after)

/-- Skips quoted texts that are put together with one before, at most `n`; they must be of the same
sort. -/
def moreQuoted (inside bytes : Bool) : Nat → List Char → Option (List Char)
  | 0, cs => some cs
  | n + 1, cs =>
    match quoted? (skip inside cs) with
    | some (b, rest) => if b = bytes then moreQuoted inside bytes n rest else none
    | none => some cs

def maxDepth : Nat := 200

def close? (mark : Char) (cs : List Char) : Option (List Char) :=
  match skip true cs with
  | c :: rest => if c = mark then some rest else none
  | [] => none

def word (depth : Nat) (cs : List Char) : Option (Kind × List Char) :=
  let name := cs.takeWhile Text.isWord
  let rest := cs.drop name.length
  match String.ofList name with
  | "None" | "True" | "False" => some (.constant, rest)
  | "set" =>
    match skip (0 < depth) rest with
    | '(' :: rest =>
      if maxDepth ≤ depth then none
      else (close? ')' rest).map fun rest => (.collection, rest)
    | _ => none
  | _ => none

def isSign (c : Char) : Bool := c == '+' || c == '-'

def tupleOf (kinds : List Kind) : Kind :=
  if kinds.contains .collection then .collection else .constant

mutual

/-- A value inside `depth` brackets: a number with a sign or none, a sum of a real and an imaginary
number, or anything that is no number. -/
def value (depth : Nat) : Nat → List Char → Option (Kind × List Char)
  | 0, _ => none
  | n + 1, cs => do
    let inside := 0 < depth
    let cs := skip inside cs
    let signed := cs.head?.any isSign
    let (kind, rest) ← item depth n (if signed then skip inside (cs.drop 1) else cs)
    if signed && kind != .real && kind != .imaginary then failure
    let after := skip inside rest
    if after.head?.any isSign then
      let (other, rest) ← item depth n (skip inside (after.drop 1))
      if kind = .real && other = .imaginary then return (.constant, rest) else failure
    return (kind, rest)

def item (depth : Nat) : Nat → List Char → Option (Kind × List Char)
  | 0, _ => none
  | _ + 1, [] => none
  | n + 1, c :: cs =>
    if c = '(' then
      if maxDepth ≤ depth then none
      else
        match close? ')' cs with
        | some rest => some (.constant, rest)
        | none => do
          let (kinds, comma, rest) ← values (depth + 1) n cs
          let kind := if comma then tupleOf kinds else kinds.headD .constant
          return (kind, ← close? ')' rest)
    else if c = '\x7b' then
      if maxDepth ≤ depth then none
      else
        match close? '\x7d' cs with
        | some rest => some (.collection, rest)
        | none => do
          let (keys, _, rest) ← entries (depth + 1) n cs
          if keys.contains .collection then failure
          return (.collection, ← close? '\x7d' rest)
    else if (c :: cs).take 3 = ['.', '.', '.'] then some (.constant, cs.drop 2)
    else if c.isDigit || c = '.' then number (c :: cs)
    else
      match quoted? (c :: cs) with
      | some (bytes, rest) =>
        (moreQuoted (0 < depth) bytes n rest).map fun rest => (.constant, rest)
      | none => word depth (c :: cs)

def values (depth : Nat) : Nat → List Char → Option (List Kind × Bool × List Char)
  | 0, _ => none
  | n + 1, cs => do
    let (kind, rest) ← value depth n cs
    match skip (0 < depth) rest with
    | ',' :: more =>
      match values depth n more with
      | some (kinds, _, rest) => return (kind :: kinds, true, rest)
      | none => return ([kind], true, more)
    | _ => return ([kind], false, rest)

/-- The entries of a set or of a table: the kinds of the members or keys, whether they are keys,
and what follows. Members and keys do not mix. -/
def entries (depth : Nat) : Nat → List Char → Option (List Kind × Bool × List Char)
  | 0, _ => none
  | n + 1, cs => do
    let (kind, rest) ← value depth n cs
    let (keyed, rest) ←
      match close? ':' rest with
      | some rest => (value depth n rest).map fun (_, rest) => (true, rest)
      | none => some (false, rest)
    match skip true rest with
    | ',' :: more =>
      match entries depth n more with
      | some (kinds, k, rest) => if k = keyed then return (kind :: kinds, keyed, rest) else failure
      | none => return ([kind], keyed, more)
    | _ => return ([kind], keyed, rest)

end

def isLiteral (cs : List Char) : Bool :=
  !cs.contains '\x00' &&
    match values 0 (4 * cs.length + 8) cs with
    | some (_, _, rest) => (skip true rest).isEmpty
    | none => false

end DeclAtlas.Literal
