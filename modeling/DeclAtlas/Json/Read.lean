import DeclAtlas.Json.Basic
import DeclAtlas.Table

/-! Reading JSON text. Beyond the standard, `NaN` and the infinities are numbers. Of two
fields with one key the later value counts, in the place of the first. An integer of too many
digits is not read, and neither is a string with half of a surrogate pair. -/

namespace DeclAtlas.Json

inductive ReadError where
  | malformed
  | longInteger (digits : Nat)
  /-- Half of a surrogate pair stands by itself; no string here can hold it. -/
  | unpaired
  deriving DecidableEq, Repr, Inhabited

abbrev Reading : Type → Type := Except ReadError

def digitLimit : Nat := 4300

def isSpace (c : Char) : Bool := c == ' ' || c == '\t' || c == '\n' || c == '\r'

def skipSpace (cs : List Char) : List Char := cs.dropWhile isSpace

def digitsToNat (digits : List Char) : Nat :=
  digits.foldl (fun n c => 10 * n + (c.toNat - '0'.toNat)) 0

def hexValue? (c : Char) : Option Nat :=
  if '0' ≤ c ∧ c ≤ '9' then some (c.toNat - '0'.toNat)
  else if 'a' ≤ c ∧ c ≤ 'f' then some (c.toNat - 'a'.toNat + 10)
  else if 'A' ≤ c ∧ c ≤ 'F' then some (c.toNat - 'A'.toNat + 10)
  else none

def hex4? (a b c d : Char) : Option Nat := do
  return ((← hexValue? a) * 16 + (← hexValue? b)) * 256 + (← hexValue? c) * 16 + (← hexValue? d)

def escaped? : Char → Option Char
  | '"' => some '"'
  | '\\' => some '\\'
  | '/' => some '/'
  | 'b' => some '\x08'
  | 'f' => some '\x0c'
  | 'n' => some '\n'
  | 'r' => some '\r'
  | 't' => some '\t'
  | _ => none

/-- The character of a code that is not half of a surrogate pair. -/
def charOfCode (n : Nat) : Reading Char :=
  if 0xD800 ≤ n ∧ n < 0xE000 then .error .unpaired else .ok (Char.ofNat n)

def isHighSurrogate (n : Nat) : Bool := decide (0xD800 ≤ n ∧ n < 0xDC00)

def isLowSurrogate (n : Nat) : Bool := decide (0xDC00 ≤ n ∧ n < 0xE000)

/-- The characters of some codes, of which two may be a surrogate pair. -/
def joinCodes : List Nat → Reading (List Char)
  | [] => return []
  | [n] => return [← charOfCode n]
  | high :: low :: rest =>
    if isHighSurrogate high && isLowSurrogate low then do
      let c := Char.ofNat (0x10000 + (high - 0xD800) * 0x400 + (low - 0xDC00))
      return c :: (← joinCodes rest)
    else do
      let c ← charOfCode high
      return c :: (← joinCodes (low :: rest))

def prepend (n : Nat) : Reading (List Nat × List Char) → Reading (List Nat × List Char)
  | .ok (codes, rest) => .ok (n :: codes, rest)
  | .error e => .error e

def readCodes : List Char → Reading (List Nat × List Char)
  | [] => .error .malformed
  | '"' :: rest => .ok ([], rest)
  | '\\' :: 'u' :: a :: b :: c :: d :: rest =>
    match hex4? a b c d with
    | some n => prepend n (readCodes rest)
    | none => .error .malformed
  | '\\' :: e :: rest =>
    match escaped? e with
    | some c => prepend c.toNat (readCodes rest)
    | none => .error .malformed
  | c :: rest =>
    if c.toNat < 0x20 || c == '\\' then .error .malformed else prepend c.toNat (readCodes rest)

def readString (cs : List Char) : Reading (String × List Char) := do
  let (codes, rest) ← readCodes cs
  return (String.ofList (← joinCodes codes), rest)

def readDigits (cs : List Char) : Option (List Char × List Char) :=
  match cs.takeWhile Char.isDigit with
  | [] => none
  | digits => some (digits, cs.dropWhile Char.isDigit)

def readFraction : List Char → List Char × List Char
  | '.' :: cs => (readDigits cs).getD ([], '.' :: cs)
  | cs => ([], cs)

def readExponent (cs : List Char) : Option (Int × List Char) :=
  match cs with
  | e :: '+' :: rest =>
    if e == 'e' || e == 'E' then (readDigits rest).map fun (d, r) => ((digitsToNat d : Int), r) else none
  | e :: '-' :: rest =>
    if e == 'e' || e == 'E' then (readDigits rest).map fun (d, r) => (-(digitsToNat d : Int), r) else none
  | e :: rest =>
    if e == 'e' || e == 'E' then (readDigits rest).map fun (d, r) => ((digitsToNat d : Int), r) else none
  | [] => none

/-- The digits before the point: a single zero, or digits that do not start with one. -/
def readWhole : List Char → Option (List Char × List Char)
  | '0' :: rest => some (['0'], rest)
  | cs => readDigits cs

def readUnsigned (negative : Bool) (cs : List Char) : Reading (Json × List Char) :=
  match readWhole cs with
  | none => .error .malformed
  | some (whole, rest) =>
    let (fraction, rest) := readFraction rest
    let sign : Int := if negative then -1 else 1
    match readExponent rest with
    | some (exponent, rest) =>
      .ok (.decimal (sign * digitsToNat (whole ++ fraction)) (exponent - fraction.length), rest)
    | none =>
      if !fraction.isEmpty then
        .ok (.decimal (sign * digitsToNat (whole ++ fraction)) (-fraction.length), rest)
      else if digitLimit < whole.length then .error (.longInteger whole.length)
      else .ok (.int (sign * digitsToNat whole), rest)

def readNumber : List Char → Reading (Json × List Char)
  | '-' :: 'I' :: 'n' :: 'f' :: 'i' :: 'n' :: 'i' :: 't' :: 'y' :: rest => .ok (.nonFinite, rest)
  | '-' :: rest => readUnsigned true rest
  | cs => readUnsigned false cs

def readScalar : List Char → Reading (Json × List Char)
  | 'n' :: 'u' :: 'l' :: 'l' :: rest => .ok (.null, rest)
  | 't' :: 'r' :: 'u' :: 'e' :: rest => .ok (.bool true, rest)
  | 'f' :: 'a' :: 'l' :: 's' :: 'e' :: rest => .ok (.bool false, rest)
  | 'N' :: 'a' :: 'N' :: rest => .ok (.nonFinite, rest)
  | 'I' :: 'n' :: 'f' :: 'i' :: 'n' :: 'i' :: 't' :: 'y' :: rest => .ok (.nonFinite, rest)
  | cs => readNumber cs

mutual

def readValue : Nat → List Char → Reading (Json × List Char)
  | 0, _ => .error .malformed
  | fuel + 1, cs =>
    match skipSpace cs with
    | '"' :: rest => (readString rest).map fun (s, r) => (.str s, r)
    | '[' :: rest =>
      match skipSpace rest with
      | ']' :: r => .ok (.arr [], r)
      | r => (readItems fuel r).map fun (items, r) => (.arr items, r)
    | '\x7b' :: rest =>
      match skipSpace rest with
      | '\x7d' :: r => .ok (.obj [], r)
      | r => (readFields fuel ∅ r).map fun (fields, r) => (.obj fields.entries, r)
    | rest => readScalar rest

def readItems : Nat → List Char → Reading (List Json × List Char)
  | 0, _ => .error .malformed
  | fuel + 1, cs => do
    let (v, rest) ← readValue fuel cs
    match skipSpace rest with
    | ',' :: rest =>
      let (items, rest) ← readItems fuel rest
      return (v :: items, rest)
    | ']' :: rest => return ([v], rest)
    | _ => throw .malformed

/-- The fields of an object up to its closing brace, after the fields `acc`. -/
def readFields : Nat → Table String Json → List Char → Reading (Table String Json × List Char)
  | 0, _, _ => .error .malformed
  | fuel + 1, acc, cs =>
    match skipSpace cs with
    | '"' :: rest => do
      let (key, rest) ← readString rest
      match skipSpace rest with
      | ':' :: rest =>
        let (v, rest) ← readValue fuel rest
        let acc := acc.insert key v
        match skipSpace rest with
        | ',' :: rest => readFields fuel acc rest
        | '\x7d' :: rest => return (acc, rest)
        | _ => throw .malformed
      | _ => throw .malformed
    | _ => .error .malformed

end

def parse (text : String) : Reading Json := do
  let cs := text.toList
  let (v, rest) ← readValue (2 * cs.length + 2) cs
  if (skipSpace rest).isEmpty then return v else throw .malformed

end DeclAtlas.Json
