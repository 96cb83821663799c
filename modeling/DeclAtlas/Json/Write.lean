import DeclAtlas.Json.Basic
import DeclAtlas.Text.Quoted

/-! Writing JSON text, with two blanks of indentation for each level. -/

namespace DeclAtlas.Json

def writeChar (c : Char) : List Char :=
  if c = '"' then ['\\', '"']
  else if c = '\\' then ['\\', '\\']
  else if c = '\n' then ['\\', 'n']
  else if c = '\r' then ['\\', 'r']
  else if c = '\t' then ['\\', 't']
  else if c = '\x08' then ['\\', 'b']
  else if c = '\x0c' then ['\\', 'f']
  else if c.toNat < 0x20 then '\\' :: 'u' :: Text.hex 4 c.toNat
  else [c]

def writeString (s : String) : String :=
  String.ofList ('"' :: (s.toList.flatMap writeChar ++ ['"']))

def newline (indent : Nat) : String := String.ofList ('\n' :: List.replicate (2 * indent) ' ')

def writeDecimal (mantissa exponent : Int) : String := s!"{mantissa}e{exponent}"

mutual

def write (indent : Nat) : Json → String
  | null => "null"
  | bool b => if b then "true" else "false"
  | int n => toString n
  | decimal m e => writeDecimal m e
  | nonFinite => "NaN"
  | str s => writeString s
  | arr [] => "[]"
  | arr (v :: rest) =>
    "[" ++ newline (indent + 1) ++ write (indent + 1) v ++ writeItems (indent + 1) rest ++
      newline indent ++ "]"
  | obj [] => "\x7b\x7d"
  | obj ((k, v) :: rest) =>
    "\x7b" ++ newline (indent + 1) ++ writeString k ++ ": " ++ write (indent + 1) v ++
      writeFields (indent + 1) rest ++ newline indent ++ "\x7d"

def writeItems (indent : Nat) : List Json → String
  | [] => ""
  | v :: rest => "," ++ newline indent ++ write indent v ++ writeItems indent rest

def writeFields (indent : Nat) : List (String × Json) → String
  | [] => ""
  | (k, v) :: rest =>
    "," ++ newline indent ++ writeString k ++ ": " ++ write indent v ++ writeFields indent rest

end

def render (j : Json) : String := j.write 0

end DeclAtlas.Json
