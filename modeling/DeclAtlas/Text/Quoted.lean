import DeclAtlas.Text.Printable

/-! Quoted text. A text is put between single quotes, or between double quotes if it holds a
single quote and no double one. Backslashes and the chosen quote are escaped, line feed,
carriage return and tab have letters of their own, and other characters that are not printable
are written by their code in lower-case hexadecimal. -/

namespace DeclAtlas.Text

def hexDigits : List Char :=
  ['0', '1', '2', '3', '4', '5', '6', '7', '8', '9', 'a', 'b', 'c', 'd', 'e', 'f']

def hex : Nat → Nat → List Char
  | 0, _ => []
  | width + 1, n => hex width (n / 16) ++ [hexDigits.getD (n % 16) '0']

/-- A character by its code, with as few digits as its form allows. -/
def codeEscape (c : Char) : List Char :=
  let n := c.toNat
  if n < 0x100 then '\\' :: 'x' :: hex 2 n
  else if n < 0x10000 then '\\' :: 'u' :: hex 4 n
  else '\\' :: 'U' :: hex 8 n

def quoteChar (quote c : Char) : List Char :=
  if c = quote ∨ c = '\\' then ['\\', c]
  else if c = '\n' then ['\\', 'n']
  else if c = '\r' then ['\\', 'r']
  else if c = '\t' then ['\\', 't']
  else if isPrintable c then [c]
  else codeEscape c

def chooseQuote (s : List Char) : Char :=
  if '\'' ∈ s ∧ '"' ∉ s then '"' else '\''

def quoted (s : String) : String :=
  let quote := chooseQuote s.toList
  String.ofList (quote :: (s.toList.flatMap (quoteChar quote) ++ [quote]))

end DeclAtlas.Text
