/-! Messages for a stream that is no terminal: the codes that colour a terminal go, and lines end
with a line feed alone. -/

namespace DeclAtlas.Console

def afterCode? (cs : List Char) : Option (List Char) :=
  match cs.dropWhile fun c => c == ';' || c == '?' || c.isDigit with
  | c :: rest => if c.isAlpha then some rest else none
  | [] => none

def withoutCodesWithin : Nat → List Char → List Char
  | 0, cs => cs
  | _ + 1, [] => []
  | n + 1, c :: cs =>
    match c, cs with
    | '\x1b', '[' :: code =>
      match afterCode? code with
      | some rest => withoutCodesWithin n rest
      | none => c :: withoutCodesWithin n cs
    | _, _ => c :: withoutCodesWithin n cs

def withoutCodes (cs : List Char) : List Char := withoutCodesWithin cs.length cs

/-- A line feed after a carriage return ends a line alone. -/
def feedsOnly : List Char → List Char
  | [] => []
  | '\r' :: '\n' :: cs => '\n' :: feedsOnly cs
  | c :: cs => c :: feedsOnly cs

def plain (s : String) : String := String.ofList (feedsOnly (withoutCodes s.toList))

end DeclAtlas.Console
