import DeclAtlas.Unit.Basic

/-! Names of tags and fields. An unnamed struct, union or enum is recognised by the front
end's flag, by a made-up spelling, or by its USR, the front end's key for a declaration:
a chain of scopes separated by `@`, in which a marker says what kind of tag follows. -/

namespace DeclAtlas

def occursIn (needle : List Char) : List Char → Bool
  | [] => needle.isEmpty
  | c :: cs => needle.isPrefixOf (c :: cs) || occursIn needle cs

/-- Whether the front end made a spelling up for something without a name. -/
def isSynthesized (spelling : String) : Bool :=
  occursIn "(anonymous".toList spelling.toList || occursIn "(unnamed".toList spelling.toList

namespace Usr

/-- The pieces of a text between its separators; `n` separators give `n + 1` pieces. -/
def pieces (separator : Char) : List Char → List (List Char)
  | [] => [[]]
  | c :: cs =>
    if c = separator then [] :: pieces separator cs
    else match pieces separator cs with
      | [] => [[c]]
      | p :: ps => (c :: p) :: ps

/-- Markers of tags without a name of their own: unnamed ones and those named by a typedef. -/
def isUnnamedMarker (piece : List Char) : Bool :=
  ["SA".toList, "Sa".toList, "UA".toList, "Ua".toList, "EA".toList, "Ea".toList].contains piece

/-- Markers that the tag's name follows. -/
def isNamedMarker (piece : List Char) : Bool := [['S'], ['U'], ['E']].contains piece

/-- Whether the last marker is that of a tag without a name; `last` is what the markers
before say. The piece after a naming marker is a name, whatever it looks like. -/
def endsUnnamed (last : Bool) : List (List Char) → Bool
  | [] => last
  | p :: ps =>
    if isUnnamedMarker p then endsUnnamed true ps
    else if isNamedMarker p then
      match ps with
      | [] => false
      | _ :: rest => endsUnnamed false rest
    else endsUnnamed last ps

def isUnnamed (usr : String) : Bool := endsUnnamed false (pieces '@' usr.toList)

end Usr

namespace SourceUnit

/-- Whether a struct, union or enum has no tag name. Other declarations are never unnamed. -/
def isAnonymous (u : SourceUnit) (c : CursorId) : Bool :=
  let k := u.cursor c
  k.kind.isTag && (k.anonymous || isSynthesized k.spelling || Usr.isUnnamed k.usr)

def declSpelling (u : SourceUnit) (c : CursorId) : String :=
  if u.isAnonymous c then "" else u.spellingOf c

/-- The spelling of a field, empty for unnamed bitfields and anonymous members. -/
def fieldSpelling (u : SourceUnit) (c : CursorId) : String :=
  if isSynthesized (u.spellingOf c) then "" else u.spellingOf c

end SourceUnit

end DeclAtlas
