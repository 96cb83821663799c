import DeclAtlas.Text.Letter

/-! Emoji codes. A name between colons, without blanks, is a code; codes are found from left to
right and do not overlap, and a code whose name is not known stays as it is. -/

namespace DeclAtlas.Emoji

def names : List (List Char × Char) :=
  [(['1', '0', '0'], Char.ofNat 0x1F4AF), (['1', '2', '3', '4'], Char.ofNat 0x1F522)]

/-- The endings of a name that choose how its emoji is shown, with their selectors. -/
def endings : List (List Char × Char) :=
  [("-emoji".toList, Char.ofNat 0xFE0F), ("-text".toList, Char.ofNat 0xFE0E)]

def splitEnding (name : List Char) : List Char × List Char :=
  match endings.find? fun (ending, _) => ending.isSuffixOf name with
  | some (ending, selector) => (name.take (name.length - ending.length), [selector])
  | none => (name, [])

def ofName? (name : List Char) : Option (List Char) :=
  let (stem, selectors) := splitEnding name
  (names.lookup stem).map (· :: selectors)

def replaceWithin : Nat → List Char → List Char
  | 0, cs => cs
  | _ + 1, [] => []
  | n + 1, c :: cs =>
    if c = ':' then
      let inName := fun d => d != ':' && !Text.isBlank d
      match cs.dropWhile inName with
      | ':' :: rest =>
        let name := cs.takeWhile inName
        (ofName? name).getD (':' :: name ++ [':']) ++ replaceWithin n rest
      | _ => c :: replaceWithin n cs
    else c :: replaceWithin n cs

def replace (cs : List Char) : List Char := replaceWithin cs.length cs

end DeclAtlas.Emoji
