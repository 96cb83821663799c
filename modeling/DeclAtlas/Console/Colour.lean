import DeclAtlas.Failure
import DeclAtlas.Json.Read
import DeclAtlas.Text.Letter

/-! Colours by name: a word, six hexadecimal digits, a number, or three numbers. -/

namespace DeclAtlas.Colour

def words : List String :=
  ["default", "black", "red", "green", "yellow", "blue", "magenta", "cyan", "white",
   "bright_black", "bright_red", "bright_green", "bright_yellow", "bright_blue",
   "bright_magenta", "bright_cyan", "bright_white", "navy_blue", "dark_blue", "dark_green",
   "dark_cyan", "light_sea_green", "dark_turquoise", "medium_spring_green", "dark_red",
   "blue_violet", "steel_blue", "cornflower_blue", "cadet_blue", "medium_turquoise",
   "dark_magenta", "dark_violet", "purple", "light_slate_grey", "light_slate_gray",
   "medium_purple", "light_slate_blue", "dark_sea_green", "light_green", "medium_violet_red",
   "indian_red", "medium_orchid", "dark_goldenrod", "rosy_brown", "dark_khaki",
   "light_steel_blue", "green_yellow", "orchid", "violet", "tan", "hot_pink", "dark_orange",
   "light_coral", "sandy_brown"]

def shades : List (String × List Nat) :=
  [("blue", [1, 3]), ("deep_sky_blue", [1, 2, 3, 4]), ("dodger_blue", [1, 2, 3]),
   ("green", [1, 3, 4]), ("spring_green", [1, 2, 3, 4]), ("turquoise", [2, 4]),
   ("cyan", [1, 2, 3]), ("deep_pink", [1, 2, 3, 4]), ("purple", [3, 4]), ("orange", [1, 3, 4]),
   ("medium_purple", [1, 2, 3, 4]), ("slate_blue", [1, 3]), ("royal_blue", [1]),
   ("chartreuse", [1, 2, 3, 4]), ("dark_sea_green", [1, 2, 3, 4]), ("pale_turquoise", [1, 4]),
   ("steel_blue", [1, 3]), ("sky_blue", [1, 2, 3]), ("pale_green", [1, 3]),
   ("sea_green", [1, 2, 3]), ("aquamarine", [1, 3]), ("dark_slate_gray", [1, 2, 3]),
   ("light_pink", [1, 3, 4]), ("plum", [1, 2, 3, 4]), ("yellow", [1, 2, 3, 4]), ("wheat", [1, 4]),
   ("dark_olive_green", [1, 2, 3]), ("light_sky_blue", [1, 3]), ("red", [1, 3]),
   ("magenta", [1, 2, 3]), ("dark_orange", [3]), ("hot_pink", [2, 3]), ("medium_orchid", [1, 3]),
   ("light_salmon", [1, 3]), ("gold", [1, 3]), ("navajo_white", [1, 3]),
   ("light_steel_blue", [1, 3]), ("light_cyan", [1, 3]), ("pink", [1, 3]),
   ("light_goldenrod", [1, 2, 3]), ("misty_rose", [1, 3]), ("thistle", [1, 3]), ("khaki", [1, 3]),
   ("light_yellow", [3]), ("honeydew", [2]), ("orange_red", [1]), ("indian_red", [1]),
   ("salmon", [1]), ("pale_violet_red", [1]), ("orchid", [1, 2]), ("cornsilk", [1]),
   ("grey", greys), ("gray", greys)]
where
  greys : List Nat :=
    [0, 3, 7, 11, 15, 19, 23, 27, 30, 35, 37, 39, 42, 46, 50, 53, 54, 58, 62, 63, 66, 69, 70, 74,
     78, 82, 84, 85, 89, 93, 100]

def shadeWords : List String :=
  shades.flatMap fun (stem, numbers) => numbers.map fun n => stem ++ toString n

def argument? (opening : String) (cs : List Char) : Option (List Char) :=
  if opening.toList.isPrefixOf cs && cs.getLast? == some ')' then
    some ((cs.drop opening.length).dropLast)
  else none

def isHexColour : List Char → Bool
  | '#' :: digits => digits.length == 6 && digits.all fun c => (Json.hexValue? c).isSome
  | _ => false

def isNumbered (digits : List Char) : Bool :=
  !digits.isEmpty && digits.length ≤ 3 && digits.all Char.isDigit && Json.digitsToNat digits ≤ 255

def commaParts : List Char → List (List Char)
  | [] => [[]]
  | c :: cs =>
    if c = ',' then [] :: commaParts cs
    else match commaParts cs with
      | [] => [[c]]
      | p :: ps => (c :: p) :: ps

/-- The value of a decimal digit of any script. -/
def digitValue (c : Char) : Nat :=
  match Text.digitRanges.find? fun (first, last) => first ≤ c.toNat && c.toNat ≤ last with
  | some (first, _) => (c.toNat - first) % 10
  | none => 0

def numberOf (digits : List Char) : Nat := digits.foldl (fun n c => 10 * n + digitValue c) 0

/-- A colour by its red, green and blue; of three numbers none may be missing. -/
def isMixed (inside : List Char) : Except Failure Bool :=
  let parts := commaParts inside
  if inside.isEmpty || !inside.all (fun c => c == ',' || Text.isDecimalDigit c) then .ok false
  else if parts.length != 3 then .ok false
  else if parts.contains [] then .error .missingNumber
  else .ok (parts.all fun p => numberOf p ≤ 255)

/-- Whether a word in small letters is the name of a colour. -/
def isName (cs : List Char) : Except Failure Bool :=
  if words.contains (String.ofList cs) || shadeWords.contains (String.ofList cs) then .ok true
  else if isHexColour cs then .ok true
  else
    match argument? "color(" cs, argument? "rgb(" cs with
    | some digits, _ => .ok (isNumbered digits)
    | none, some inside => isMixed inside
    | none, none => .ok false

end DeclAtlas.Colour
