import DeclAtlas.FileTree
import DeclAtlas.Note
import DeclAtlas.Text.Likeness
import DeclAtlas.Text.Quoted

/-! The arguments of the command line. Options may stand anywhere before `--`; one with a value
takes it attached or from the next argument, whatever that is. -/

namespace DeclAtlas.CommandLine

inductive Flag where
  | config | includeDir | define | frontEndArg | load | save | json | logLevel | help
  deriving DecidableEq, Repr, Inhabited

namespace Flag

def spelling : Flag → String
  | config => "--config"
  | includeDir => "-I"
  | define => "-D"
  | frontEndArg => "--clang-arg"
  | load => "--load"
  | save => "--save"
  | json => "--json"
  | logLevel => "--log-level"
  | help => "--help"

def all : List Flag :=
  [config, includeDir, define, frontEndArg, load, save, json, logLevel, help]

def isShort : Flag → Bool
  | includeDir | define => true
  | _ => false

def takesValue : Flag → Bool
  | json | help => false
  | _ => true

def ofLong? (s : List Char) : Option Flag :=
  all.find? fun f => !f.isShort && f.spelling.toList == s

def longSpellings : List String := (all.filter fun f => !f.isShort).map spelling

def ofShort? (c : Char) : Option Flag :=
  all.find? fun f => f.isShort && f.spelling.toList == ['-', c]

end Flag

inductive Misuse where
  /-- The names that may have been meant are given with an unknown one. -/
  | noSuchCommand (name : String) (meant : List String)
  | noSuchOption (name : String) (meant : List String)
  | missingValue (option : String)
  | unexpectedValue (option : String)
  | missingSource
  | extraArguments (args : List String)
  | badPath (parameter : String) (what : String) (text : String) (problem : String)
  | badLevel (text : String)
  /-- A path that cannot even be looked up. -/
  | unusablePath (e : FileError)
  deriving DecidableEq, Repr, Inhabited

namespace Misuse

def suggestion : List String → String
  | [] => ""
  | [name] => s!" Did you mean {Text.quoted name}?"
  | names => " (Did you mean one of: " ++ String.intercalate ", " (names.map Text.quoted) ++ "?)"

def message : Misuse → String
  | noSuchCommand name meant => s!"No such command {Text.quoted name}." ++ suggestion meant
  | noSuchOption name meant => s!"No such option {Text.quoted name}." ++ suggestion meant
  | missingValue option => s!"Option {Text.quoted option} requires an argument."
  | unexpectedValue option => s!"Option {Text.quoted option} does not take a value."
  | missingSource => "Missing argument 'SOURCE'."
  | extraArguments args =>
    (if args.length = 1 then "Got unexpected extra argument (" else
      "Got unexpected extra arguments (") ++ String.intercalate " " args ++ ")"
  | badPath parameter what text problem =>
    s!"Invalid value for {Text.quoted parameter}: {what} {Text.quoted text} {problem}."
  | badLevel text =>
    s!"Invalid value for '--log-level': {Text.quoted text} is not one of " ++
      String.intercalate ", " (Level.words.map fun (w, _) => Text.quoted w) ++ "."
  | unusablePath e => e.message

/-- Whether the message stands alone, without a reminder of how the command is used. -/
def standsAlone : Misuse → Bool
  | missingValue _ | unexpectedValue _ => true
  | _ => false

end Misuse

structure Given where
  flag : Flag
  value : String := ""
  deriving DecidableEq, Repr, Inhabited

structure Arguments where
  options : List Given := []
  positional : List String := []
  deriving DecidableEq, Repr, Inhabited

namespace Arguments

/-- The options in a group of letters after one dash. The first that takes a value takes the
rest of the group, or else the next argument; `rest` is what is left of the arguments. -/
def shortGroup (rest : List String) : List Char → Except Misuse (List Given × List String)
  | [] => .ok ([], rest)
  | c :: cs =>
    match Flag.ofShort? c with
    | none => .error (.noSuchOption (String.ofList ['-', c]) [])
    | some f =>
      if f.takesValue then
        if cs ≠ [] then .ok ([⟨f, String.ofList cs⟩], rest)
        else
          match rest with
          | [] => .error (.missingValue f.spelling)
          | v :: rest => .ok ([⟨f, v⟩], rest)
      else do
        let (given, rest) ← shortGroup rest cs
        return (⟨f, ""⟩ :: given, rest)

def readOption (arg : List Char) (rest : List String) : Except Misuse (List Given × List String) :=
  let name := arg.takeWhile (· != '=')
  let attached :=
    if arg.contains '=' then some (String.ofList ((arg.dropWhile (· != '=')).drop 1)) else none
  match Flag.ofLong? name with
  | some f =>
    if f.takesValue then
      match attached, rest with
      | some v, _ => .ok ([⟨f, v⟩], rest)
      | none, v :: rest => .ok ([⟨f, v⟩], rest)
      | none, [] => .error (.missingValue f.spelling)
    else if attached.isSome then .error (.unexpectedValue f.spelling)
    else .ok ([⟨f, ""⟩], rest)
  | none =>
    if arg.take 2 = ['-', '-'] then
      .error (.noSuchOption (String.ofList name)
        (Text.closeWords (String.ofList name) Flag.longSpellings))
    else shortGroup rest (arg.drop 1)

def readWithin : Nat → List String → Except Misuse Arguments
  | 0, args => .ok { positional := args }
  | _ + 1, [] => .ok {}
  | n + 1, arg :: rest =>
    if arg = "--" then .ok { positional := rest }
    else if arg.toList.head? = some '-' ∧ arg ≠ "-" then do
      let (given, rest) ← readOption arg.toList rest
      let more ← readWithin n rest
      return { more with options := given ++ more.options }
    else do
      let more ← readWithin n rest
      return { more with positional := arg :: more.positional }

/-- Takes arguments apart. Every step takes an argument away. -/
def read (args : List String) : Except Misuse Arguments := readWithin args.length args

def valuesOf (a : Arguments) (f : Flag) : List String :=
  (a.options.filter (·.flag = f)).map Given.value

def value? (a : Arguments) (f : Flag) : Option String := (a.valuesOf f).getLast?

def has (a : Arguments) (f : Flag) : Bool := !(a.valuesOf f).isEmpty

end Arguments

end DeclAtlas.CommandLine
