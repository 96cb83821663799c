import DeclAtlas.Path
import DeclAtlas.Table

/-! A tree of files. Places in it are lists of components from the root; `..` in a path is
followed as the file system follows it, so the directory before it has to be there. -/

namespace DeclAtlas

inductive FileNode where
  | directory
  | file (text : String)
  deriving DecidableEq, Repr, Inhabited

inductive FileError where
  | notFound
  | isDirectory
  | notDirectory
  | nameTooLong
  /-- The path has a null character, so it cannot name anything. -/
  | nullCharacter
  deriving DecidableEq, Repr, Inhabited

def FileError.message : FileError → String
  | notFound => "No such file or directory"
  | isDirectory => "Is a directory"
  | notDirectory => "Not a directory"
  | nameTooLong => "File name too long"
  | nullCharacter => "embedded null byte"

/-- What is at which place. The root is always a directory. -/
structure FileTree where
  nodes : Table (List String) FileNode := ∅
  deriving Inhabited

namespace FileTree

def nameLimit : Nat := 255

def pathLimit : Nat := 4095

def nodeAt? (t : FileTree) : List String → Option FileNode
  | [] => some .directory
  | place => t.nodes.get? place

/-- The place that components lead to from a directory; each but the last must be a
directory. -/
def follow (t : FileTree) (place : List String) : List String → Except FileError (List String)
  | [] => .ok place
  | name :: rest =>
    match t.nodeAt? place with
    | none => .error .notFound
    | some (.file _) => .error .notDirectory
    | some .directory =>
      if name = ".." then t.follow place.dropLast rest
      else if name = "" ∨ name = "." then t.follow place rest
      else if nameLimit < name.utf8ByteSize then .error .nameTooLong
      else t.follow (place ++ [name]) rest

def locate (t : FileTree) (directory : List String) (p : Path) : Except FileError (List String) :=
  if p.hasNull then .error .nullCharacter
  else if pathLimit < p.text.utf8ByteSize then .error .nameTooLong
  else t.follow (if p.isAbsolute then [] else directory) p.parts

def stat (t : FileTree) (directory : List String) (p : Path) : Except FileError FileNode := do
  match t.nodeAt? (← t.locate directory p) with
  | some node => .ok node
  | none => .error .notFound

/-- What is at a path given as text, of which every component counts: a file with a slash
after it is not found. -/
def statText (t : FileTree) (directory : List String) (s : String) : Except FileError FileNode := do
  if s = "" then .error .notFound
  if s.toList.contains '\x00' then .error .nullCharacter
  let start := if s.toList.head? = some '/' then [] else directory
  match t.nodeAt? (← t.follow start ((Path.pieces s.toList).map String.ofList)) with
  | some node => .ok node
  | none => .error .notFound

/-- Whether there is something at a path; too long a name is not taken as an answer. -/
def «exists» (t : FileTree) (directory : List String) (p : Path) : Except FileError Bool :=
  match t.stat directory p with
  | .ok _ => .ok true
  | .error .nameTooLong => .error .nameTooLong
  | .error _ => .ok false

def plainLineEnds : List Char → List Char
  | [] => []
  | '\r' :: '\n' :: cs => '\n' :: plainLineEnds cs
  | c :: cs => (if c = '\r' then '\n' else c) :: plainLineEnds cs

def readText (t : FileTree) (directory : List String) (p : Path) : Except FileError String := do
  match (← t.stat directory p) with
  | .file text => .ok (String.ofList (plainLineEnds text.toList))
  | .directory => .error .isDirectory

/-- The tree with the text of a file changed by `f`, which is given the empty text if the file
is new. -/
def editText (t : FileTree) (directory : List String) (p : Path) (f : String → String) :
    Except FileError FileTree := do
  let place ← t.locate directory p
  match t.nodeAt? place with
  | some .directory => .error .isDirectory
  | some (.file text) => .ok ⟨t.nodes.insert place (.file (f text))⟩
  | none => .ok ⟨t.nodes.insert place (.file (f ""))⟩

def writeText (t : FileTree) (directory : List String) (p : Path) (text : String) :
    Except FileError FileTree :=
  t.editText directory p fun _ => text

def appendText (t : FileTree) (directory : List String) (p : Path) (text : String) :
    Except FileError FileTree :=
  t.editText directory p (· ++ text)

/-- The tree with a directory at a place and at every place above it. -/
def makeDirectory (t : FileTree) (place : List String) : FileTree :=
  (List.range place.length).foldl
    (fun t n => ⟨t.nodes.insert (place.take (n + 1)) .directory⟩) t

/-- The place of a path in which `..` goes up whatever is there. -/
def normalize (directory : List String) (p : Path) : List String :=
  p.parts.foldl (fun place name => if name = ".." then place.dropLast else place ++ [name])
    (if p.isAbsolute then [] else directory)

end FileTree

def Path.ofPlace (place : List String) : Path := ⟨1, place⟩

end DeclAtlas
