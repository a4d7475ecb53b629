import ViewTemplate.Text.Lines

/-!
# Files

The command reads files and lists directories through a `FileSystem`.  A `FileTree` is one that is
held in memory.
-/

namespace ViewTemplate.CommandLine

/-- Why a file or a directory cannot be read. -/
inductive FileError where
  | notFound
  | isDirectory
  | notDirectory
  /-- The contents of the file are no text. -/
  | notText
  | other (reason : String)
  deriving Repr, DecidableEq

def FileError.message : FileError → String
  | notFound => "No such file or directory (os error 2)"
  | isDirectory => "Is a directory (os error 21)"
  | notDirectory => "Not a directory (os error 20)"
  | notText => "stream did not contain valid UTF-8"
  | other reason => reason

/-- How files are reached. -/
structure FileSystem (m : Type → Type) where
  /-- The bytes of a file. -/
  read : String → m (Except FileError ByteArray)
  /-- The names of the files that stand in a directory itself, in order. -/
  list : String → m (Except FileError (List String))

def FileSystem.readText {m : Type → Type} [Monad m] (files : FileSystem m) (path : String) :
    m (Except FileError String) := do
  match ← files.read path with
  | .error e => pure (.error e)
  | .ok bytes =>
    match String.fromUTF8? bytes with
    | some text => pure (.ok text)
    | none => pure (.error .notText)

/-! ## Paths -/

/-- The parts of a path between slashes. -/
def pathParts (path : String) : List String :=
  (Text.splitAt '/' path.toList).map String.ofList

/-- The parts of a path without those at the end that name nothing of their own. -/
def dropIdle (parts : List String) : List String :=
  match parts with
  | [] => []
  | first :: rest => first :: (rest.reverse.dropWhile fun part => part == "" || part == ".").reverse

/-- The name of the last part of a path without its ending.  A dot at the front starts no ending. -/
def fileStem (path : String) : String :=
  match (dropIdle (pathParts path)).getLast? with
  | none => ""
  | some "." => ""
  | some ".." => ""
  | some name =>
    match name.toList.reverse.dropWhile (· != '.') with
    | [] => name
    | [_] => name
    | _ :: stem => String.ofList stem.reverse

/-- The directory that a file stands in. -/
def parentDirectory (path : String) : String :=
  match dropIdle (dropIdle (pathParts path)).dropLast with
  | [] => "."
  | [""] => "/"
  | parts => String.intercalate "/" parts

/-- A file in a directory. -/
def joinPath (dir name : String) : String :=
  if dir.isEmpty || dir.endsWith "/" then dir ++ name else dir ++ "/" ++ name

/-! ## Trees -/

/-- Files in memory, each under the names on the way to it. -/
abbrev FileTree := List (List String × ByteArray)

namespace FileTree

/-- Whether a place in the tree is a file. -/
def isFile (tree : FileTree) (place : List String) : Bool :=
  tree.any fun (p, _) => p == place

/-- Whether a place in the tree is a directory. -/
def isDirectory (tree : FileTree) (place : List String) : Bool :=
  place.isEmpty || tree.any fun (p, _) => place.isPrefixOf p && place != p

/-- Go on from a place along the parts of a path. -/
def walk (tree : FileTree) (place : List String) : List String → Except FileError (List String)
  | [] => .ok place
  | part :: rest =>
    if !tree.isDirectory place then .error .notDirectory
    else if part = "" ∨ part = "." then walk tree place rest
    else if part = ".." then walk tree place.dropLast rest
    else
      let next := place ++ [part]
      if tree.isFile next || tree.isDirectory next then walk tree next rest
      else .error .notFound

/-- The place that a path leads to.  Nothing stands outside of the tree. -/
def find (tree : FileTree) (path : String) : Except FileError (List String) :=
  if path.isEmpty || path.startsWith "/" then .error .notFound
  else tree.walk [] (pathParts path)

/-- The bytes of a file. -/
def read (tree : FileTree) (path : String) : Except FileError ByteArray :=
  match tree.find path with
  | .error e => .error e
  | .ok place =>
    match tree.lookup place with
    | some bytes => .ok bytes
    | none => .error .isDirectory

/-- The names of the files that stand in a directory itself, in order. -/
def list (tree : FileTree) (path : String) : Except FileError (List String) :=
  match tree.find path with
  | .error e => .error e
  | .ok place =>
    if !tree.isDirectory place then .error .notDirectory
    else
      let names := tree.filterMap fun (p, _) =>
        if p.dropLast == place then p.getLast? else none
      .ok (names.mergeSort fun a b => decide (a ≤ b))

/-- The tree as a file system. -/
def fileSystem (tree : FileTree) : FileSystem Id where
  read path := tree.read path
  list path := tree.list path

end FileTree

end ViewTemplate.CommandLine
