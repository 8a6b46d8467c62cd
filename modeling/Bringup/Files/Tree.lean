import Bringup.Text.Radix
import Bringup.Text.Utf8
/-!
# A tree of files

Files are found by walking the components of a path, from the top or from the working
directory. The directories there are those that lead to a file or to the working directory.
A tree that is made of relative paths lies in a system with the usual directories at the top.
There are no links in a tree, so a step back always leads to the directory that was left.
-/

namespace Bringup

/-- Why a file could not be read or written. -/
inductive FileError where
  | notFound
  | isDirectory
  | notDirectory
  | nameTooLong
  /-- The path holds a zero character. -/
  | zeroInPath
  /-- The content is no well-formed text. -/
  | invalidText
  deriving DecidableEq, Repr

/-- What the operating system says of an error, without its number. -/
def FileError.reason : FileError → String
  | .notFound => "No such file or directory"
  | .isDirectory => "Is a directory"
  | .notDirectory => "Not a directory"
  | .nameTooLong => "File name too long"
  | .zeroInPath => "file name contained an unexpected NUL byte"
  | .invalidText => "stream did not contain valid UTF-8"

/-- The number the operating system gives an error. -/
def FileError.number? : FileError → Option Nat
  | .notFound => some 2
  | .isDirectory => some 21
  | .notDirectory => some 20
  | .nameTooLong => some 36
  | .zeroInPath => none
  | .invalidText => none

/-- The wording of an error. -/
def FileError.message (error : FileError) : String :=
  match error.number? with
  | some number => error.reason ++ " (os error " ++ Text.decimal number ++ ")"
  | none => error.reason

namespace Path

/-- Whether a path starts at the top of the file system. -/
def isAbsolute (path : String) : Bool := path.toList.head? == some '/'

/-- A name looked up in a directory. An absolute name stands for itself, and an empty
directory is the working directory. -/
def join (directory name : String) : String :=
  if isAbsolute name || directory.isEmpty then name
  else if directory.toList.getLast? == some '/' then directory ++ name
  else directory ++ "/" ++ name

/-- The components of a path, empty ones included. -/
def components (path : String) : List String := path.splitOn "/"

/-- The longest name of a file in bytes. -/
def maxName : Nat := 255

/-- The longest path in bytes. -/
def maxPath : Nat := 4095

end Path

/-- Files by the components of their paths from the top. -/
structure FileTree where
  workingDirectory : List String
  files : List (List String × List UInt8)

namespace FileTree

/-- The working directory of a tree that is made of relative paths. Its name holds a slash, so
that no path leads there from the top. -/
def home : List String := ["tmp", "work/desk"]

/-- The directories at the top. -/
def systemDirectories : List String :=
  ["bin", "boot", "dev", "etc", "home", "lib", "media", "mnt", "opt", "proc", "root", "run",
    "sbin", "srv", "sys", "tmp", "usr", "var"]

/-- The files outside of the working directory: one that is always empty. A file without a name
makes its directory known. -/
def systemFiles : List (List String × List UInt8) :=
  (["dev", "null"], []) :: systemDirectories.map fun name => ([name, ""], [])

/-- The tree of files given by their paths in the working directory. -/
def ofPaths (files : List (String × List UInt8)) : FileTree :=
  ⟨home, files.map (fun (path, content) => (home ++ Path.components path, content))
    ++ systemFiles⟩

/-- A tree with no file in the working directory. -/
def empty : FileTree := ofPaths []

/-- Where a walk has come to. -/
inductive Place where
  | directory (path : List String)
  | file (path : List String) (content : List UInt8)

/-- Whether the tree has this directory. -/
def hasDirectory (tree : FileTree) (directory : List String) : Bool :=
  directory.isPrefixOf tree.workingDirectory ||
    tree.files.any fun (path, _) => directory.isPrefixOf path && directory.length < path.length

/-- Where a walk for a path begins. -/
def start (tree : FileTree) (path : String) : List String :=
  if Path.isAbsolute path then [] else tree.workingDirectory

/-- Takes one component. -/
def step (tree : FileTree) (place : Place) (name : String) : Except FileError Place :=
  match place with
  | .file _ _ => .error .notDirectory
  | .directory directory =>
    if name = "" || name = "." then .ok place
    else if name = ".." then .ok (.directory directory.dropLast)
    else if Path.maxName < (Text.utf8Bytes name).length then .error .nameTooLong
    else
      let path := directory ++ [name]
      match tree.files.lookup path with
      | some content => .ok (.file path content)
      | none => if tree.hasDirectory path then .ok (.directory path) else .error .notFound

/-- Where the first components of a path lead. -/
def walk (tree : FileTree) (path : String) (components : List String) : Except FileError Place := do
  if path.toList.contains '\x00' then throw .zeroInPath
  if path.isEmpty then throw .notFound
  if Path.maxPath < (Text.utf8Bytes path).length then throw .nameTooLong
  components.foldlM tree.step (.directory (tree.start path))

/-- Where a path leads. -/
def find (tree : FileTree) (path : String) : Except FileError Place :=
  tree.walk path (Path.components path)

/-- Reads the file at a path. -/
def read (tree : FileTree) (path : String) : Except FileError (List UInt8) := do
  match ← tree.find path with
  | .file _ content => pure content
  | .directory _ => throw .isDirectory

/-- Reads the text at a path. -/
def readText (tree : FileTree) (path : String) : Except FileError String := do
  match Text.decodeStrict? (← tree.read path) with
  | some text => pure text
  | none => throw .invalidText

/-- Gives a file another content. The file is made if there is none. -/
def put (tree : FileTree) (path : List String) (content : List UInt8) : FileTree :=
  { tree with files := (path, content) :: tree.files.filter (·.1 != path) }

/-- Writes the file at a path. Its directory has to exist, and only directories have a slash
behind their names. -/
def write (tree : FileTree) (path : String) (content : List UInt8) : Except FileError FileTree := do
  let names := ((Path.components path).reverse.dropWhile (· == "")).reverse
  match ← tree.walk path names.dropLast with
  | .file _ _ => throw .notDirectory
  | .directory directory =>
    let name := names.getLast?.getD ""
    if path.toList.getLast? = some '/' then throw .isDirectory
    match tree.step (.directory directory) name with
    | .ok (.directory _) => throw .isDirectory
    | .ok (.file _ _) | .error .notFound => pure (tree.put (directory ++ [name]) content)
    | .error error => throw error

end FileTree

end Bringup
