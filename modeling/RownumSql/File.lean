/-!
# Files

Reading the files that hold settings and documents, from wherever they are kept, and a tree of files
in memory.
-/

namespace RownumSql

/-- Why a file could not be read. -/
inductive FileFault where
  | notFound
  | isDirectory
  | notDirectory
  | nameTooLong
  /-- The path holds the character that ends one. -/
  | brokenName
  | notText
  | other (reason : String)
deriving DecidableEq, Repr

def FileFault.message : FileFault → String
  | notFound => "No such file or directory (os error 2)"
  | isDirectory => "Is a directory (os error 21)"
  | notDirectory => "Not a directory (os error 20)"
  | nameTooLong => "File name too long (os error 36)"
  | brokenName => "file name contained an unexpected NUL byte"
  | notText => "stream did not contain valid UTF-8"
  | other reason => reason

/-- A place where files are kept. -/
structure Files (m : Type → Type) where
  /-- The text of a file. -/
  read : String → m (Except FileFault String)
  /-- Whether there is a file or a directory. -/
  exist : String → m Bool

/-! ## Files in memory -/

/-- Files and directories; a directory has no content.  Each is named by the way that leads there from
the directory of the tree, the last step in front: names of entries below it, after as many steps
upwards as lead out of it, or after the root. -/
structure FileTree where
  entries : List (List String × Option ByteArray)

namespace FileTree

/-- What stands at a place of the tree. -/
inductive Place where
  | nothing
  | directory
  | file (content : ByteArray)

/-! ### Ways -/

def pathParts (path : String) : List String := (path.toList.splitOn '/').map String.ofList

/-- The way on which a path begins. -/
def origin (path : String) : List String := if path.toList.head? = some '/' then ["/"] else []

/-- The way that goes on with one part of a path. -/
def step (way : List String) (part : String) : List String :=
  if part = "" || part = "." then way
  else if part = ".." then
    match way with
    | [] => [".."]
    | last :: before =>
      if last = "/" then way else if last = ".." then ".." :: way else before
  else part :: way

/-- Whether a way leads to a directory that is there whatever the tree holds: the directory of the
tree, one above it, or the root. -/
def isAbove (way : List String) : Bool := way.all (· = "..") || way = ["/"]

/-! ### Trees -/

/-- The entries that a path brings about: what it leads to, and the directories passed on the way. -/
def pathEntries (path : String) (content : Option ByteArray) :
    List (List String × Option ByteArray) :=
  let parts := pathParts path
  let passed := (List.range parts.length).map fun n => (parts.take n).foldl step (origin path)
  (parts.foldl step (origin path), content) :: passed.map fun way => (way, none)

/-- The tree with the given paths; a path without content is a directory.  Of two contents for one
place the later counts. -/
def ofList (files : List (String × Option ByteArray)) : FileTree :=
  ⟨files.reverse.flatMap fun f => pathEntries f.1 f.2⟩

/-- What stands at the end of a way. -/
def place (t : FileTree) (way : List String) : Place :=
  match t.entries.find? fun e => e.1 = way with
  | some (_, some content) => .file content
  | some (_, none) => .directory
  | none => if isAbove way then .directory else .nothing

/-- The greatest size of a name in bytes. -/
def maxName : Nat := 255

/-- The greatest size of a path in bytes. -/
def maxPath : Nat := 4095

/-- Follows the parts of a path.  Each step needs a directory to start from. -/
def walk (t : FileTree) (way : List String) : List String → Except FileFault Place
  | [] => .ok (t.place way)
  | part :: rest =>
    match t.place way with
    | .nothing => .error .notFound
    | .file _ => .error .notDirectory
    | .directory =>
      if maxName < part.utf8ByteSize then .error .nameTooLong else t.walk (step way part) rest

/-- What a path leads to. -/
def find (t : FileTree) (path : String) : Except FileFault Place :=
  if path.toList.contains (Char.ofNat 0) then .error .brokenName
  else if path = "" then .error .notFound
  else if maxPath < path.utf8ByteSize then .error .nameTooLong
  else t.walk (origin path) (pathParts path)

def readText (t : FileTree) (path : String) : Except FileFault String :=
  match t.find path with
  | .error e => .error e
  | .ok .nothing => .error .notFound
  | .ok .directory => .error .isDirectory
  | .ok (.file content) =>
    match String.fromUTF8? content with
    | some s => .ok s
    | none => .error .notText

def existsAt (t : FileTree) (path : String) : Bool :=
  match t.find path with
  | .error _ => false
  | .ok .nothing => false
  | .ok _ => true

/-- The tree as a place where files are kept. -/
def files (t : FileTree) : Files Id := ⟨t.readText, t.existsAt⟩

end FileTree

end RownumSql
