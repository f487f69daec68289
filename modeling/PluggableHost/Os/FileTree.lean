import PluggableHost.Os.Failure

namespace PluggableHost.Os

/-!
# Files

A tree of files and directories, and how a path leads through it: part by part
from the root or from the working directory, through directories only.
-/

/-- The content of a file. -/
abbrev Bytes := List UInt8

/-- The bytes of a text in UTF-8. -/
def Bytes.ofText (text : String) : Bytes := text.toUTF8.toList

/-- The text that bytes encode in UTF-8, if they do. -/
def Bytes.text? (bytes : Bytes) : Option String := String.fromUTF8? ⟨bytes.toArray⟩

/-- What stands at a place of the tree. -/
inductive Node where
  | file (content : Bytes)
  | directory
  deriving Repr, DecidableEq

/-- A place of the tree: the names that lead there from the root. -/
abbrev Place := List String

/-- What stands at which place, and where relative paths start. -/
structure FileTree where
  nodes : List (Place × Node) := []
  workingDirectory : Place := []
  deriving Repr, DecidableEq

/-- The greatest number of bytes in one part of a path. -/
def longestName : Nat := 255

/-- The number of bytes from which on a path is too long. -/
def pathLimit : Nat := 4096

namespace FileTree

/-- What stands at a place. The root is always a directory. -/
def node? (tree : FileTree) (place : Place) : Option Node :=
  if place.isEmpty then some .directory else tree.nodes.lookup place

/-- Put something at a place. -/
def put (tree : FileTree) (place : Place) (node : Node) : FileTree :=
  { tree with nodes := (place, node) :: tree.nodes }

/-- Make a place a directory, and all places on the way to it. -/
def addDirectory (tree : FileTree) (place : Place) : FileTree :=
  (List.range (place.length + 1)).foldl (fun tree depth =>
    if (tree.node? (place.take depth)).isNone then tree.put (place.take depth) .directory
    else tree) tree

/-- Write a file, and make the directories on the way to it. -/
def addFile (tree : FileTree) (place : Place) (content : Bytes) : FileTree :=
  (tree.addDirectory place.dropLast).put place (.file content)

/-- The place from which a path leads on. -/
def startOf (tree : FileTree) (path : String) : Place :=
  if path.startsWith "/" then [] else tree.workingDirectory

/-- The place that one part of a path leads to. -/
def stepInto (place : Place) (part : String) : Place :=
  if part = "" || part = "." then place
  else if part = ".." then place.dropLast
  else place ++ [part]

/-- Put something where the parts of a path lead, and directories on the way. -/
def layAlong (node : Node) (tree : FileTree) (place : Place) : List String → FileTree
  | [] => tree.put place node
  | part :: rest => layAlong node (tree.addDirectory place) (stepInto place part) rest

/-- Put something where a path leads, and directories on the way. -/
def lay (tree : FileTree) (path : String) (node : Node) : FileTree :=
  layAlong node tree (tree.startOf path) (path.splitOn "/")

/-- Follow the parts of a path from a place. -/
def walk (tree : FileTree) (place : Place) : List String → Except Failure (Place × Node)
  | [] =>
      match tree.node? place with
      | some node => .ok (place, node)
      | none => .error (.system noSuchFile)
  | part :: rest =>
      match tree.node? place with
      | none => .error (.system noSuchFile)
      | some (.file _) => .error (.system notADirectory)
      | some .directory =>
          if part.utf8ByteSize > longestName then .error (.system nameTooLong)
          else tree.walk (stepInto place part) rest

/-- What a path leads to. -/
def find (tree : FileTree) (path : String) : Except Failure (Place × Node) :=
  if path.toList.contains '\x00' then .error .nulInPath
  else if path.isEmpty then .error (.system noSuchFile)
  else if path.utf8ByteSize ≥ pathLimit then .error (.system nameTooLong)
  else tree.walk (tree.startOf path) (path.splitOn "/")

/-- The path leads to a file. -/
def isFile (tree : FileTree) (path : String) : Bool :=
  match tree.find path with
  | .ok (_, .file _) => true
  | _ => false

/-- The content of the file that a path leads to. -/
def read (tree : FileTree) (path : String) : Except Failure Bytes :=
  match tree.find path with
  | .ok (_, .file content) => .ok content
  | .ok (_, .directory) => .error (.system isADirectory)
  | .error failure => .error failure

/-- The content of a file as a text. -/
def readText (tree : FileTree) (path : String) : Except Failure String :=
  match tree.read path with
  | .error failure => .error failure
  | .ok content =>
      match content.text? with
      | some text => .ok text
      | none => .error .notUtf8

end FileTree

end PluggableHost.Os
