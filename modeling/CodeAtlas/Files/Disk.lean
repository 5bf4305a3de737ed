import CodeAtlas.Files.Tree
import CodeAtlas.History.Git

/-! # Disks

A file tree with a directory that relative paths start from, and with what git tells of the
repositories in it. -/
namespace CodeAtlas

structure Disk where
  tree : FileTree
  current : List FileName
  git : History.Git

namespace Disk

open FileTree (pieces isDot)

def isAbsolute (path : String) : Bool := path.startsWith "/"

def join (above path : String) : String :=
  if isAbsolute path || above.isEmpty then path
  else if above.endsWith "/" then above ++ path
  else above ++ "/" ++ path

/-- Where a path starts: a place from its last name to its first. -/
def start (d : Disk) (path : String) : List FileName :=
  if isAbsolute path then [] else d.current.reverse

def resolve (d : Disk) (path : String) : Except FileTree.PathError (List FileName) :=
  if path.isEmpty then .error .missing
  else d.tree.follow FileTree.linkLimit (d.start path) (pieces (Text.toBytes path))

def find (d : Disk) (path : String) : Except FileTree.PathError FileTree := do
  match d.tree.at? (← d.resolve path) with
  | some t => return t
  | none => throw .missing

def read (d : Disk) (path : String) : Except FileTree.PathError ByteArray := do
  match ← d.find path with
  | .file content => return content
  | _ => throw .isDirectory

def write (d : Disk) (path : String) (content : ByteArray) : Disk :=
  let place := d.tree.locate (d.start path).reverse (pieces (Text.toBytes path))
  { d with tree := d.tree.put place (.file content) }

/-- Make the directories of a path that are missing, below a place. -/
def makeBelow (tree : FileTree) (place : List FileName) :
    (path : List FileName) → Except FileTree.PathError FileTree
  | [] => .ok tree
  | name :: rest =>
      match tree.follow FileTree.linkLimit place.reverse [name] with
      | .ok next =>
          match tree.at? next with
          | some (.directory _) => makeBelow tree next rest
          | _ => .error (if rest.all isDot then .taken else .notDirectory)
      | .error .missing =>
          if (tree.at? (place ++ [name])).isSome then .error .taken
          else makeBelow (tree.makeDirectory (place ++ [name])) (place ++ [name]) rest
      | .error e => .error e

def makeDirectories (d : Disk) (path : String) : Except FileTree.PathError Disk :=
  (makeBelow d.tree (d.start path).reverse (pieces (Text.toBytes path))).map fun tree =>
    { d with tree }

end Disk

end CodeAtlas
