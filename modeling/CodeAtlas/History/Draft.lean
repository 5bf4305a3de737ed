import CodeAtlas.History.Log

/-! # New commits

A draft tells what a commit changes of the tree of its first parent. Adding it to a repository
writes its objects and moves the main branch to it. -/
namespace CodeAtlas.History

/-- A file that a commit writes, or removes if there are no contents. -/
structure DraftFile where
  path : List UInt8
  content : Option (EntryMode × ByteArray)

structure Draft where
  author : Signature
  committer : Signature
  message : List UInt8
  files : List DraftFile

/-- Files with their places, as a commit has them. -/
abbrev Snapshot := List (List FileName × EntryMode × ObjectName)

/-- Write a file or remove what is at its place. Nothing stays above or below a file that is
written. -/
def Snapshot.apply (s : Snapshot) (f : DraftFile) : Snapshot :=
  let place := FileTree.pieces f.path
  let others := s.filter fun e => !place.isPrefixOf e.1
  match f.content with
  | none => others
  | some (mode, content) =>
      (others.filter fun e => !e.1.isPrefixOf place) ++ [(place, mode, (Object.blob content).name)]

/-- The files below a directory of a snapshot, seen from there. -/
def Snapshot.under (s : Snapshot) (name : FileName) : Snapshot :=
  s.filterMap fun (place, file) =>
    match place with
    | first :: rest => if first = name then some (rest, file) else none
    | [] => none

/-- The name that an entry is sorted by: a directory as if a slash ended it. -/
def TreeEntry.sortKey (e : TreeEntry) : List UInt8 :=
  if e.mode = .directory then e.name ++ [FileTree.slash] else e.name

/-- The objects of the directories of a snapshot, its own first. -/
def treeObjects : (depth : Nat) → (files : Snapshot) → List Object
  | 0, _ => [.tree []]
  | depth + 1, s =>
      let names := (s.filterMap (·.1.head?)).eraseDups
      let parts := names.map fun name =>
        match s.find? (·.1 = [name]) with
        | some (_, mode, object) => (({ mode, name, object } : TreeEntry), ([] : List Object))
        | none =>
            let below := treeObjects depth (s.under name)
            ({ mode := .directory, name, object := (below.head?.map Object.name).getD "" }, below)
      let entries := (parts.map (·.1)).mergeSort fun a b =>
        !FileTree.nameBefore b.sortKey a.sortKey
      .tree entries :: parts.flatMap (·.2)

namespace Repository

/-- A repository without commits, its head on the main branch. -/
def empty : Repository :=
  let names (ns : List String) : List FileName := ns.map Text.toBytes
  ⟨(((FileTree.directory []).put (names ["HEAD"]) (.file "ref: refs/heads/main\n".toUTF8)).makeDirectory
    (names ["objects"])).makeDirectory (names ["refs", "heads"])⟩

def write (r : Repository) (place : List String) (content : ByteArray) : Repository :=
  ⟨r.directory.put (place.map Text.toBytes) (.file content)⟩

def addObject (r : Repository) (o : Object) : Repository := r.write (objectPlace o.name) o.bytes

def mainBranch : List String := ["refs", "heads", "main"]

def mainTip? (r : Repository) : Option ObjectName :=
  r.target? 1 (.branch "refs/heads/main")

def snapshot (r : Repository) (commit : ObjectName) : Snapshot :=
  let files := do
    r.filesBelow nestingLimit [] (← r.entries? (← r.commit? commit).tree)
  (files.getD []).map fun s => (FileTree.pieces s.path, s.mode, s.object)

def add (r : Repository) (parents : List ObjectName) (d : Draft) : Repository × ObjectName :=
  let before := (parents.head?.map r.snapshot).getD []
  let after := d.files.foldl Snapshot.apply before
  let blobs := d.files.filterMap fun f => f.content.map fun c => Object.blob c.2
  let trees := treeObjects nestingLimit after
  let commit := Object.commit {
    tree := (trees.head?.map Object.name).getD ""
    parents := parents
    author := d.author
    committer := d.committer
    message := d.message }
  let r := (blobs ++ trees ++ [commit]).foldl addObject r
  (r.write mainBranch (commit.name ++ "\n").toUTF8, commit.name)

end Repository

end CodeAtlas.History
