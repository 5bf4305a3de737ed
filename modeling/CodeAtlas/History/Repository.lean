import CodeAtlas.History.LineCounts
import CodeAtlas.History.Renames
import CodeAtlas.History.Summary

/-! # Repositories

A directory that holds objects, references and a head. The changes of a commit are those between
the tree of its first parent and its own. -/
namespace CodeAtlas.History

/-- The directory of a repository. -/
structure Repository where
  directory : FileTree

/-- What the head of a repository says. -/
inductive Head where
  | branch (reference : String)
  | detached (commit : ObjectName)
  deriving DecidableEq, Repr

def isObjectName (cs : List Char) : Bool := cs.length == 40 && cs.all (Digest.hexValue? · |>.isSome)

def Head.read? (text : String) : Option Head :=
  let line := Text.trim text.toList
  match Text.afterStart? "ref:".toList line with
  | some name => some (.branch (String.ofList (Text.trim name)))
  | none => if isObjectName line then some (.detached (String.ofList line)) else none

namespace Repository

def file? (r : Repository) (place : List String) : Option ByteArray :=
  match r.directory.at? (place.map Text.toBytes) with
  | some (.file content) => some content
  | _ => none

def head? (r : Repository) : Option Head :=
  (r.file? ["HEAD"]).bind fun b => Head.read? (Text.ofBytes b.toList)

/-- Whether a directory is the directory of a repository. -/
def isRepository (directory : FileTree) : Bool :=
  let has (name : String) : Bool := (directory.child? (Text.toBytes name)) matches some (.directory _)
  has "objects" && has "refs" && (Repository.head? ⟨directory⟩).isSome

/-- The nearest repository that holds a place: its directory is the place itself or `.git` in
it. -/
def discover (root : FileTree) (place : List FileName) : Option Repository :=
  let candidates : List FileTree :=
    (List.range (place.length + 1)).reverse.flatMap fun n =>
      [place.take n, place.take n ++ [Text.toBytes ".git"]].filterMap root.at?
  (candidates.find? isRepository).map Repository.mk

def objectPlace (name : ObjectName) : List String :=
  ["objects", String.ofList (name.toList.take 2), String.ofList (name.toList.drop 2)]

def object? (r : Repository) (name : ObjectName) : Option Object :=
  (r.file? (objectPlace name)).bind Object.read?

def commit? (r : Repository) (name : ObjectName) : Option CommitObject :=
  match r.object? name with
  | some (.commit c) => some c
  | _ => none

def entries? (r : Repository) (name : ObjectName) : Option (List TreeEntry) :=
  match r.object? name with
  | some (.tree entries) => some entries
  | _ => none

def blob? (r : Repository) (name : ObjectName) : Option ByteArray :=
  match r.object? name with
  | some (.blob content) => some content
  | _ => none

/-- Follow references to a commit, at most `fuel` of them. -/
def target? (r : Repository) : (fuel : Nat) → Head → Option ObjectName
  | _, .detached name => some name
  | 0, .branch _ => none
  | fuel + 1, .branch reference =>
      ((r.file? ((Text.cut '/' reference.toList).map String.ofList)).bind fun b =>
        Head.read? (Text.ofBytes b.toList)).bind (r.target? fuel)

def tip? (r : Repository) : Option ObjectName :=
  r.head?.bind (r.target? 5)

/-! ## Trees -/

def nestingLimit : Nat := 4096

def filesBelow (r : Repository) : (depth : Nat) → (above : List UInt8) → List TreeEntry →
    Option (List Side)
  | 0, _, _ => none
  | depth + 1, above, entries => do
      let lists ← entries.mapM fun e =>
        if e.mode = .directory then do
          r.filesBelow depth (above ++ e.name ++ [FileTree.slash]) (← r.entries? e.object)
        else some [⟨above ++ e.name, e.mode, e.object⟩]
      return lists.flatten

/-- The changed paths between two trees. Equal directories are not looked into. -/
def changedPaths (r : Repository) : (depth : Nat) → (above : List UInt8) →
    (old new : List TreeEntry) → Option (List PathChange)
  | 0, _, _, _ => none
  | depth + 1, above, old, new => do
      let side (e : TreeEntry) : Option (List Side) := r.filesBelow (depth + 1) above [e]
      let gone (e : TreeEntry) : Option (List PathChange) :=
        (side e).map fun files => files.map fun s => ⟨some s, none⟩
      let added (e : TreeEntry) : Option (List PathChange) :=
        (side e).map fun files => files.map fun s => ⟨none, some s⟩
      let kept ← old.mapM fun e =>
        match new.find? (·.name = e.name) with
        | none => gone e
        | some e' =>
            if e = e' then some []
            else if e.mode = .directory ∧ e'.mode = .directory then do
              r.changedPaths depth (above ++ e.name ++ [FileTree.slash]) (← r.entries? e.object)
                (← r.entries? e'.object)
            else if e.mode ≠ .directory ∧ e'.mode ≠ .directory then
              some [⟨some ⟨above ++ e.name, e.mode, e.object⟩,
                some ⟨above ++ e'.name, e'.mode, e'.object⟩⟩]
            else do return (← gone e) ++ (← added e')
      let fresh ← (new.filter fun e => !old.any (·.name = e.name)).mapM added
      return kept.flatten ++ fresh.flatten

end Repository

/-! ## Changes -/

def PathChange.path (c : PathChange) : List UInt8 := ((c.new <|> c.old).map (·.path)).getD []

def PathChange.status (c : PathChange) : Char :=
  match c.old, c.new with
  | none, _ => 'A'
  | _, none => 'D'
  | some old, some new =>
      if old.mode.isRegular ≠ new.mode.isRegular then 'T'
      else if old.path ≠ new.path then 'R'
      else 'M'

/-- The mode of one side and the beginning of its object's name. -/
def sideTexts : Option Side → String × String
  | none => ("000000", "0000000")
  | some s => (s.mode.text, String.ofList (s.object.toList.take 7))

/-- The contents of one side: empty if there is nothing. -/
def Repository.content? (r : Repository) : Option Side → Option ByteArray
  | none => some .empty
  | some s => r.blob? s.object

/-- Equal contents have no counts worth telling, binary ones none at all. -/
def countsOf (same : Bool) (old new : ByteArray) : Option (Nat × Nat) :=
  if isBinary old || isBinary new then none
  else if same then some (0, 0)
  else some (lineCounts old.toList new.toList)

def Repository.summaryEntry? (r : Repository) (c : PathChange) : Option DiffEntry := do
  let old ← r.content? c.old
  let new ← r.content? c.new
  let same := c.old.map (·.object) = c.new.map (·.object)
  return {
    oldMode := (sideTexts c.old).1
    newMode := (sideTexts c.new).1
    oldObject := (sideTexts c.old).2
    newObject := (sideTexts c.new).2
    status := c.status
    score := if c.status = 'R' then
        some ((if same then fullScore else similarity renameScore old new) * 100 / fullScore)
      else none
    oldPath := if c.status = 'R' then c.old.map (·.path) else none
    path := c.path
    counts := countsOf same old new }

def Repository.score (r : Repository) : Comparison := fun lowest old new =>
  if old.mode.isRegular && new.mode.isRegular then
    match r.blob? old.object, r.blob? new.object with
    | some a, some b => similarity lowest a b
    | _, _ => 0
  else 0

/-- The summary of the changes between two commits, if all objects for it are there. -/
def Repository.summary? (r : Repository) (parent child : ObjectName) : Option (List DiffEntry) := do
  let old ← r.entries? (← r.commit? parent).tree
  let new ← r.entries? (← r.commit? child).tree
  let changes ← r.changedPaths Repository.nestingLimit [] old new
  let sorted := changes.mergeSort fun a b => !FileTree.nameBefore b.path a.path
  let _ ← sorted.mapM r.summaryEntry?
  (withRenames r.score sorted).mapM r.summaryEntry?

/-- The summary of the changes between two commits as it is printed. -/
def Repository.diff (r : Repository) (parent child : ObjectName) : Option (List UInt8) :=
  (r.summary? parent child).map fun entries => Text.toBytes (String.ofList (renderSummary entries))

end CodeAtlas.History
