import CodeAtlas.Files.Disk
import CodeAtlas.History.Queue
import CodeAtlas.History.Repository

/-! # Logs

What git tells of repositories whose objects stand in files of their own, not compressed: the
commits that lead to the head, the latest first. What is only behind a commit that cannot be read is
left out. -/
namespace CodeAtlas

mutual

def FileTree.byteCount : FileTree → Nat
  | .file content => content.size
  | .link target => target.length
  | .directory entries => FileTree.entriesByteCount entries

def FileTree.entriesByteCount : List (FileName × FileTree) → Nat
  | [] => 0
  | (_, t) :: rest => t.byteCount + FileTree.entriesByteCount rest

end

namespace History

/-- A commit of a repository as it is read. -/
def Repository.read (name : ObjectName) (c : CommitObject) : GitCommit where
  name := name
  author := some (c.author.name, c.author.email)
  message := c.message
  seconds := some (.ofInt c.committer.time)
  parents := c.parents

/-- The time of a commit; one that cannot be read has time 0. -/
def Repository.timeOf (r : Repository) (name : ObjectName) : Int :=
  ((r.commit? name).map (·.committer.time)).getD 0

/-- Put the parents of a commit into the queue that were not there yet. -/
def Repository.enqueue (r : Repository) (seen : List ObjectName) (queue : TimeQueue) :
    List ObjectName → List ObjectName × TimeQueue
  | [] => (seen, queue)
  | parent :: rest =>
      if seen.contains parent then r.enqueue seen queue rest
      else r.enqueue (parent :: seen) (queue.push (r.timeOf parent) parent) rest

/-- Take commits from the queue until it is empty. Every commit in the queue is named in an object,
so `fuel` need not exceed the bytes of the repository. -/
def Repository.visit (r : Repository) : (fuel : Nat) → (seen : List ObjectName) → TimeQueue →
    List (Option GitCommit)
  | 0, _, _ => []
  | fuel + 1, seen, queue =>
      match queue.pop? with
      | none => []
      | some ((_, name), queue) =>
          match r.commit? name with
          | none => none :: r.visit fuel seen queue
          | some c =>
              let (seen, queue) := r.enqueue seen queue c.parents
              some (Repository.read name c) :: r.visit fuel seen queue

def Repository.commits (r : Repository) : List (Option GitCommit) :=
  match r.tip? with
  | none => []
  | some tip =>
      if (r.commit? tip).isNone then []
      else r.visit (r.directory.byteCount + 1) [tip] (TimeQueue.push #[] (r.timeOf tip) tip)

def Repository.log (r : Repository) : GitLog := ⟨r.commits, r.diff⟩

end History

/-- A disk with what git tells of the repositories in its tree. -/
def Disk.load (tree : FileTree) (current : List FileName) : Disk :=
  let files : Disk := ⟨tree, current, fun _ => none⟩
  { files with
    git := fun path =>
      match files.resolve path with
      | .ok place => (History.Repository.discover tree place).map (·.log)
      | .error _ => none }

end CodeAtlas
