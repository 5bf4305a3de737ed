import CodeAtlas.Proofs.Attained
import CodeAtlas.Proofs.Outcome
import CodeAtlas.Proofs.Places

/-! # Naming directories

The subject that a path gets is the one that has the path of its directory. So two directories get
the same subject just if their places have the same parts, and a run over a subject goes through the
directory whose place has its parts. -/
namespace CodeAtlas

open Analysis (HasRoot Regular)

/-! ## Registered subjects -/

namespace Store

variable {s s' : Store} {now : Int} {name rootPath : String} {subject : Subject}

end Store

/-! ## Roots that last -/

/-- Calls are made one after the other, each of which may be cut off. -/
inductive Calls (w : World) : World → Prop
  | none : Calls w ⟨w.store, w.time, []⟩
  | next {v u : World} {call : Call} {p : Program Bool} (before : Calls w v)
      (steps : call.program.Steps v p u) : Calls w ⟨u.store, u.time, []⟩

namespace Analysis.HasRoot

variable {a b : Int} {root root' : String} {s s' : Store} {w v : World}

lemma sameFor (h : HasRoot a root s) (same : s.SameFor a s') : HasRoot a root s' := by
  obtain ⟨row, found, hroot⟩ := h
  exact ⟨row, same.subject.trans found, hroot⟩

lemma spared (h : HasRoot a root w.store) (spared : Spares w v) : HasRoot a root v.store := by
  obtain ⟨row, found, hroot⟩ := h
  have known : w.store.subjects.contains a = true := by simp [Store.Table.contains, found]
  exact ⟨row, (spared.known a known).trans found, hroot⟩

lemma call (h : HasRoot a root w.store) (start : Regular w) (fresh : w.trace = []) {call : Call}
    {p : Program Bool} (steps : call.program.Steps w p v) : HasRoot a root v.store := by
  cases call with
  | resolve => exact h.spared (always_of_steps steps (subjectAt_spares start.sound))
  | ask => exact h.spared (always_of_steps steps (Retrieval.talks_converse.spares start.sound))
  | analyze disk services b options =>
    by_cases same : b = a
    · subst same
      exact always_of_steps steps (run_keeps_root fresh h)
    · have others := (always_of_steps steps (run_regular start fresh)).2
      exact h.sameFor (others a (Ne.symm same))

end Analysis.HasRoot

lemma Calls.fresh {w v : World} (h : Calls w v) : v.trace = [] := by
  cases h <;> rfl

lemma Calls.regular {w v : World} (h : Calls w v) (start : Regular w) : Regular v := by
  induction h with
  | none => exact start.restart
  | next before steps ih => exact (Call.regular ih before.fresh steps).restart

lemma Program.Steps.readable_subjects {p q : Program α} {w v : World} (h : Steps p w q v)
    (start : w.store.subjects.All (Store.Readable Store.SubjectRow.record)) :
    v.store.subjects.All (Store.Readable Store.SubjectRow.record) := by
  induction h with
  | refl => exact start
  | step first _ ih =>
    cases first with
    | now later => exact ih start
    | perform later answers => exact ih (answers.readable_subjects start)
    | complete reply => exact ih start

lemma History.readable_subjects {log : List (Call × Ending)} {w : World} (h : History log w) :
    w.store.subjects.All (Store.Readable Store.SubjectRow.record) := by
  induction h with
  | start refusals => exact Store.Table.all_empty
  | returned _ steps ih => exact steps.readable_subjects ih
  | killed _ steps _ ih => exact steps.readable_subjects ih

/-! ## The subject of a path -/

namespace Session

variable {disk : Disk} {root : String} {name : Option String} {place : List FileName} {w : World}

end Session

/-! ## Runs over a directory -/

namespace Analysis

variable {disk : Disk} {path : String} {place : List FileName}
  {entries : List (FileName × FileTree)} {options : AnalysisOptions} {a : Int} {w v : World}

/-- The text files below a directory. -/
def filesBelow (options : AnalysisOptions) (entries : List (FileName × FileTree)) :
    List SourceFile :=
  Files.walkEntries ⟨options.maxDepth, options.maxFileBytes⟩ options.maxDepth "" entries

/-- All text files below the directory at a path were tried, and all commits that git gives for it.
-/
structure WentThrough (disk : Disk) (path : String) (entries : List (FileName × FileTree))
    (options : AnalysisOptions) (v : World) : Prop where
  files : v.trace.filterMap Event.triedFile? = filesBelow options entries
  commits : v.trace.filterMap Event.triedCommit? =
    History.commitsAt disk.git path options.maxCommits

/-- How a run over a directory ends: it has gone through it, or it was rejected, or an operation
has failed. -/
def Ends (disk : Disk) (path : String) (entries : List (FileName × FileTree))
    (options : AnalysisOptions) (s : Store) (a : Int) :
    Except AnalysisError SubjectStats → World → Prop
  | .ok _, v => WentThrough disk path entries options v
  | .error _, v => Rejected s a options.force v ∨ Blamed v

/-- Only some commits and files are written. -/
def Within (commits : List Commit) (files : List SourceFile) : Store.Operation → Prop
  | .writeCommit _ c => c ∈ commits
  | .writeFile _ f .. => f ∈ files
  | _ => True

end Analysis

namespace Session

open Analysis FileTree

section Example

end Example

end Session

end CodeAtlas
