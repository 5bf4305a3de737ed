import CodeAtlas.Proofs.Bytes
import CodeAtlas.Proofs.Pieces
import CodeAtlas.Session
import Mathlib.Data.List.Basic

/-! # Places and their paths

A path leads to a place that is reached without links. The path that a subject has leads back there,
unless a backslash is in it: what is between backslashes becomes names of its own. -/
namespace CodeAtlas

namespace Text

end Text

namespace FileTree

/-! ## Places -/

/-- What an entry of a directory is called: one name, which says where to go. -/
structure IsName (name : FileName) : Prop where
  notDot : isDot name = false
  notDotDot : isDotDot name = false
  noSlash : slash ∉ name

/-- A place that is reached from directory to directory, through no link. -/
def IsPlace : FileTree → List FileName → Prop
  | _, [] => True
  | t, name :: rest => IsName name ∧ ∃ entries c, t = directory entries ∧
      entries.lookup name = some c ∧ (∀ target, c ≠ link target) ∧ c.IsPlace rest

variable {root t c : FileTree} {place rest : List FileName} {name : FileName}
  {entries : List (FileName × FileTree)}

lemma at?_append (root : FileTree) (place rest : List FileName) :
    root.at? (place ++ rest) = (root.at? place).bind fun t => t.at? rest := by
  induction place generalizing root with
  | nil => rfl
  | cons name place ih =>
    cases h : root.child? name with
    | none => simp [at?, h]
    | some c => simp [at?, h, ih]

namespace IsPlace

lemma names (h : root.IsPlace place) : ∀ name ∈ place, IsName name := by
  induction place generalizing root with
  | nil => simp
  | cons name place ih =>
    obtain ⟨isName, -, c, -, -, -, hc⟩ := h
    rintro n (_ | ⟨_, mem⟩)
    · exact isName
    · exact ih hc n mem

lemma of_append (h : root.IsPlace (place ++ rest)) : root.IsPlace place := by
  induction place generalizing root with
  | nil => trivial
  | cons name place ih =>
    obtain ⟨isName, entries, c, hroot, hc, direct, below⟩ := h
    exact ⟨isName, entries, c, hroot, hc, direct, ih below⟩

lemma concat (h : root.IsPlace place) (isName : IsName name)
    (there : root.at? place = some (directory entries)) (found : entries.lookup name = some c)
    (direct : ∀ target, c ≠ link target) : root.IsPlace (place ++ [name]) := by
  induction place generalizing root with
  | nil =>
    cases there
    exact ⟨isName, entries, c, rfl, found, direct, trivial⟩
  | cons first place ih =>
    obtain ⟨isFirst, es, d, rfl, hd, straight, below⟩ := h
    refine ⟨isFirst, es, d, rfl, hd, straight, ih below ?_⟩
    simpa [at?, child?, hd] using there

end IsPlace

lemma follow_nil {links : Nat} {above : List FileName} :
    root.follow links above [] = .ok above.reverse := by
  cases links <;> rfl

lemma follow_cons {links : Nat} {above rest : List FileName} {name : FileName} :
    root.follow links above (name :: rest) =
      match root.at? above.reverse with
      | some (directory entries) =>
          if isDot name then root.follow links above rest
          else if isDotDot name then root.follow links above.tail rest
          else
            match entries.lookup name with
            | none => .error .missing
            | some (link target) =>
                match links with
                | 0 => .error .tooManyLinks
                | links + 1 =>
                    root.follow links (if target.head? = some slash then [] else above)
                      (pieces target ++ rest)
            | some _ => root.follow links (name :: above) rest
      | some _ => .error .notDirectory
      | none => .error .missing := by
  cases links <;> rfl

/-- How one piece of a path is followed that leads to a place. -/
inductive Followed (root : FileTree) (place : List FileName)
    (entries : List (FileName × FileTree)) :
    (links : Nat) → (above : List FileName) → (name : FileName) → (rest : List FileName) → Prop
  | stay {links : Nat} {above : List FileName} {name : FileName} {rest : List FileName}
      (leads : root.follow links above rest = .ok place) :
      Followed root place entries links above name rest
  | up {links : Nat} {above : List FileName} {name : FileName} {rest : List FileName}
      (leads : root.follow links above.tail rest = .ok place) :
      Followed root place entries links above name rest
  | through {links : Nat} {above : List FileName} {name : FileName} {rest : List FileName}
      {target : List UInt8}
      (leads : root.follow links (if target.head? = some slash then [] else above)
        (pieces target ++ rest) = .ok place) :
      Followed root place entries (links + 1) above name rest
  | down {links : Nat} {above : List FileName} {name : FileName} {rest : List FileName}
      {c : FileTree} (notDot : isDot name = false) (notDotDot : isDotDot name = false)
      (found : entries.lookup name = some c) (direct : ∀ target, c ≠ link target)
      (leads : root.follow links (name :: above) rest = .ok place) :
      Followed root place entries links above name rest

lemma followed_of_eq_ok {links : Nat} {above : List FileName}
    (h : root.follow links above (name :: rest) = .ok place) : ∃ entries,
    root.at? above.reverse = some (directory entries) ∧
      Followed root place entries links above name rest := by
  rw [follow_cons] at h
  split at h
  next entries there =>
    refine ⟨entries, there, ?_⟩
    split at h
    next => exact .stay h
    next dot =>
      split at h
      next => exact .up h
      next dotDot =>
        split at h
        next => cases h
        next target found =>
          cases links with
          | zero => cases h
          | succ links => exact .through h
        next c direct found =>
          exact .down (by simpa using dot) (by simpa using dotDot) found direct h
  next => cases h
  next => cases h

/-- Wherever a path leads, no link is on the way there any more. -/
lemma isPlace_of_follow {links : Nat} {above path : List FileName}
    (h : root.follow links above path = .ok place) (start : root.IsPlace above.reverse)
    (noSlash : ∀ name ∈ path, slash ∉ name) : root.IsPlace place := by
  -- a link takes one from the links that may be met, any other piece shortens the path
  induction links using Nat.strongRecOn generalizing above path with
  | ind links outer =>
    induction path generalizing above with
    | nil =>
      rw [follow_nil] at h
      cases h
      exact start
    | cons name rest inner =>
      have rest_noSlash : ∀ n ∈ rest, slash ∉ n := fun n hn => noSlash n (List.mem_cons_of_mem _ hn)
      obtain ⟨entries, there, followed⟩ := followed_of_eq_ok h
      cases followed with
      | stay leads => exact inner leads start rest_noSlash
      | up leads =>
        refine inner leads ?_ rest_noSlash
        cases above with
        | nil => exact start
        | cons last above =>
          rw [List.reverse_cons] at start
          exact start.of_append
      | @through links _ _ _ target leads =>
        refine outer links (Nat.lt_succ_self _) leads ?_ fun n hn => ?_
        · split_ifs
          · trivial
          · exact start
        · rcases List.mem_append.1 hn with hn | hn
          · exact Text.not_mem_of_mem_cut hn
          · exact rest_noSlash n hn
      | down notDot notDotDot found direct leads =>
        have isName : IsName name := ⟨notDot, notDotDot, noSlash name List.mem_cons_self⟩
        refine inner leads ?_ rest_noSlash
        rw [List.reverse_cons]
        exact start.concat isName there found direct

/-! ## Paths of places -/

/-- A name that is the bytes of a text. -/
def IsText (name : FileName) : Prop := ∃ text, name = Text.toBytes text

def backslash : UInt8 := 92

/-- The names of a place, where what is between backslashes is a name as well. -/
def parts (place : List FileName) : List FileName := place.flatMap (Text.cut backslash)

end FileTree

namespace Session

open FileTree

variable {place place' : List FileName} {disk : Disk}

end Session

/-! ## Directories that are there -/

namespace Disk

open FileTree

variable {disk : Disk} {path root : String} {place origin : List FileName}
  {entries : List (FileName × FileTree)}

/-- A path leads to a directory. The directory that relative paths start from is a place, and what
is above the one that the path leads to has texts for names. -/
structure Opens (disk : Disk) (root : String) (place : List FileName)
    (entries : List (FileName × FileTree)) : Prop where
  grounded : disk.tree.IsPlace disk.current
  resolved : disk.resolve root = .ok place
  directory : disk.tree.at? place = some (.directory entries)
  texts : ∀ name ∈ place, IsText name

namespace Opens

lemma isPlace (h : disk.Opens root place entries) : disk.tree.IsPlace place := by
  have leads := h.resolved
  rw [resolve] at leads
  split at leads
  · cases leads
  · refine isPlace_of_follow leads ?_ fun _ => Text.not_mem_of_mem_cut
    unfold Disk.start
    split
    · trivial
    · rw [List.reverse_reverse]
      exact h.grounded

lemma names (h : disk.Opens root place entries) : ∀ name ∈ place, IsName name := h.isPlace.names

end Opens

end Disk

end CodeAtlas
