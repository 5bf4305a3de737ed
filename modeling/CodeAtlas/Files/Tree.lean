import CodeAtlas.Text.Lines
import CodeAtlas.Text.Utf8

/-! # File trees

A directory holds files, links and directories under names. Names are byte strings without a slash,
and the entries of a directory are kept in the order of their bytes. A path is followed name by
name, through links, to the place that it means. -/
namespace CodeAtlas

abbrev FileName := List UInt8

inductive FileTree where
  | file (content : ByteArray)
  | link (target : List UInt8)
  | directory (entries : List (FileName × FileTree))

namespace FileTree

def slash : UInt8 := 47

def pieces (path : List UInt8) : List FileName := Text.cut slash path

def isDot (name : FileName) : Bool := name == [] || name == [46]

def isDotDot (name : FileName) : Bool := name == [46, 46]

/-! ## Entries -/

/-- Whether a name comes before another in the order of their bytes. -/
def nameBefore : FileName → FileName → Bool
  | [], [] => false
  | [], _ :: _ => true
  | _ :: _, [] => false
  | a :: as, b :: bs => a < b || (a == b && nameBefore as bs)

/-- Put an entry in its place, instead of one of the same name. -/
def setEntry (name : FileName) (t : FileTree) :
    List (FileName × FileTree) → List (FileName × FileTree)
  | [] => [(name, t)]
  | (other, u) :: rest =>
      if name = other then (name, t) :: rest
      else if nameBefore name other then (name, t) :: (other, u) :: rest
      else (other, u) :: setEntry name t rest

def child? (name : FileName) : FileTree → Option FileTree
  | directory entries => entries.lookup name
  | _ => none

/-- What is at a place: the names from the root down to it. -/
def at? (t : FileTree) : (place : List FileName) → Option FileTree
  | [] => some t
  | name :: rest => (t.child? name).bind fun c => c.at? rest

/-- Change what is at a place. Directories on the way are made, and `none` removes. What stands in
the way and is no directory stays. -/
def alter (change : Option FileTree → Option FileTree) :
    (place : List FileName) → Option FileTree → Option FileTree
  | [], t => change t
  | name :: rest, t =>
      let entries? : Option (List (FileName × FileTree)) :=
        match t with
        | none => some []
        | some (directory entries) => some entries
        | some _ => none
      match entries? with
      | none => t
      | some entries =>
          match alter change rest (entries.lookup name) with
          | some c => some (directory (setEntry name c entries))
          | none => t.map fun _ => directory (entries.filter (·.1 ≠ name))

def put (t : FileTree) (place : List FileName) (new : FileTree) : FileTree :=
  (alter (fun _ => some new) place (some t)).getD t

def makeDirectory (t : FileTree) (place : List FileName) : FileTree :=
  (alter (fun old => some (old.getD (directory []))) place (some t)).getD t

def remove (t : FileTree) (place : List FileName) : FileTree :=
  (alter (fun _ => none) place (some t)).getD t

/-! ## Paths -/

/-- Why a path does not lead to what is wanted. -/
inductive PathError where
  | missing
  | notDirectory
  | tooManyLinks
  | taken
  | isDirectory
  deriving DecidableEq, Repr

def PathError.message : PathError → String
  | missing => "No such file or directory (os error 2)"
  | notDirectory => "Not a directory (os error 20)"
  | tooManyLinks => "Too many levels of symbolic links (os error 40)"
  | taken => "File exists (os error 17)"
  | isDirectory => "Is a directory (os error 21)"

def linkLimit : Nat := 40

/-- Follow the pieces of a path from a place, which is given from its last name to its first, up to
a link. From there another path is followed. -/
def followUntil (root : FileTree)
    (behind : (above path : List FileName) → Except PathError (List FileName)) :
    (above path : List FileName) → Except PathError (List FileName)
  | above, [] => .ok above.reverse
  | above, name :: rest =>
      match root.at? above.reverse with
      | some (directory entries) =>
          if isDot name then followUntil root behind above rest
          else if isDotDot name then followUntil root behind above.tail rest
          else
            match entries.lookup name with
            | none => .error .missing
            | some (link target) =>
                behind (if target.head? = some slash then [] else above) (pieces target ++ rest)
            | some _ => followUntil root behind (name :: above) rest
      | some _ => .error .notDirectory
      | none => .error .missing

/-- Follow a path through some links at most. -/
def follow (root : FileTree) :
    (links : Nat) → (above path : List FileName) → Except PathError (List FileName)
  | 0 => root.followUntil fun _ _ => .error .tooManyLinks
  | links + 1 => root.followUntil (root.follow links)

/-- The place that a path means, seen from the root. -/
def resolve (root : FileTree) (path : List UInt8) : Except PathError (List FileName) :=
  root.follow linkLimit [] (pieces path)

/-- The text of a place: its names behind slashes. -/
def placeText (place : List FileName) : String :=
  if place.isEmpty then "/"
  else String.join (place.map fun name => "/" ++ Text.ofBytes name)

/-- The place that the pieces of a path mean once they are made: what exists of them is followed,
the rest stands below it. -/
def locate (root : FileTree) (above : List FileName) : (path : List FileName) → List FileName
  | [] => above
  | name :: rest =>
      match root.follow linkLimit above.reverse [name] with
      | .ok place => root.locate place rest
      | .error _ => above ++ (name :: rest).filter (!isDot ·)

def find (root : FileTree) (path : List UInt8) : Except PathError FileTree := do
  match root.at? (← root.resolve path) with
  | some t => return t
  | none => throw .missing

end FileTree

end CodeAtlas
