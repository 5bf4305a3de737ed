import CodeAtlas.Console
import CodeAtlas.History.Log
import CodeAtlas.Outline.Script.Parser
import Std.Time.DateTime.Timestamp

/-! # The program

Reads what a call needs of the file system, carries the call out, and writes the files of the home
that it has made. No service on another machine is reached from here. -/
namespace CodeAtlas.Shell

/-- Put what is in a directory of the file system into a tree. What cannot be read is left out. -/
partial def loadDirectory (tree : FileTree) (path : String) : IO FileTree := do
  let mut tree := tree.makeDirectory (FileTree.locate tree [] (FileTree.pieces (Text.toBytes path)))
  for entry in ← (← IO.FS.realPath path).readDir do
    let inner := Disk.join path entry.fileName
    let place := (FileTree.pieces (Text.toBytes inner)).filter (!FileTree.isDot ·)
    try
      match (← entry.path.symlinkMetadata).type with
      | .dir => tree ← loadDirectory tree inner
      | .file => tree := tree.put place (.file (← IO.FS.readBinFile inner))
      | .symlink =>
          tree := tree.put place (.link (Text.toBytes (← IO.FS.realPath inner).toString))
      | .other => pure ()
    catch _ => pure ()
  return tree

/-- Put what is on the way of a path into a tree, links too, and give where the path leads. -/
def loadWay (tree : FileTree) (current path : String) : IO (FileTree × String) := do
  let mut tree := tree
  let mut above := if Disk.isAbsolute path then "/" else current
  for name in (path.splitOn "/").filter fun name => name != "" && name != "." do
    if name == ".." then
      above := "/" ++ "/".intercalate ((above.splitOn "/").filter (· != "")).dropLast
    else
      let next := Disk.join above name
      let place := (FileTree.pieces (Text.toBytes next)).filter (!FileTree.isDot ·)
      try
        match (← (← IO.FS.realPath above).readDir).find? (·.fileName == name) with
        | none => return (tree, next)
        | some entry =>
            match (← entry.path.symlinkMetadata).type with
            | .dir =>
                tree := tree.makeDirectory place
                above := next
            | .symlink =>
                above := (← IO.FS.realPath next).toString
                tree := tree.put place (.link (Text.toBytes above))
            | _ =>
                tree := tree.put place (.file (← IO.FS.readBinFile next))
                above := next
      catch _ => return (tree, next)
  return (tree, above)

def loadPath (tree : FileTree) (current path : String) : IO FileTree := do
  let (tree, above) ← loadWay tree current path
  try loadDirectory tree above catch _ => return tree

/-- Put the repositories into a tree that are beside the directories above a path. -/
def loadRepositories (tree : FileTree) (current path : String) : IO FileTree := do
  let start := (← IO.FS.realPath (Disk.join current path)).toString
  let names := (start.splitOn "/").filter (· != "")
  let mut tree := tree
  for n in List.range names.length do
    let above := "/" ++ "/".intercalate (names.take n)
    tree ← loadPath tree "/" (Disk.join above ".git")
  return tree

/-- Scripts are read by the grammar that is at hand; many scores without an order are not sorted. -/
def libraries : Libraries :=
  { Libraries.absent with parse := fun casts source => some (Outline.Script.parse casts source) }

def rootOf : Command → String
  | .analyze root _ _ => root
  | .ask root _ _ => root
  | .history root _ => root
  | .status root => root

/-- The variables of the environment that the settings of a home name. -/
def loadVariables (disk : Disk) (home : String) : IO (String → Option String) := do
  let names := match (Home.prepareSettings disk home).1 with
    | .ok settings => [settings.embedding.keyVariable, settings.completion.keyVariable]
    | .error _ => []
  let mut found : List (String × String) := []
  for name in names do
    if let some value ← IO.getEnv name then found := (name, value) :: found
  return fun name => found.lookup name

def saveFile (disk : Disk) (home path : String) : IO Unit := do
  if let .ok content := disk.read path then
    IO.FS.createDirAll home
    IO.FS.writeBinFile path content

def carryOut (line : CommandLine) (words : List String) : IO Outcome := do
  let current := (← IO.currentDir).toString
  let (tree, _) ← loadWay (.directory []) "/" current
  let currentPlace := (FileTree.pieces (Text.toBytes current)).filter (!FileTree.isDot ·)
  let home := Console.homeOf (.load tree currentPlace) line
  let tree ← loadPath tree current (rootOf line.command)
  let tree ← try loadRepositories tree current (rootOf line.command) catch _ => pure tree
  let (tree, _) ← loadWay tree current (Home.settingsPath home)
  let (tree, _) ← loadWay tree current (Home.storePath home)
  let disk := Disk.load tree currentPlace
  let started := (← Std.Time.Timestamp.now).toMillisecondsSinceUnixEpoch.val
  let (outcome, after) := Console.call
    ⟨fun _ => none, ← loadVariables disk home, fun n => started + n, libraries⟩ disk words
  saveFile after home (Home.settingsPath home)
  saveFile after home (Home.storePath home)
  return outcome

end CodeAtlas.Shell

open CodeAtlas in
def main (words : List String) : IO UInt32 := do
  let outcome ← match CommandLine.read (Console.wordsOf words) with
    | .error e => pure (.refused e)
    | .ok line => Shell.carryOut line words
  match outcome with
  | .answered document => IO.println document.renderOpen
  | .failed causes => IO.eprintln (Outcome.report causes)
  | .brokeOff reason => IO.eprintln reason
  | .refused e => if outcome.code = 0 then IO.println e.message else IO.eprintln e.message
  return outcome.code
