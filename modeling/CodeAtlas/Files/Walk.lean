import CodeAtlas.Files.Tree
import CodeAtlas.Records
import CodeAtlas.Text.Lines

/-! # Walking a tree

The text files below a directory: depth first, the entries of a directory in the order of their
names. Files and directories that hold no sources of their own are passed over by name, files also
for their extension, their size and for not being text. Links are not followed. -/
namespace CodeAtlas.Files

/-- Names of directories and files that are passed over. -/
def ignoredNames : List String := [
  ".git", ".svn", ".hg", ".quarry", "node_modules", "bower_components", "vendor", "dist", "build",
  "out", "target", "coverage", ".next", ".nuxt", ".cache", "__pycache__", ".venv", "venv",
  ".idea", ".vscode", ".DS_Store", "package-lock.json", "yarn.lock", "pnpm-lock.yaml",
  "Cargo.lock", "poetry.lock", "Gemfile.lock", "composer.lock"]

def ignoredEnds : List String := [".lock", ".min.js", ".min.css", ".map", ".log"]

/-- Extensions of files that hold no text, in lower case. -/
def binaryExtensions : List String := [
  "png", "jpg", "jpeg", "gif", "bmp", "ico", "webp", "tiff", "psd", "pdf", "zip", "tar", "gz",
  "tgz", "bz2", "xz", "7z", "rar", "jar", "war", "class", "exe", "dll", "so", "dylib", "o", "a",
  "lib", "bin", "dat", "db", "sqlite", "wasm", "woff", "woff2", "ttf", "otf", "eot", "mp3",
  "mp4", "wav", "ogg", "avi", "mov", "mkv", "pyc", "pyo"]

def isIgnored (name : String) : Bool :=
  ignoredNames.contains name ||
    ignoredEnds.any fun e => e.toList.isSuffixOf name.toList

/-- How far a walk goes. The root has depth 0. -/
structure WalkLimits where
  maxDepth : Nat := 10
  maxFileBytes : Nat := 1024 * 1024
  deriving DecidableEq, Repr, Inhabited

/-- The part of a name after its last dot, unless that is its only character at the beginning. -/
def nameExtension (name : String) : String :=
  match (Text.cut '.' name.toList).reverse with
  | last :: second :: before =>
      if second.isEmpty && before.isEmpty then "" else String.ofList (last.map Char.toLower)
  | _ => ""

/-- The record of a file, if it is a text that is taken in. -/
def sourceFile? (limits : WalkLimits) (path : String) (name : String) (content : ByteArray) :
    Option SourceFile :=
  let extension := nameExtension name
  if binaryExtensions.contains extension || limits.maxFileBytes < content.size then none
  else
    (String.fromUTF8? content).map fun text => {
      path := Text.slashed path
      filename := name
      extension := extension
      language := .ofExtension extension
      content := text
      size := content.size
      lineCount := Text.lineCount text }

/-- Put an entry before the first one whose name does not come before its own. -/
def insertByName (e : FileName × FileTree) :
    List (FileName × FileTree) → List (FileName × FileTree)
  | [] => [e]
  | other :: rest =>
      if FileTree.nameBefore other.1 e.1 then other :: insertByName e rest else e :: other :: rest

/-- The entries of a directory in the order of their names, in whatever order they are listed. -/
def byName (entries : List (FileName × FileTree)) : List (FileName × FileTree) :=
  entries.foldr insertByName []

/-- The text files below the entries of a directory. The path of the directory is empty or ends in
a slash. -/
def walkEntries (limits : WalkLimits) :
    (depth : Nat) → (above : String) → List (FileName × FileTree) → List SourceFile
  | 0, _, _ => []
  | depth + 1, above, entries =>
      (byName entries).flatMap fun e =>
        let name := Text.ofBytes e.1
        if isIgnored name then []
        else
          match e.2 with
          | .file content => (sourceFile? limits (above ++ name) name content).toList
          | .link _ => []
          | .directory inner => walkEntries limits depth (above ++ name ++ "/") inner

def walk (limits : WalkLimits) (root : FileTree) : Except FileTree.PathError (List SourceFile) :=
  match root with
  | .directory entries => .ok (walkEntries limits limits.maxDepth "" entries)
  | _ => .error .notDirectory

end CodeAtlas.Files
