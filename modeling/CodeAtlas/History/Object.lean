import CodeAtlas.Digest.Sha1
import CodeAtlas.Digest.Hex
import CodeAtlas.Files.Tree
import CodeAtlas.History.Git
import CodeAtlas.Number.Digits

/-! # Objects of a history

The contents of files, directories and commits are objects. An object is named by the hash of its
bytes, which begin with its kind and its size. -/
namespace CodeAtlas.History

open Number

inductive EntryMode where
  | regular
  | executable
  | link
  | directory
  deriving DecidableEq, Repr

def EntryMode.text : EntryMode → String
  | regular => "100644"
  | executable => "100755"
  | link => "120000"
  | directory => "40000"

def EntryMode.all : List EntryMode := [.regular, .executable, .link, .directory]

/-- Whether a file of this mode has contents of its own. -/
def EntryMode.isRegular : EntryMode → Bool
  | regular | executable => true
  | link | directory => false

structure TreeEntry where
  mode : EntryMode
  name : FileName
  object : ObjectName
  deriving DecidableEq, Repr

/-- Who made a commit and when, in seconds and with the offset of the zone. -/
structure Signature where
  name : List UInt8
  email : List UInt8
  time : Int
  zone : String
  deriving DecidableEq, Repr

structure CommitObject where
  tree : ObjectName
  parents : List ObjectName
  author : Signature
  committer : Signature
  message : List UInt8
  deriving DecidableEq, Repr

inductive Object where
  | blob (content : ByteArray)
  | tree (entries : List TreeEntry)
  | commit (commit : CommitObject)

/-! ## Writing -/

def TreeEntry.bytes (e : TreeEntry) : List UInt8 :=
  Text.toBytes (e.mode.text ++ " ") ++ e.name ++ 0 :: (Digest.ofHex? e.object.toList).getD []

def Signature.bytes (s : Signature) : List UInt8 :=
  s.name ++ Text.toBytes " <" ++ s.email ++
    Text.toBytes ("> " ++ intText s.time ++ " " ++ s.zone)

def CommitObject.bytes (c : CommitObject) : List UInt8 :=
  Text.toBytes ("tree " ++ c.tree ++ "\n") ++
    (c.parents.flatMap fun p => Text.toBytes ("parent " ++ p ++ "\n")) ++
    Text.toBytes "author " ++ c.author.bytes ++ Text.toBytes "\ncommitter " ++
    c.committer.bytes ++ Text.toBytes "\n\n" ++ c.message

namespace Object

def kind : Object → String
  | blob _ => "blob"
  | tree _ => "tree"
  | commit _ => "commit"

def body : Object → ByteArray
  | blob content => content
  | tree entries => ⟨(entries.flatMap TreeEntry.bytes).toArray⟩
  | commit c => ⟨c.bytes.toArray⟩

/-- An object with its head: its kind and size, ended by a zero byte. -/
def bytes (o : Object) : ByteArray :=
  (o.kind ++ " " ++ text o.body.size).toUTF8 ++ ⟨#[0]⟩ ++ o.body

def name (o : Object) : ObjectName := Digest.Sha1.hashText o.bytes

end Object

/-! ## Reading -/

def readInt? (cs : List Char) : Option Int :=
  match cs with
  | '-' :: ds => if ds.isEmpty || !ds.all isDigit then none else some (-(value ds : Int))
  | '+' :: ds => if ds.isEmpty || !ds.all isDigit then none else some (value ds)
  | ds => if ds.isEmpty || !ds.all isDigit then none else some (value ds)

/-- Read a name, an address between angle brackets, a time and a zone. -/
def Signature.read? (line : List UInt8) : Option Signature := do
  let (name, rest) ← Text.splitFirst? [60] line
  let (email, rest) ← Text.splitFirst? [62] rest
  let name := if name.getLast? = some 32 then name.dropLast else name
  match (Text.cut 32 rest).filter (!·.isEmpty) with
  | time :: zone :: _ =>
      return ⟨name, email, (readInt? (Text.decodeBytes time)).getD 0, Text.ofBytes zone⟩
  | _ => return ⟨name, email, 0, "+0000"⟩

def linesOf (word : String) (lines : List (List UInt8)) : List (List UInt8) :=
  lines.filterMap (Text.afterStart? (Text.toBytes (word ++ " ")))

/-- Read a commit: its lines up to an empty one, and the message behind that. -/
def CommitObject.read? (body : List UInt8) : Option CommitObject := do
  let (head, message) := (Text.splitFirst? [10, 10] body).getD (body, [])
  let lines := Text.cut 10 head
  let tree ← (linesOf "tree" lines).head?
  let author ← (linesOf "author" lines).head?.bind Signature.read?
  let committer ← (linesOf "committer" lines).head?.bind Signature.read?
  return ⟨Text.ofBytes tree, (linesOf "parent" lines).map Text.ofBytes, author, committer, message⟩

/-- Read the entries of a directory, at most `fuel` of them. -/
def readEntries? : (fuel : Nat) → List UInt8 → Option (List TreeEntry)
  | _, [] => some []
  | 0, _ => none
  | fuel + 1, body => do
      let (mode, rest) ← Text.splitFirst? [32] body
      let (name, rest) ← Text.splitFirst? [0] rest
      let mode ← EntryMode.all.find? fun m => m.text = Text.ofBytes mode
      if rest.length < 20 then none
      else
        let object := String.ofList (Digest.hex (rest.take 20))
        return ⟨mode, name, object⟩ :: (← readEntries? fuel (rest.drop 20))

def Object.read? (bytes : ByteArray) : Option Object := do
  let head := bytes.toList.takeWhile (· != 0)
  let body := bytes.extract (head.length + 1) bytes.size
  match String.ofList ((Text.decodeBytes head).takeWhile (· != ' ')) with
  | "blob" => return .blob body
  | "tree" => return .tree (← readEntries? body.size body.toList)
  | "commit" => return .commit (← CommitObject.read? body.toList)
  | _ => none

end CodeAtlas.History
