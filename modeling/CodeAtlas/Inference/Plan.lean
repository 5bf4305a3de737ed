import CodeAtlas.Inference.Services
import CodeAtlas.Store.Records
import CodeAtlas.Text.Lines

/-! # What is embedded

Files and symbols of some length and recent commits, each with the text that its vector is made
from and an excerpt that is kept. -/
namespace CodeAtlas.Inference

/-- A text that waits for its vector. -/
structure Job where
  entityKind : EntityKind
  entityId : String
  entityName : String
  text : String
  content : String
  contentKind : ContentKind
  metadata : Json
  deriving Inhabited

/-- Files must be longer than this, in characters. -/
def fileMinimum : Nat := 50
def fileExcerpt : Nat := 2000
/-- Code must be longer than this, in characters. -/
def symbolMinimum : Nat := 20
def symbolExcerpt : Nat := 1000
def commitExcerpt : Nat := 500

def fileJob? (f : StoredFile) : Option Job :=
  if f.file.content.length ≤ fileMinimum then none
  else some {
    entityKind := .file
    entityId := Number.intText f.id
    entityName := f.file.path
    text := f.file.content
    content := Text.firstChars fileExcerpt f.file.content
    contentKind := .code
    metadata := .object [("path", .string f.file.path), ("language", .string f.file.language.name),
      ("line_count", .nat f.file.lineCount)] }

def symbolJob? (s : StoredSymbol) : Option Job :=
  if s.symbol.code.length ≤ symbolMinimum then none
  else
    let text := "Function " ++ s.symbol.name ++ ": " ++ s.symbol.code
    some {
      entityKind := .function
      entityId := Number.intText s.id
      entityName := s.symbol.name
      text := text
      content := Text.firstChars symbolExcerpt text
      contentKind := .code
      metadata := .object [("file_path", .string s.filePath),
        ("kind", .string s.symbol.kind.name), ("start_line", .nat s.symbol.startLine),
        ("end_line", .nat s.symbol.endLine)] }

def commitJob (c : StoredCommit) : Job :=
  let changed :=
    if c.commit.filesChanged.isEmpty then "none"
    else ", ".intercalate (c.commit.filesChanged.map (·.filename))
  let text := "Commit: " ++ c.commit.message ++ ". Changed files: " ++ changed
  { entityKind := .commit
    entityId := c.commit.hash
    entityName := c.commit.shortHash
    text := text
    content := Text.firstChars commitExcerpt text
    contentKind := .commitMessage
    metadata := .object [("hash", .string c.commit.hash),
      ("message", .string
        (String.ofList ((Text.terminatedLines c.commit.message.toList).head?.getD []))),
      ("timestamp", .int c.commit.timestamp)] }

/-- The texts to embed: files, then symbols, then commits. -/
def planJobs (files : List StoredFile) (symbols : List StoredSymbol)
    (commits : List StoredCommit) : List Job :=
  files.filterMap fileJob? ++ symbols.filterMap symbolJob? ++ commits.map commitJob

def Job.embed (services : Services) (j : Job) : Embedding :=
  ⟨j.entityKind, j.entityId, j.entityName, j.content, j.contentKind, services.embed j.text,
    j.metadata⟩

/-- The vectors of all texts, in order. -/
def embedAll (services : Services) (jobs : List Job) : List Embedding :=
  jobs.map (Job.embed services)

end CodeAtlas.Inference
