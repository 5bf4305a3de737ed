import CodeAtlas.Digest.Blake3
import CodeAtlas.Store.Subjects

/-! # Commits, files and symbols in the store

A commit is found by its hash, a file by its path, both within a subject, and a symbol by its file,
its name and its first line. Writing one that is known changes it and keeps its number. -/
namespace CodeAtlas.Store

/-! ## Commits -/

def CommitRow.record (id : Int) (r : CommitRow) : Except StoreError StoredCommit := do
  let filesChanged ← r.filesChanged.getAt changes 8
  let timestamp ← r.timestamp.getAt 6 "timestamp"
  let totalAdditions ← r.totalAdditions.word32At 9 "total_additions"
  let totalDeletions ← r.totalDeletions.word32At 10 "total_deletions"
  let filesChangedCount ← r.filesChangedCount.word32At 11 "files_changed_count"
  let parentHashes ← r.parentHashes.getAt strings 12
  return {
    id := id
    subjectId := r.subjectId
    commit := {
      hash := r.hash
      shortHash := r.shortHash
      authorName := r.authorName
      authorEmail := r.authorEmail
      timestamp := timestamp
      message := r.message
      filesChanged := filesChanged
      totalAdditions := totalAdditions
      totalDeletions := totalDeletions
      filesChangedCount := filesChangedCount
      parentHashes := parentHashes } }

def CommitRow.new (subject : Int) (c : Commit) : CommitRow where
  subjectId := subject
  hash := c.hash
  shortHash := c.shortHash
  authorName := c.authorName
  authorEmail := c.authorEmail
  timestamp := .value c.timestamp
  message := c.message
  filesChanged := changes.write c.filesChanged
  totalAdditions := .value c.totalAdditions
  totalDeletions := .value c.totalDeletions
  filesChangedCount := .value c.filesChangedCount
  parentHashes := strings.write c.parentHashes

def writeCommit (s : Store) (subject : Int) (c : Commit) : Except StoreError (Int × Store) := do
  let row := CommitRow.new subject c
  s.allow .insert .commits CommitRow.columns row
  match s.commits.findWhere fun r => r.subjectId = subject && r.hash = c.hash with
  | some (id, _) =>
      s.allow .update .commits CommitRow.columns row
      return (id, { s with commits := (s.commits.set id row).skipId })
  | none =>
      belongs (s.subjects.contains subject)
      return (s.commits.nextId, { s with commits := s.commits.add row })

/-- Commits, the latest first, and of those at one time the first written first. -/
def newestFirst (rows : List (Int × CommitRow)) : List (Int × CommitRow) :=
  orderedBy (fun a b => b.le a) CommitRow.timestamp rows

def listCommits (s : Store) (subject : Int) (limit : Nat) :
    Except StoreError (List StoredCommit) :=
  (limited limit (newestFirst (s.commits.filter (·.subjectId = subject)))).mapM fun e =>
    e.2.record e.1

def searchCommits (s : Store) (subject : Int) (words : List String) (limit : Nat) :
    Except StoreError (List StoredCommit) :=
  let rows := s.commits.filter fun r => r.subjectId = subject && mentions words r.message
  (limited limit (newestFirst rows)).mapM fun e => e.2.record e.1

/-! ## Files -/

def FileRow.record (id : Int) (r : FileRow) : Except StoreError StoredFile := do
  let size ← r.size.sizeAt 7 "size"
  let lineCount ← r.lineCount.sizeAt 8 "line_count"
  let imports ← r.imports.getAt strings 9
  let exports ← r.exports.getAt strings 10
  let isDeleted ← r.isDeleted.getAt 12 "is_deleted"
  return {
    id := id
    subjectId := r.subjectId
    file := {
      path := r.path
      filename := r.filename
      extension := r.extension
      language := (r.language.get Store.language).toOption.getD .unknown
      content := r.content
      size := size
      lineCount := lineCount }
    imports := imports
    exports := exports
    contentHash := r.contentHash
    isDeleted := isDeleted }

def FileRow.new (subject : Int) (f : SourceFile) (imports exports : List String) (seenAt : Int) :
    FileRow where
  subjectId := subject
  path := f.path
  filename := f.filename
  extension := f.extension
  language := Store.language.write f.language
  content := f.content
  size := .value (columnInt f.size)
  lineCount := .value (columnInt f.lineCount)
  imports := strings.write imports
  exports := strings.write exports
  contentHash := Digest.Blake3.hashText f.content.toUTF8
  isDeleted := .value false
  lastSeenAt := .value seenAt

/-- Write a file that was seen at a time. It is no longer deleted. -/
def writeFile (s : Store) (subject : Int) (f : SourceFile) (imports exports : List String)
    (seenAt : Int) : Except StoreError (Int × Store) := do
  let row := FileRow.new subject f imports exports seenAt
  s.allow .insert .files FileRow.columns row
  match s.files.findWhere fun r => r.subjectId = subject && r.path = f.path with
  | some (id, _) =>
      s.allow .update .files FileRow.columns row
      return (id, { s with files := (s.files.set id row).skipId })
  | none =>
      belongs (s.subjects.contains subject)
      return (s.files.nextId, { s with files := s.files.add row })

/-- Whether a file is there but was not seen at a time. -/
def FileRow.isUnseen (subject seenAt : Int) (r : FileRow) : Bool :=
  r.subjectId = subject && r.isDeleted.holds false && !r.lastSeenAt.holds seenAt

/-- Mark the files as deleted that were not seen at a time, and count them. -/
def markUnseen (s : Store) (subject seenAt : Int) : Except StoreError (Nat × Store) := do
  let unseen := s.files.filter (·.isUnseen subject seenAt)
  unseen.forM fun e => s.allow .update .files FileRow.columns { e.2 with isDeleted := .value true }
  return (unseen.length,
    { s with files := s.files.update (·.isUnseen subject seenAt) fun r =>
        { r with isDeleted := .value true } })

def byPath (rows : List (Int × FileRow)) : List (Int × FileRow) :=
  orderedBy textLe FileRow.path rows

def listFiles (s : Store) (subject : Int) : Except StoreError (List StoredFile) :=
  (byPath (s.files.filter fun r => r.subjectId = subject && r.isDeleted.holds false)).mapM fun e =>
    e.2.record e.1

/-- Files with one of some words in their path or one of others in their content. -/
def searchFiles (s : Store) (subject : Int) (pathWords contentWords : List String) (limit : Nat) :
    Except StoreError (List StoredFile) :=
  let rows := s.files.filter fun r => r.subjectId = subject && r.isDeleted.holds false &&
    (mentions pathWords r.path || mentions contentWords r.content)
  (limited limit (byPath rows)).mapM fun e => e.2.record e.1

/-! ## Symbols -/

def SymbolRow.record (id : Int) (filePath : String) (r : SymbolRow) :
    Except StoreError StoredSymbol := do
  let kind ← r.kind.getAt symbolKind 5
  let startLine ← r.startLine.sizeAt 6 "start_line"
  let endLine ← r.endLine.sizeAt 7 "end_line"
  let parameters ← r.parameters.getAt Store.parameters 8
  let isExported ← r.isExported.getAt 10 "is_exported"
  let isAsync ← r.isAsync.getAt 11 "is_async"
  let complexity ← r.complexity.word32At 12 "complexity"
  let calls ← r.calls.getAt strings 13
  return {
    id := id
    subjectId := r.subjectId
    fileId := r.fileId
    filePath := filePath
    symbol := {
      name := r.name
      kind := kind
      startLine := startLine
      endLine := endLine
      parameters := parameters
      returnType := r.returnType
      isExported := isExported
      isAsync := isAsync
      complexity := complexity
      calls := calls
      code := r.code } }

def SymbolRow.new (subject file : Int) (y : CodeSymbol) (seenAt : Int) : SymbolRow where
  subjectId := subject
  fileId := file
  name := y.name
  kind := symbolKind.write y.kind
  startLine := .value (columnInt y.startLine)
  endLine := .value (columnInt y.endLine)
  parameters := Store.parameters.write y.parameters
  returnType := y.returnType
  isExported := .value y.isExported
  isAsync := .value y.isAsync
  complexity := .value y.complexity
  calls := strings.write y.calls
  code := y.code
  lastSeenAt := .value seenAt

/-- Write a symbol that was seen at a time. A symbol that is known stays with its subject. -/
def writeSymbol (s : Store) (subject file : Int) (y : CodeSymbol) (seenAt : Int) :
    Except StoreError (Int × Store) := do
  let row := SymbolRow.new subject file y seenAt
  s.allow .insert .symbols SymbolRow.columns row
  match s.symbols.findWhere fun r =>
      r.fileId = file && r.name = row.name && r.startLine = row.startLine with
  | some (id, old) =>
      let row := { row with subjectId := old.subjectId }
      s.allow .update .symbols SymbolRow.columns row
      return (id, { s with symbols := (s.symbols.set id row).skipId })
  | none =>
      belongs (s.subjects.contains subject && s.files.contains file)
      return (s.symbols.nextId, { s with symbols := s.symbols.add row })

/-- Remove the symbols that were not seen at a time, and count them. -/
def pruneSymbols (s : Store) (subject seenAt : Int) : Nat × Store :=
  let isUnseen (r : SymbolRow) : Bool := r.subjectId = subject && !r.lastSeenAt.holds seenAt
  ((s.symbols.filter isUnseen).length, { s with symbols := s.symbols.removeWhere isUnseen })

/-- The symbols that satisfy a condition with the paths of their files, in the order of these paths
and then of their first lines. -/
def symbolRows (s : Store) (p : SymbolRow → Bool) : List (Int × String × SymbolRow) :=
  let placed := (s.symbols.filter p).filterMap fun e =>
    (s.files.find? e.2.fileId).map fun f => (e.1, f.path, e.2)
  orderedBy (fun a b => decide (a.1 < b.1) || (a.1 == b.1 && a.2.le b.2))
    (fun e => (e.1, e.2.startLine)) placed

def listSymbols (s : Store) (subject : Int) : Except StoreError (List StoredSymbol) :=
  (s.symbolRows (·.subjectId = subject)).mapM fun e => e.2.2.record e.1 e.2.1

/-- Symbols with one of some words in their name or one of others in their code. -/
def searchSymbols (s : Store) (subject : Int) (nameWords codeWords : List String) (limit : Nat) :
    Except StoreError (List StoredSymbol) :=
  let rows := s.symbolRows fun r => r.subjectId = subject &&
    (mentions nameWords r.name || mentions codeWords r.code)
  (limited limit rows).mapM fun e => e.2.2.record e.1 e.2.1

end CodeAtlas.Store
