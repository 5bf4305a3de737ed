import CodeAtlas.Store.Basic

/-! # Subjects in the store

A subject is found by its root, which no two subjects share. -/
namespace CodeAtlas.Store

def SubjectRow.record (id : Int) (r : SubjectRow) : Except StoreError Subject := do
  let progress ← r.progress.sizeAt 4 "progress"
  let status ← r.status.getAt subjectStatus 3
  let totalCommits ← r.totalCommits.sizeAt 6 "total_commits"
  let totalFiles ← r.totalFiles.sizeAt 7 "total_files"
  let totalFunctions ← r.totalFunctions.sizeAt 8 "total_functions"
  let totalDependencies ← r.totalDependencies.sizeAt 9 "total_dependencies"
  let languages ← r.languages.getAt strings 10
  let lastAnalyzedAt ← r.lastAnalyzedAt.mapM (·.getAt 11 "last_analyzed_at")
  let isDeleted ← r.isDeleted.getAt 12 "is_deleted"
  let createdAt ← r.createdAt.getAt 13 "created_at"
  return {
    id := id
    name := r.name
    rootPath := r.rootPath
    status := status
    progress := min progress 100
    statusMessage := r.statusMessage
    stats := ⟨totalCommits, totalFiles, totalFunctions, totalDependencies, languages⟩
    lastAnalyzedAt := lastAnalyzedAt
    isDeleted := isDeleted
    createdAt := createdAt }

def SubjectRow.new (name rootPath : String) (now : Int) : SubjectRow where
  name := name
  rootPath := rootPath
  status := subjectStatus.write .pending
  progress := .value 0
  statusMessage := none
  totalCommits := .value 0
  totalFiles := .value 0
  totalFunctions := .value 0
  totalDependencies := .value 0
  languages := strings.write []
  lastAnalyzedAt := none
  isDeleted := .value false
  createdAt := .value now
  updatedAt := .value now

def getSubject (s : Store) (id : Int) : Except StoreError (Option Subject) :=
  match s.subjects.find? id with
  | none => .ok none
  | some row => (row.record id).map some

def findSubject (s : Store) (rootPath : String) : Except StoreError (Option Subject) :=
  match s.subjects.findWhere fun r => r.rootPath = rootPath && r.isDeleted.holds false with
  | none => .ok none
  | some (id, row) => (row.record id).map some

/-- Give a root a name. A root that is known keeps its number and is no longer deleted. -/
def writeSubject (s : Store) (now : Int) (name rootPath : String) :
    Except StoreError (Int × Store) := do
  let row := SubjectRow.new name rootPath now
  s.allow .insert .subjects SubjectRow.columns row
  match s.subjects.findWhere (·.rootPath = rootPath) with
  | some (id, old) =>
      let row := { old with name := name, isDeleted := .value false, updatedAt := .value now }
      s.allow .update .subjects SubjectRow.columns row
      return (id, { s with subjects := (s.subjects.set id row).skipId })
  | none => return (s.subjects.nextId, { s with subjects := s.subjects.add row })

/-- Set the status of a subject, and its progress and message if they are given. -/
def updateStatus (s : Store) (now : Int) (id : Int) (status : SubjectStatus)
    (progress : Option Nat) (message : Option String) : Except StoreError Store := do
  match s.subjects.find? id with
  | none => throw (.notFound "subject" id)
  | some old =>
      let row := { old with
        status := subjectStatus.write status
        progress := (progress.map fun n => .value (Int.ofNat n)).getD old.progress
        statusMessage := message <|> old.statusMessage
        updatedAt := .value now }
      s.allow .update .subjects SubjectRow.columns row
      return { s with subjects := s.subjects.set id row }

/-- Save the counts of an analysis and when it was made. Of a subject that is not there nothing is
saved. -/
def saveStats (s : Store) (id : Int) (stats : SubjectStats) (analyzedAt : Int) :
    Except StoreError Store := do
  match s.subjects.find? id with
  | none => return s
  | some old =>
      let row := { old with
        totalCommits := .value (columnInt stats.totalCommits)
        totalFiles := .value (columnInt stats.totalFiles)
        totalFunctions := .value (columnInt stats.totalFunctions)
        totalDependencies := .value (columnInt stats.totalDependencies)
        languages := strings.write stats.languages
        lastAnalyzedAt := some (.value analyzedAt)
        updatedAt := .value analyzedAt }
      s.allow .update .subjects SubjectRow.columns row
      return { s with subjects := s.subjects.set id row }

/-- Texts in order, each once. -/
def distinctTexts (texts : List String) : List String := (sorted textLe texts).eraseDups

def calculateStats (s : Store) (id : Int) : SubjectStats :=
  let files := s.files.filter fun r => r.subjectId = id && r.isDeleted.holds false
  { totalCommits := columnSize (s.commits.filter (·.subjectId = id)).length
    totalFiles := columnSize files.length
    totalFunctions := columnSize (s.symbols.filter (·.subjectId = id)).length
    totalDependencies := columnSize (s.edges.filter (·.subjectId = id)).length
    languages := distinctTexts
      ((files.map fun e => e.2.language.text).filter (· ≠ Language.unknown.name)) }

end CodeAtlas.Store
