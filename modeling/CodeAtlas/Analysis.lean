import CodeAtlas.Files.Disk
import CodeAtlas.Files.Walk
import CodeAtlas.Graph.Edges
import CodeAtlas.Inference.Plan
import CodeAtlas.Outline.Strategy
import CodeAtlas.Program
import CodeAtlas.Settings

/-! # Analyses

An analysis brings everything that is stored of a subject up to its working tree and history: the
commits, the files, their symbols, the edges between them and the vectors. A commit, file or symbol
that cannot be stored is left out; any other failure ends the analysis and leaves the subject in
error with the progress it had. While it runs the subject is busy, and a subject that is busy is
analyzed only by force. -/
namespace CodeAtlas

open Inference (Services)

/-! ## Failures -/

/-- What an analysis asks of the store. -/
inductive AnalysisStep where
  | loadSubject
  | recordProgress (subject : Int)
  | markRemoved
  | pruneSymbols
  | listFiles
  | listSymbols
  | saveEdges
  | listCommits
  | saveEmbeddings
  | countRows
  | saveStats
  | markReady
  deriving DecidableEq, Repr

def AnalysisStep.failure : AnalysisStep → String
  | loadSubject => "failed to load subject"
  | recordProgress subject => "failed to record progress for subject " ++ Number.intText subject
  | markRemoved => "failed to mark removed files"
  | pruneSymbols => "failed to prune stale symbols"
  | listFiles => "failed to list files"
  | listSymbols => "failed to list symbols"
  | saveEdges => "failed to save dependency edges"
  | listCommits => "failed to list recent commits"
  | saveEmbeddings => "failed to save embeddings"
  | countRows => "failed to calculate statistics"
  | saveStats => "failed to save statistics"
  | markReady => "failed to mark subject ready"

/-- Why an analysis ends early. -/
inductive AnalysisError where
  | subjectNotFound (subject : Int)
  | inProgress (subject : Int) (status : SubjectStatus)
  | unreadable (root : String) (e : FileTree.PathError)
  | failed (step : AnalysisStep) (e : StoreError)
  deriving DecidableEq, Repr

/-- What is wrong, from the outermost cause to the innermost. -/
def AnalysisError.causes : AnalysisError → List String
  | subjectNotFound subject => ["subject " ++ Number.intText subject ++ " not found"]
  | inProgress subject status =>
      ["analysis already in progress for subject " ++ Number.intText subject ++
        " (status: " ++ status.name ++ ")"]
  | unreadable root e => ["failed to read working tree " ++ root, e.message]
  | failed step e => step.failure :: e.causes

def AnalysisError.message (e : AnalysisError) : String := ": ".intercalate e.causes

namespace Analysis

abbrev Task := ExceptT AnalysisError Program

/-- Ask the store for something that the analysis cannot do without. -/
def need (step : AnalysisStep) (o : Store.Operation) : Task o.Result := do
  match ← Program.request o with
  | .ok a => return a
  | .error e => throw (.failed step e)

/-- Record how far an analysis has got, which is never less far than before. Gives how far that
is. -/
def report (subject : Int) (before progress : Nat) (message : String) : Task Nat := do
  let reached := max before progress
  let _ ← need (.recordProgress subject)
    (.updateStatus subject .analyzing (some reached) (some message))
  return reached

/-! ## What may be left out -/

def saveCommits (subject : Int) : List Commit → Program Nat
  | [] => return 0
  | c :: rest => do
      let saved ← Program.request (.writeCommit subject c)
      let count ← saveCommits subject rest
      return if saved.isOk then count + 1 else count

/-- Store files with their outlines. Gives the ids of those that are stored. -/
def saveFiles (subject seenAt : Int) : List (SourceFile × Outline) → Program (List (Int × Outline))
  | [] => return []
  | (file, outline) :: rest => do
      let saved ← Program.request
        (.writeFile subject file outline.imports outline.exports seenAt)
      let ids ← saveFiles subject seenAt rest
      match saved with
      | .ok id => return (id, outline) :: ids
      | .error _ => return ids

/-- Store symbols with the ids of their files, and count those that are stored. -/
def saveSymbols (subject seenAt : Int) : List (Int × CodeSymbol) → Program Nat
  | [] => return 0
  | (file, symbol) :: rest => do
      let saved ← Program.request (.writeSymbol subject file symbol seenAt)
      let count ← saveSymbols subject seenAt rest
      return if saved.isOk then count + 1 else count

/-! ## Stages -/

/-- The history of the working tree at a path. -/
def historyAt (disk : Disk) (root : String) (limit : Nat) : List Commit :=
  History.commitsAt disk.git root limit

def filesAt (disk : Disk) (root : String) (limits : Files.WalkLimits) :
    Except AnalysisError (List SourceFile) :=
  match (disk.find root).bind (Files.walk limits) with
  | .ok files => .ok files
  | .error e => .error (.unreadable root e)

/-- What marks the rows of a run: later than the clock of the one before, whatever the clock says
now. -/
def marker (now : Int) (lastAnalyzedAt : Option Int) : Int :=
  max now (lastAnalyzedAt.getD 0 + 1)

def commitStage (disk : Disk) (root : String) (subject : Int) (options : AnalysisOptions)
    (reached : Nat) : Task Nat := do
  let reached ← report subject reached 5 "Parsing git history..."
  let count ← saveCommits subject (historyAt disk root options.maxCommits)
  report subject reached 20 ("Parsed " ++ Number.text count ++ " commits")

/-- Store the files of the working tree, and give the marker of the run and their outlines. -/
def fileStage (disk : Disk) (services : Services) (root : String) (subject : Int)
    (lastAnalyzedAt : Option Int) (options : AnalysisOptions) (reached : Nat) :
    Task (Nat × Int × List (Int × Outline)) := do
  let reached ← report subject reached 25 "Extracting files..."
  let now ← Program.time
  let seenAt := marker now lastAnalyzedAt
  let files ← filesAt disk root ⟨options.maxDepth, options.maxFileBytes⟩
  let saved ← saveFiles subject seenAt (files.map fun f => (f, .ofFile services.libraries.parse f))
  let _ ← need .markRemoved (.markUnseen subject seenAt)
  let reached ← report subject reached 40 ("Extracted " ++ Number.text saved.length ++ " files")
  return (reached, seenAt, saved)

def symbolStage (subject seenAt : Int) (saved : List (Int × Outline)) (reached : Nat) :
    Task Nat := do
  let reached ← report subject reached 45 "Extracting functions..."
  let count ← saveSymbols subject seenAt
    (saved.flatMap fun file => file.2.symbols.map fun symbol => (file.1, symbol))
  let _ ← need .pruneSymbols (.pruneSymbols subject seenAt)
  report subject reached 60 ("Extracted " ++ Number.text count ++ " functions")

/-- Store the edges between what is stored, and give that. -/
def edgeStage (subject : Int) (reached : Nat) :
    Task (Nat × List StoredFile × List StoredSymbol) := do
  let reached ← report subject reached 65 "Building dependency graph..."
  let files : List StoredFile ← need .listFiles (.listFiles subject)
  let symbols : List StoredSymbol ← need .listSymbols (.listSymbols subject)
  let edges := Graph.buildEdges files symbols
  let _ ← need .saveEdges (.replaceEdges subject edges)
  let reached ← report subject reached 75
    ("Dependency graph built with " ++ Number.text edges.length ++ " edges")
  return (reached, files, symbols)

def embeddingStage (services : Services) (subject : Int) (files : List StoredFile)
    (symbols : List StoredSymbol) (options : AnalysisOptions) (reached : Nat) : Task Nat := do
  let reached ← report subject reached 80 "Generating embeddings..."
  let commits : List StoredCommit ← need .listCommits (.listCommits subject options.commitWindow)
  let embeddings := Inference.embedAll services (Inference.planJobs files symbols commits)
  let count : Nat ← need .saveEmbeddings (.replaceEmbeddings subject embeddings)
  report subject reached 95
    ("Generated " ++ Number.text count ++ " embeddings with " ++ services.embedderName)

/-- Store the statistics, after which the subject is ready. -/
def finalStage (subject : Int) : Task SubjectStats := do
  let stats : SubjectStats ← need .countRows (.calculateStats subject)
  let now ← Program.time
  let _ ← need .saveStats (.saveStats subject stats now)
  let _ ← need .markReady (.updateStatus subject .ready (some 100) (some "Analysis complete"))
  return stats

def stages (disk : Disk) (services : Services) (subject : Subject) (options : AnalysisOptions) :
    Task SubjectStats := do
  let reached ← report subject.id 0 0 "Starting analysis..."
  let reached ← commitStage disk subject.rootPath subject.id options reached
  let (reached, seenAt, saved) ←
    fileStage disk services subject.rootPath subject.id subject.lastAnalyzedAt options reached
  let reached ← symbolStage subject.id seenAt saved reached
  let (reached, files, symbols) ← edgeStage subject.id reached
  let _ ← embeddingStage services subject.id files symbols options reached
  finalStage subject.id

/-! ## Runs -/

/-- The subject that is to be analyzed, unless it must not be now. -/
def subjectToAnalyze (subject : Int) (force : Bool) : Task Subject := do
  let found : Option Subject ← need .loadSubject (.getSubject subject)
  match found with
  | none => throw (.subjectNotFound subject)
  | some s =>
      if s.status.isBusy && !force then throw (.inProgress subject s.status)
      else return s

/-- Leave a subject in error. What the store says to that counts for nothing. -/
def recordFailure (subject : Int) (e : AnalysisError) : Program Unit := do
  let _ ← Program.request (.updateStatus subject .error none (some e.message))

def run (disk : Disk) (services : Services) (subject : Int) (options : AnalysisOptions) :
    Task SubjectStats := do
  let s ← subjectToAnalyze subject options.force
  tryCatch (stages disk services s options) fun e => do
    recordFailure subject e
    throw e

end Analysis

end CodeAtlas
