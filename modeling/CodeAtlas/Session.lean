import CodeAtlas.Analysis
import CodeAtlas.Retrieval.Conversation

/-! # Sessions

What is done with working trees by their paths. A working tree that is named for the first time
becomes a subject; paths that mean the same directory mean the same subject. -/
namespace CodeAtlas

/-- Settings and services that are used together. -/
structure Session where
  settings : Settings := {}
  services : Inference.Services

/-- Why a session cannot do what it is told. -/
inductive SessionError where
  | unresolved (root : String) (e : FileTree.PathError)
  | lookUp (e : StoreError)
  | registration (rootPath : String) (e : StoreError)
  | reload (e : StoreError)
  | analysis (e : AnalysisError)
  | question (e : Retrieval.Halt)
  deriving DecidableEq, Repr

/-- What is wrong, from the outermost cause to the innermost. -/
def SessionError.causes : SessionError → List String
  | unresolved root e => ["failed to resolve working tree " ++ root, e.message]
  | lookUp e => "failed to look up subject" :: e.causes
  | registration rootPath e => ("failed to register subject " ++ rootPath) :: e.causes
  | reload e => "failed to reload subject" :: e.causes
  | analysis e => e.causes
  | question e => e.causes

/-- A subject as an analysis left it, and what the analysis counted. -/
structure AnalysisReport where
  subject : Subject
  stats : SubjectStats
  deriving DecidableEq, Repr, Inhabited

def AnalysisReport.toJson (r : AnalysisReport) : Json :=
  .object [("subject", r.subject.toJson), ("stats", r.stats.toJson)]

namespace Session

abbrev Task := ExceptT SessionError Program

/-- Ask the store; what fails is told as `error` says. -/
def need (error : StoreError → SessionError) (o : Store.Operation) : Task o.Result := do
  match ← Program.request o with
  | .ok a => return a
  | .error e => throw (error e)

/-- The path that a subject has: that of its directory, with slashes for backslashes. -/
def rootPathOf (place : List FileName) : String := Text.slashed (FileTree.placeText place)

/-- The name of a directory, which its subject has unless another one is given. -/
def nameOf (place : List FileName) : String :=
  match place.getLast? with
  | some name => Text.ofBytes name
  | none => rootPathOf place

def subjectAt (disk : Disk) (root : String) (name : Option String) : Task Subject := do
  match disk.resolve root with
  | .error e => throw (.unresolved root e)
  | .ok place =>
      let found : Option Subject ← need .lookUp (.findSubject (rootPathOf place))
      match found with
      | some subject => return subject
      | none =>
          need (.registration (rootPathOf place))
            (.registerSubject (name.getD (nameOf place)) (rootPathOf place))

def analyze (session : Session) (disk : Disk) (root : String) (name : Option String)
    (force : Bool) : Task AnalysisReport := do
  let subject ← subjectAt disk root name
  let options := { AnalysisOptions.ofSettings session.settings with force }
  let stats ← (Analysis.run disk session.services subject.id options).adapt .analysis
  let found : Option Subject ← need .reload (.getSubject subject.id)
  return ⟨found.getD subject, stats⟩

def ask (session : Session) (disk : Disk) (root question asker : String) :
    Task Retrieval.Answered := do
  let subject ← subjectAt disk root none
  (Retrieval.converse session.services subject.id question asker).adapt .question

def history (disk : Disk) (root asker : String) : Task (List Exchange) := do
  let subject ← subjectAt disk root none
  (Retrieval.history subject.id asker).adapt .question

def status (disk : Disk) (root : String) : Task Subject := subjectAt disk root none

end Session

end CodeAtlas
