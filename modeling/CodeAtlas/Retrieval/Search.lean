import CodeAtlas.Program
import CodeAtlas.Retrieval.Keywords
import CodeAtlas.Retrieval.Merge

/-! # Searching

What the store has about a question: the texts that are most like it, the files, symbols and
commits that have its keywords in them, and the edges around those. -/
namespace CodeAtlas.Retrieval

open Inference (Services)

def vectorLimit : Nat := 10
def fileLimit : Nat := 5
def symbolLimit : Nat := 10
def commitLimit : Nat := 5
def edgeLimit : Nat := 50

/-- How many keywords are looked for in contents and code. -/
def contentWordCount : Nat := 3

def commitWordCount : Nat := 5

/-- A search ends with the first operation of the store that fails. -/
abbrev Task := ExceptT StoreError Program

def ask (o : Store.Operation) : Task o.Result := Program.request o

/-- What is found for a question beside the texts that are most like it. -/
def searchWords (subject : Int) (question : String) (vectorHits : List VectorHit) :
    Task Context := do
  let words := keywords question
  let contentWords := words.take contentWordCount
  let files : List StoredFile ← ask (.searchFiles subject words contentWords fileLimit)
  let symbols : List StoredSymbol ← ask (.searchSymbols subject words contentWords symbolLimit)
  let commits : List StoredCommit ←
    ask (.searchCommits subject (words.take commitWordCount) commitLimit)
  let edges : List StoredEdge ←
    ask (.neighborhood subject (files.map (·.id)) (symbols.map (·.id)) edgeLimit)
  return {
    keywords := words
    vectorHits := vectorHits
    files := files
    symbols := symbols
    commits := commits
    edges := edges }

/-- Everything that is found for a question about a subject. A search whose ranking breaks off is
over with it, and finds nothing. -/
def search (services : Services) (subject : Int) (question : String) : Task (Option Context) := do
  let embeddings : List StoredEmbedding ← ask (.listEmbeddings subject)
  match rankEmbeddings services.libraries (services.embed question) embeddings vectorLimit with
  | none => return none
  | some vectorHits => return some (← searchWords subject question vectorHits)

end CodeAtlas.Retrieval
