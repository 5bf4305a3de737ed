import CodeAtlas.Number.Shortest
import CodeAtlas.Retrieval.Merge
import CodeAtlas.Text.Blank

/-! # Prompts

What a completion service is asked: the excerpts with their labels, names of related files and
functions, the question, and how to reply. -/
namespace CodeAtlas.Retrieval

open Number

def joined (sep : String) : List String → String
  | [] => ""
  | [s] => s
  | s :: t :: rest => s ++ sep ++ joined sep (t :: rest)

def chunkText (number : Nat) (c : Chunk) : String :=
  "[" ++ text number ++ "] " ++ c.source ++ " (relevance " ++ c.score.twoPlaces ++ ")\n" ++
    String.ofList (Text.trimEnd c.content.toList) ++ "\n\n"

/-- A line of names, if there are any. -/
def namesLine (label : String) (names : List String) : String :=
  if names.isEmpty then "" else label ++ ": " ++ joined ", " names ++ "\n"

def instructions : String :=
  "INSTRUCTIONS:\n" ++
  "- Answer only from the context above and cite the files, functions or commits you rely on.\n" ++
  "- If the context is insufficient to answer, say so explicitly.\n" ++
  "- Reply in exactly this format:\n" ++
  "ANSWER: <direct answer>\n" ++
  "EXPLANATION: <supporting detail>\n" ++
  "SOURCES USED: <sources you cited>\n"

def prompt (question : String) (chunks : List Chunk) (nodes : List GraphNode) : String :=
  let named (kind : NodeKind) : List String := (nodes.filter (·.kind == kind)).map (·.name)
  let files := named .file
  let functions := named .function
  let related :=
    if files.isEmpty && functions.isEmpty then ""
    else "\nRELATED CODE STRUCTURE:\n" ++ namesLine "Related files" files ++
      namesLine "Related functions" functions
  "You are analyzing a source repository. Answer the question using the context below.\n\n" ++
    "CONTEXT:\n" ++
    (if chunks.isEmpty then "(no matching context was found)\n" else "") ++
    String.join (chunks.zipIdx.map fun c => chunkText (c.2 + 1) c.1) ++
    related ++ "\nQUESTION: " ++ question ++ "\n\n" ++ instructions

end CodeAtlas.Retrieval
