import CodeAtlas.Files.Tree
import CodeAtlas.Settings
import CodeAtlas.Toml.Reader

/-! # The settings file

A file holds a table for each group of settings; what it leaves out has its default, and what it
has beyond them is passed over. A file that is missing means defaults. -/
namespace CodeAtlas.Settings

open Number

/-- Why a file gives no settings. -/
inductive FileError where
  | unreadable (e : FileTree.PathError)
  | notText
  | malformed (message : String)
  deriving DecidableEq, Repr

/-- What is wrong, from the outermost cause to the innermost. -/
def FileError.causes : FileError → List String
  | .unreadable e => ["io error: " ++ e.message, e.message]
  | .notText =>
      ["io error: stream did not contain valid UTF-8", "stream did not contain valid UTF-8"]
  | .malformed message => ["failed to parse config TOML: " ++ message, message]

/-! ## Fields -/

/-- A group of settings seen as a look-up. A list gives the fields in their order, and a date has
none of them. -/
def fieldsOf (names : List String) : Toml.Value → Option (String → Option Toml.Value)
  | .table _ entries => some fun name => entries.lookup name
  | .array _ items => some fun name => (names.zip items).lookup name
  | .dateTime => some fun _ => none
  | _ => none

/-- A field, or its default if it is missing. -/
def fieldOr (read : Toml.Value → Option α) (default : α) : Option Toml.Value → Option α
  | none => some default
  | some v => read v

def readText : Toml.Value → Option String
  | .string s => some s
  | _ => none

def readOptionalText (v : Toml.Value) : Option (Option String) := (readText v).map some

def readSize : Toml.Value → Option Nat
  | .integer n => if 0 ≤ n then some n.toNat else none
  | _ => none

/-- An integer or a number with a point, rounded to 32 bits. -/
def readNumber : Toml.Value → Option Binary32
  | .integer n =>
      let x := Binary32.ofRatio n.natAbs 1
      some (if n < 0 then ⟨x.bits ||| 0x80000000⟩ else x)
  | .float x => some x.toBinary32
  | _ => none

/-- The name of a service, or a table with the name as its only key and nothing under it. -/
def readService : Toml.Value → Option ServiceKind
  | .string s => ServiceKind.vocabulary.find? s
  | .table _ [(name, .array _ [])] => ServiceKind.vocabulary.find? name
  | .table _ [(name, .table _ [])] => ServiceKind.vocabulary.find? name
  | _ => none

/-! ## Groups -/

def completionFields : List String :=
  ["provider", "model", "endpoint", "api_key_env", "temperature"]

def readCompletion (v : Toml.Value) : Option CompletionSettings := do
  let get ← fieldsOf completionFields v
  let default : CompletionSettings := {}
  return {
    provider := ← fieldOr readService default.provider (get "provider")
    model := ← fieldOr readOptionalText default.model (get "model")
    endpoint := ← fieldOr readOptionalText default.endpoint (get "endpoint")
    keyVariable := ← fieldOr readText default.keyVariable (get "api_key_env")
    temperature := ← fieldOr readNumber default.temperature (get "temperature") }

def embeddingFields : List String :=
  ["provider", "model", "endpoint", "api_key_env", "dimension", "concurrency"]

def readEmbedding (v : Toml.Value) : Option EmbeddingSettings := do
  let get ← fieldsOf embeddingFields v
  let default : EmbeddingSettings := {}
  return {
    provider := ← fieldOr readService default.provider (get "provider")
    model := ← fieldOr readOptionalText default.model (get "model")
    endpoint := ← fieldOr readOptionalText default.endpoint (get "endpoint")
    keyVariable := ← fieldOr readText default.keyVariable (get "api_key_env")
    dimension := ← fieldOr readSize default.dimension (get "dimension")
    concurrency := ← fieldOr readSize default.concurrency (get "concurrency") }

def analysisFields : List String :=
  ["max_commits", "max_depth", "max_file_bytes", "commit_embedding_window"]

def readAnalysis (v : Toml.Value) : Option AnalysisSettings := do
  let get ← fieldsOf analysisFields v
  let default : AnalysisSettings := {}
  return {
    maxCommits := ← fieldOr readSize default.maxCommits (get "max_commits")
    maxDepth := ← fieldOr readSize default.maxDepth (get "max_depth")
    maxFileBytes := ← fieldOr readSize default.maxFileBytes (get "max_file_bytes")
    commitWindow := ← fieldOr readSize default.commitWindow (get "commit_embedding_window") }

/-! ## Files -/

def ofDocument (d : Toml.Entries) : Option Settings := do
  return {
    completion := ← fieldOr readCompletion {} (d.find? "inference")
    embedding := ← fieldOr readEmbedding {} (d.find? "embeddings")
    analysis := ← fieldOr readAnalysis {} (d.find? "analysis") }

/-- The settings of a file, if there is one. -/
def load (file : Option ByteArray) : Except FileError Settings :=
  match file with
  | none => .ok {}
  | some bytes =>
      match String.fromUTF8? bytes with
      | none => .error .notText
      | some source =>
          match Toml.read source with
          | .error message => .error (.malformed message)
          | .ok d =>
              match ofDocument d with
              | some s => .ok s.normalized
              | none => .error (.malformed "invalid type\n")

/-- A text between quotes, with escapes for quotes and backslashes. -/
def quoted (s : String) : String :=
  String.ofList (['"'] ++ s.toList.flatMap (fun c =>
    if c = '"' ∨ c = '\\' then ['\\', c] else [c]) ++ ['"'])

/-- A number with all the digits it has as one of 64 bits. -/
def numberText (x : Binary32) : String := (x.toBinary64.dataText).getD "nan"

def render (s : Settings) : String :=
  let line (key value : String) : String := key ++ " = " ++ value ++ "\n"
  let optional (key : String) : Option String → String
    | some v => line key (quoted v)
    | none => ""
  "[inference]\n" ++
  line "provider" (quoted s.completion.provider.name) ++
  optional "model" s.completion.model ++
  optional "endpoint" s.completion.endpoint ++
  line "api_key_env" (quoted s.completion.keyVariable) ++
  line "temperature" (numberText s.completion.temperature) ++
  "\n[embeddings]\n" ++
  line "provider" (quoted s.embedding.provider.name) ++
  optional "model" s.embedding.model ++
  optional "endpoint" s.embedding.endpoint ++
  line "api_key_env" (quoted s.embedding.keyVariable) ++
  line "dimension" (text s.embedding.dimension) ++
  line "concurrency" (text s.embedding.concurrency) ++
  "\n[analysis]\n" ++
  line "max_commits" (text s.analysis.maxCommits) ++
  line "max_depth" (text s.analysis.maxDepth) ++
  line "max_file_bytes" (text s.analysis.maxFileBytes) ++
  line "commit_embedding_window" (text s.analysis.commitWindow)

/-- Load a file that is written with defaults first if it is missing. Also gives the file that is
there afterwards. -/
def ensure (file : Option ByteArray) : Except FileError (Settings × ByteArray) :=
  match file with
  | none => .ok ({}, (render {}).toUTF8)
  | some bytes => (load (some bytes)).map fun s => (s, bytes)

end CodeAtlas.Settings
