import CodeAtlas.Number.Shortest
import CodeAtlas.Text.Blank
import CodeAtlas.Vocabulary

/-! # Settings

Which services answer, how vectors are made and how far an analysis goes, with defaults for all of
it. `warnings` lists what looks unintended; nothing in it is an error. -/
namespace CodeAtlas

open Number

/-- Which service is used. -/
inductive ServiceKind where
  | auto
  | offline
  | openai
  | localHost
  deriving DecidableEq, Repr, Inhabited

namespace ServiceKind

def name : ServiceKind → String
  | auto => "auto"
  | offline => "offline"
  | openai => "openai"
  | localHost => "local"

def all : List ServiceKind := [.auto, .offline, .openai, .localHost]

def vocabulary : Vocabulary ServiceKind := ⟨"provider", all, name⟩

def refusal (word : String) : String :=
  "invalid provider '" ++ word ++ "', expected one of: auto, offline, openai, local"

def read (text : String) : Except String ServiceKind :=
  match vocabulary.read text with
  | .ok k => .ok k
  | .error e => .error (refusal e.word)

end ServiceKind

def defaultKeyVariable : String := "OPENAI_API_KEY"
def defaultOpenaiEndpoint : String := "https://api.openai.com/v1"
def defaultLocalEndpoint : String := "http://127.0.0.1:11434"
def defaultDimension : Nat := 1536

/-- The service that writes answers. -/
structure CompletionSettings where
  provider : ServiceKind := .auto
  model : Option String := none
  endpoint : Option String := none
  keyVariable : String := defaultKeyVariable
  temperature : Binary32 := ⟨0x3E99999A⟩
  deriving DecidableEq, Repr, Inhabited

/-- The service that makes vectors. -/
structure EmbeddingSettings where
  provider : ServiceKind := .auto
  model : Option String := none
  endpoint : Option String := none
  keyVariable : String := defaultKeyVariable
  dimension : Nat := defaultDimension
  concurrency : Nat := 4
  deriving DecidableEq, Repr, Inhabited

def EmbeddingSettings.effectiveDimension (s : EmbeddingSettings) : Nat :=
  if s.dimension = 0 then defaultDimension else s.dimension

/-- How much an analysis takes in. -/
structure AnalysisSettings where
  maxCommits : Nat := 500
  maxDepth : Nat := 10
  maxFileBytes : Nat := 1024 * 1024
  commitWindow : Nat := 50
  deriving DecidableEq, Repr, Inhabited

structure Settings where
  completion : CompletionSettings := {}
  embedding : EmbeddingSettings := {}
  analysis : AnalysisSettings := {}
  deriving DecidableEq, Repr, Inhabited

namespace Settings

/-- A setting without the blanks around it; an empty one is none. -/
def trimmedSetting (s : Option String) : Option String :=
  s.bind fun text => if (Text.trimmed text).isEmpty then none else some (Text.trimmed text)

/-- The name of an environment variable; an empty one is the default. -/
def trimmedVariable (s : String) : String :=
  if (Text.trimmed s).isEmpty then defaultKeyVariable else Text.trimmed s

/-- Settings as they are used: without blanks around texts. -/
def normalized (s : Settings) : Settings where
  completion := { s.completion with
    model := trimmedSetting s.completion.model
    endpoint := trimmedSetting s.completion.endpoint
    keyVariable := trimmedVariable s.completion.keyVariable }
  embedding := { s.embedding with
    model := trimmedSetting s.embedding.model
    endpoint := trimmedSetting s.embedding.endpoint
    keyVariable := trimmedVariable s.embedding.keyVariable }
  analysis := s.analysis

/-- Something in the settings that looks unintended. -/
inductive Warning where
  | dimensionZero
  | concurrencyZero
  | maxCommitsZero
  | completionEndpointMissing
  | embeddingEndpointMissing
  | temperatureRange (temperature : Binary32)
  deriving DecidableEq, Repr

def Warning.code : Warning → String
  | .dimensionZero => "embeddings_dimension_zero"
  | .concurrencyZero => "embeddings_concurrency_zero"
  | .maxCommitsZero => "analysis_max_commits_zero"
  | .completionEndpointMissing => "inference_local_endpoint_default"
  | .embeddingEndpointMissing => "embeddings_local_endpoint_default"
  | .temperatureRange _ => "inference_temperature_range"

def Warning.message : Warning → String
  | .dimensionZero => "embeddings.dimension is 0; using " ++ text defaultDimension
  | .concurrencyZero => "embeddings.concurrency is 0; requests run one at a time"
  | .maxCommitsZero => "analysis.max_commits is 0; commit history will be empty"
  | .completionEndpointMissing =>
      "inference.provider is local without an endpoint; using " ++ defaultLocalEndpoint
  | .embeddingEndpointMissing =>
      "embeddings.provider is local without an endpoint; using " ++ defaultLocalEndpoint
  | .temperatureRange t => "inference.temperature " ++ t.shortestText ++ " is outside 0.0..=2.0"

def highestTemperature : Binary32 := ⟨0x40000000⟩

/-- All warnings, in the order of the settings that they are about. -/
def warnings (s : Settings) : List Warning :=
  (if s.embedding.dimension = 0 then [.dimensionZero] else []) ++
  (if s.embedding.concurrency = 0 then [.concurrencyZero] else []) ++
  (if s.analysis.maxCommits = 0 then [.maxCommitsZero] else []) ++
  (if s.completion.provider = .localHost ∧ s.completion.endpoint = none then
    [.completionEndpointMissing] else []) ++
  (if s.embedding.provider = .localHost ∧ s.embedding.endpoint = none then
    [.embeddingEndpointMissing] else []) ++
  (if Binary32.zero.le s.completion.temperature &&
      s.completion.temperature.le highestTemperature then []
    else [.temperatureRange s.completion.temperature])

end Settings

/-- What one analysis is told. With `force` it goes on although another run seems to be under
way. -/
structure AnalysisOptions where
  maxCommits : Nat := 500
  maxDepth : Nat := 10
  maxFileBytes : Nat := 1024 * 1024
  commitWindow : Nat := 50
  concurrency : Nat := 4
  force : Bool := false
  deriving DecidableEq, Repr, Inhabited

def AnalysisOptions.ofSettings (s : Settings) : AnalysisOptions where
  maxCommits := s.analysis.maxCommits
  maxDepth := s.analysis.maxDepth
  maxFileBytes := s.analysis.maxFileBytes
  commitWindow := s.analysis.commitWindow
  concurrency := s.embedding.concurrency
  force := false

end CodeAtlas
