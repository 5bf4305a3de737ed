import CodeAtlas.Inference.Services
import CodeAtlas.Json.Reader
import CodeAtlas.Json.Writer
import CodeAtlas.Settings
import CodeAtlas.Text.Blank
import CodeAtlas.Text.Lines

/-! # Services on other machines

A service is asked by one request and its reply is searched for what was asked. Which services
there are follows from the settings, from what overrides them and from the keys at hand. -/
namespace CodeAtlas.Inference

open Number

/-- A request: always a document that is posted. -/
structure Request where
  url : String
  /-- The key that is shown, if any. -/
  bearer : Option String
  body : Json

structure Reply where
  status : Nat
  body : String
  deriving DecidableEq, Repr

/-- How requests get their replies; a request that cannot be delivered gets none. -/
abbrev Network := Request → Option Reply

/-- An address below another one, with one slash between them. -/
def addressBelow (base path : String) : String :=
  String.ofList (Text.dropEndWhile (· == '/') base.toList ++ ['/'] ++ path.toList.dropWhile (· == '/'))

/-- The part of an address after the name of the machine. -/
def Request.path (r : Request) : String :=
  let cs := match Text.splitFirst? "://".toList r.url.toList with
    | some (_, rest) => rest.dropWhile (· != '/')
    | none => r.url.toList
  if cs.isEmpty then "/" else String.ofList cs

/-- The line of a request that shows its key, without blanks at its end. -/
def Request.authorization (r : Request) : Option String :=
  r.bearer.map fun key =>
    String.ofList (Text.dropEndWhile (fun c => c == ' ' || c == '\t') ("Bearer " ++ key).toList)

/-- A key can be shown if it holds no control characters but tabs. -/
def Request.isSendable (r : Request) : Bool :=
  (r.bearer.getD "").toList.all fun c => c == '\t' || (32 ≤ c.toNat && c.toNat != 127)

/-! ## Services by what they expect and give -/

/-- The protocols that services speak. -/
inductive Protocol where
  | openai
  | localHost
  deriving DecidableEq, Repr

/-- A service: its protocol, where it is, the model it is to use and the key it wants. -/
structure Remote where
  protocol : Protocol
  endpoint : String
  model : String
  key : String

def systemPrompt : String :=
  "You are an expert software engineer who explains codebases accurately, citing the files, " ++
    "functions and commits you were given."

namespace Remote

def bearer (r : Remote) : Option String :=
  match r.protocol with
  | .openai => some r.key
  | .localHost => none

def embedRequest (r : Remote) (text : String) : Request :=
  match r.protocol with
  | .openai =>
      ⟨addressBelow r.endpoint "embeddings", r.bearer,
        .object [("model", .string r.model), ("input", .string text)]⟩
  | .localHost =>
      ⟨addressBelow r.endpoint "api/embeddings", r.bearer,
        .object [("model", .string r.model), ("prompt", .string text)]⟩

def completeRequest (r : Remote) (temperature : Binary32) (prompt : String) : Request :=
  match r.protocol with
  | .openai =>
      ⟨addressBelow r.endpoint "chat/completions", r.bearer,
        .object [("model", .string r.model),
          ("messages", .array [
            .object [("role", .string "system"), ("content", .string systemPrompt)],
            .object [("role", .string "user"), ("content", .string prompt)]]),
          ("temperature", .single temperature)]⟩
  | .localHost =>
      ⟨addressBelow r.endpoint "api/generate", r.bearer,
        .object [("model", .string r.model), ("system", .string systemPrompt),
          ("prompt", .string prompt), ("stream", .bool false),
          ("options", .object [("temperature", .single temperature)])]⟩

/-- Where a reply may hold a vector, the first place that does counting. -/
def vectorPaths : Protocol → List (List String)
  | .openai => [["data", "0", "embedding"]]
  | .localHost =>
      [["embedding"], ["data", "0", "embedding"], ["embeddings", "0"],
        ["embeddings", "0", "embedding"]]

def textPaths : Protocol → List (List String)
  | .openai => [["choices", "0", "message", "content"]]
  | .localHost => [["response"], ["message", "content"], ["choices", "0", "message", "content"]]

/-- Where a reply may hold numbers of tokens, which are added up. -/
def tokenPaths : Protocol → List (List String)
  | .openai => [["usage", "total_tokens"]]
  | .localHost => [["prompt_eval_count"], ["eval_count"]]

end Remote

/-! ## Replies -/

/-- A list of numbers that is not empty, each rounded to 32 bits. -/
def vectorOf? (j : Json) : Option (List Binary32) :=
  match j with
  | .array (item :: items) =>
      (item :: items).mapM fun n =>
        match n.double? with
        | some x => if x.isFinite then some x.toBinary32 else none
        | none => none
  | _ => none

def replyVector (paths : List (List String)) (reply : Json) :
    Except ServiceError (List Binary32) :=
  match paths.findSome? fun path => (reply.at? path).bind vectorOf? with
  | some v => .ok v
  | none => .error (.noVector "missing embedding vector in response body")

def replyText (paths : List (List String)) (reply : Json) : Except ServiceError String :=
  match paths.findSome? fun path => (reply.at? path).bind Json.string? with
  | some s => .ok s
  | none => .error (.noCompletion "missing completion text in response body")

def maxTokens : Nat := 0xFFFFFFFF

/-- The numbers of tokens that a reply tells. -/
def tokenNumbers (paths : List (List String)) (reply : Json) : List Nat :=
  paths.filterMap fun path => (reply.at? path).bind Json.nat?

/-- The sum of numbers in 64 bits, which begins at zero again behind the greatest of them. -/
def sum64 (numbers : List Nat) : UInt64 := numbers.foldl (fun sum n => sum + UInt64.ofNat n) 0

def add64? (a b : Nat) : Option Nat := if a + b < 0x10000000000000000 then some (a + b) else none

/-- The sum of numbers where a sum of more than 64 bits is checked for, and breaks off. -/
def checkedSum (numbers : List Nat) : Option Nat := numbers.foldlM add64? 0

/-- The tokens that a reply counts. The sum is kept in 64 bits and cut to the greatest number that
is told. -/
def tokenCount (paths : List (List String)) (reply : Json) : Nat :=
  min (sum64 (tokenNumbers paths reply)).toNat maxTokens

/-- The tokens that a reply counts in a build with checks, unless their sum breaks off. -/
def checkedTokenCount (paths : List (List String)) (reply : Json) : Option Nat :=
  (checkedSum (tokenNumbers paths reply)).map (min · maxTokens)

def replyDocument (reply : Option Reply) : Except ServiceError Json :=
  match reply with
  | none => .error .request
  | some r =>
      if 400 ≤ r.status ∧ r.status < 600 then .error .request
      else
        match Json.parse r.body with
        | .ok j => .ok j
        | .error _ => .error .request

def exchange (network : Network) (r : Request) : Except ServiceError Json :=
  if r.isSendable then replyDocument (network r) else .error .request

def Remote.embed (network : Network) (r : Remote) (text : String) :
    Except ServiceError (List Binary32) := do
  replyVector (vectorPaths r.protocol) (← exchange network (r.embedRequest text))

/-- The text that a service writes, with all of its reply. -/
def Remote.written (network : Network) (r : Remote) (temperature : Binary32) (prompt : String) :
    Except ServiceError (String × Json) := do
  let reply ← exchange network (r.completeRequest temperature prompt)
  return (← replyText (textPaths r.protocol) reply, reply)

def Remote.complete (network : Network) (r : Remote) (temperature : Binary32) (prompt : String) :
    Except ServiceError Completion :=
  (r.written network temperature prompt).map fun (text, reply) =>
    ⟨text, tokenCount (tokenPaths r.protocol) reply⟩

/-- The same in a build with checks, unless the sum of the tokens breaks off. -/
def Remote.completeChecked (network : Network) (r : Remote) (temperature : Binary32)
    (prompt : String) : Except ServiceError (Option Completion) :=
  (r.written network temperature prompt).map fun (text, reply) =>
    (checkedTokenCount (tokenPaths r.protocol) reply).map fun tokens => ⟨text, tokens⟩

/-! ## Choosing services -/

/-- What overrides the settings. The provider is for both services, the rest for answers only. -/
structure Overrides where
  provider : Option ServiceKind := none
  model : Option String := none
  endpoint : Option String := none
  deriving DecidableEq, Repr, Inhabited

def placeholderKey : String := "your-openai-api-key-here"

def readKey (environment : String → Option String) (keyName : String) : Option String :=
  (environment keyName).bind fun value =>
    let key := Text.trimmed value
    if key.isEmpty ∨ key = placeholderKey then none else some key

/-- Which protocol is spoken and with what key; none is offline. -/
def chooseProtocol (kind : ServiceKind) (key : Option String) (keyName : String) :
    Except ServiceError (Option (Protocol × String)) :=
  match kind, key with
  | .offline, _ => .ok none
  | .localHost, _ => .ok (some (.localHost, ""))
  | .auto, key => .ok (key.map fun k => (.openai, k))
  | .openai, some k => .ok (some (.openai, k))
  | .openai, none => .error (.missingKey keyName)

def Protocol.name : Protocol → String
  | .openai => ServiceKind.openai.name
  | .localHost => ServiceKind.localHost.name

def Protocol.defaultEndpoint : Protocol → String
  | .openai => defaultOpenaiEndpoint
  | .localHost => defaultLocalEndpoint

def defaultCompletionModel : String := "gpt-4"
def defaultEmbeddingModel : String := "text-embedding-ada-002"

/-- The services that settings, overrides and keys ask for, in a build without checks. -/
def Services.ofSettings (libraries : Libraries) (network : Network)
    (environment : String → Option String) (settings : Settings) (overrides : Overrides) :
    Except ServiceError Services := do
  let services := { Services.offline settings.embedding.effectiveDimension with libraries }
  let e := settings.embedding
  let services ←
    match ← chooseProtocol (overrides.provider.getD e.provider)
      (readKey environment e.keyVariable) e.keyVariable with
    | none => pure services
    | some (protocol, key) =>
        let remote : Remote :=
          ⟨protocol, e.endpoint.getD protocol.defaultEndpoint,
            e.model.getD defaultEmbeddingModel, key⟩
        pure { services with
          embedder := some (remote.embed network)
          embedderName := protocol.name }
  let c := settings.completion
  let model := Settings.trimmedSetting overrides.model <|> Settings.trimmedSetting c.model
  let endpoint := Settings.trimmedSetting overrides.endpoint <|> Settings.trimmedSetting c.endpoint
  match ← chooseProtocol (overrides.provider.getD c.provider)
    (readKey environment c.keyVariable) c.keyVariable with
  | none => return services
  | some (protocol, key) =>
      let remote : Remote :=
        ⟨protocol, endpoint.getD protocol.defaultEndpoint, model.getD defaultCompletionModel, key⟩
      return { services with
        completer := some (remote.complete network c.temperature)
        completerName := protocol.name }

end CodeAtlas.Inference
