import CodeAtlas.Inference.Fallback
import CodeAtlas.Libraries
import CodeAtlas.Number.Digits

/-! # Services

What makes vectors and writes answers. Either may be missing; then vectors are computed from the
text itself, and nothing writes answers. With them go the libraries that are used. -/
namespace CodeAtlas.Inference

open Number

/-- Why a service gives no result. -/
inductive ServiceError where
  | missingKey (keyName : String)
  | request
  | noCompletion (reason : String)
  | noVector (reason : String)
  deriving DecidableEq, Repr

def ServiceError.message : ServiceError → String
  | .missingKey keyName => "missing API key in " ++ keyName
  | .request => "request failed"
  | .noCompletion reason => "invalid completion response: " ++ reason
  | .noVector reason => "invalid embedding response: " ++ reason

/-- A text that a service wrote, and how many tokens that took. -/
structure Completion where
  text : String
  totalTokens : Nat
  deriving DecidableEq, Repr

structure Services where
  embedder : Option (String → Except ServiceError (List Binary32)) := none
  completer : Option (String → Except ServiceError Completion) := none
  dimension : Nat
  embedderName : String := "offline"
  completerName : String := "offline"
  libraries : Libraries := .absent

namespace Services

def offline (dimension : Nat) : Services where
  dimension := dimension

/-- How much of a text is sent to an embedding service, in characters. -/
def inputLimit : Nat := 8000

/-- The vector of a text. A service that fails or gives an empty vector counts for nothing. -/
def embed (s : Services) (text : String) : List Binary32 :=
  match s.embedder with
  | none => fallbackVector text s.dimension
  | some embedder =>
      match embedder (String.ofList (text.toList.take inputLimit)) with
      | .ok (x :: xs) => x :: xs
      | _ => fallbackVector text s.dimension

/-- What the completion service makes of a prompt, if there is one. -/
def complete (s : Services) (prompt : String) : Except ServiceError (Option Completion) :=
  match s.completer with
  | none => .ok none
  | some completer => (completer prompt).map some

def completionAvailable (s : Services) : Bool := s.completer.isSome

end Services

end CodeAtlas.Inference
