import CodeAtlas.Inference.Remote

/-! # Command lines

A command with its working tree and options. The words of a command line are read from left to
right on two levels: up to the name of a command, and after it. An option that wants a value takes
the next word that does not look like an option; its value is looked at when the next option or
positional word comes, or at the end. Options that both levels have may stand on either, and the
inner one counts. -/
namespace CodeAtlas

open Inference (Overrides)

/-- How log lines are written. -/
inductive LogFormat where
  | human
  | json
  deriving DecidableEq, Repr, Inhabited

namespace LogFormat

def name : LogFormat → String
  | human => "human"
  | json => "json"

def vocabulary : Vocabulary LogFormat := ⟨"log format", [.human, .json], name⟩

def read (text : String) : Except String LogFormat :=
  match vocabulary.read text with
  | .ok f => .ok f
  | .error e =>
      .error ("invalid log format '" ++ e.word ++ "', expected one of: human, json")

end LogFormat

/-- Why a command line is not carried out. -/
inductive UsageError where
  | help
  | version
  | missingArguments
  | missingCommand
  | unknownCommand (word : String)
  | unknownArgument (word : String)
  | missingRequired
  | missingValue
  | invalidValue (word : String)
  | needlessValue (word : String)
  | repeated
  deriving DecidableEq, Repr

def usage : String :=
  "Usage: code-atlas [OPTIONS] <COMMAND>\n\n" ++
  "Commands:\n" ++
  "  analyze <ROOT> [--name <NAME>] [--force]  Run the full analysis over a working tree\n" ++
  "  ask <ROOT> <QUESTION> [--asker <ASKER>]   Ask a question about an analyzed working tree\n" ++
  "  history <ROOT> [--asker <ASKER>]          List previous questions with their answers\n" ++
  "  status <ROOT>                             Show lifecycle state, progress and statistics\n\n" ++
  "Options:\n" ++
  "  --home <HOME>              Directory of the settings and the store\n" ++
  "  --log-format <LOG_FORMAT>  human or json\n" ++
  "  --provider <PROVIDER>      auto, offline, openai or local\n" ++
  "  --model <MODEL>            Completion model override\n" ++
  "  --endpoint <ENDPOINT>      Completion endpoint override"

/-- What is said to a command line that is not carried out. -/
def UsageError.message : UsageError → String
  | help | missingArguments => usage
  | version => "code-atlas 0.1.0"
  | missingCommand => "error: a command is required"
  | unknownCommand word => "error: unrecognized command '" ++ word ++ "'"
  | unknownArgument word => "error: unexpected argument '" ++ word ++ "'"
  | missingRequired => "error: a required argument is missing"
  | missingValue => "error: a value is required"
  | invalidValue word => "error: invalid value '" ++ word ++ "'"
  | needlessValue word => "error: unexpected value in '" ++ word ++ "'"
  | repeated => "error: an argument is given more than once"

/-- What is to be done. -/
inductive Command where
  | analyze (root : String) (name : Option String) (force : Bool)
  | ask (root question asker : String)
  | history (root asker : String)
  | status (root : String)
  deriving DecidableEq, Repr

structure CommandLine where
  home : Option String
  logFormat : LogFormat
  overrides : Overrides
  command : Command
  deriving DecidableEq, Repr

namespace CommandLine

/-! ## Levels -/

/-- What a word may be given for. -/
inductive Slot where
  | home
  | logFormat
  | provider
  | model
  | endpoint
  | name
  | force
  | asker
  | root
  | question
  deriving DecidableEq, Repr

/-- An option by what it does. -/
inductive Switch where
  | value (slot : Slot)
  | flag (slot : Slot)
  | help
  | version
  deriving DecidableEq, Repr

inductive CommandName where
  | analyze
  | ask
  | history
  | status
  deriving DecidableEq, Repr

def CommandName.text : CommandName → String
  | analyze => "analyze"
  | ask => "ask"
  | history => "history"
  | status => "status"

def CommandName.all : List CommandName := [.analyze, .ask, .history, .status]

/-- A level of a command line: its options by their long and short names, its commands and its
positional words. -/
structure Level where
  options : List (String × Switch)
  shorts : List (Char × Switch)
  commands : List CommandName
  positionals : List Slot

def sharedOptions : List (String × Switch) := [
  ("home", .value .home), ("log-format", .value .logFormat), ("provider", .value .provider),
  ("model", .value .model), ("endpoint", .value .endpoint), ("help", .help)]

def outerLevel : Level where
  options := sharedOptions ++ [("version", .version)]
  shorts := [('h', .help), ('V', .version)]
  commands := CommandName.all
  positionals := []

def CommandName.level (c : CommandName) : Level where
  options := sharedOptions ++
    match c with
    | analyze => [("name", .value .name), ("force", .flag .force)]
    | ask | history => [("asker", .value .asker)]
    | status => []
  shorts := [('h', .help)]
  commands := []
  positionals :=
    match c with
    | ask => [.root, .question]
    | analyze | history | status => [.root]

/-! ## Words for slots -/

/-- Whether a word will do for a slot. Paths are not empty. -/
def Slot.check (slot : Slot) (word : String) : Except UsageError Unit :=
  match slot with
  | .home | .root => if word.isEmpty then .error .missingValue else .ok ()
  | .logFormat => if (LogFormat.read word).isOk then .ok () else .error (.invalidValue word)
  | .provider => if (ServiceKind.read word).isOk then .ok () else .error (.invalidValue word)
  | _ => .ok ()

/-- What has been read on a level: the words that are given for slots, the slot that waits to be
looked at, with its word if it has one, how many positional words there were, and whether `--` has
been read, after which no word is an option. -/
structure Reading where
  given : List (Slot × String) := []
  waiting : Option (Slot × Option String) := none
  positionals : Nat := 0
  isTrailing : Bool := false
  deriving Repr

namespace Reading

def give (r : Reading) (slot : Slot) (word : String) : Except UsageError Reading := do
  if (r.given.lookup slot).isSome then throw .repeated
  slot.check word
  return { r with given := r.given ++ [(slot, word)] }

def settle (r : Reading) : Except UsageError Reading :=
  match r.waiting with
  | none => .ok r
  | some (_, none) => .error .missingValue
  | some (slot, some word) => ({ r with waiting := none }).give slot word

def wanting (r : Reading) : Option Slot :=
  match r.waiting with
  | some (slot, none) => some slot
  | _ => none

end Reading

/-! ## Reading a level -/

/-- A word that looks like a long option: its name, and what is behind the first `=`. -/
def longOption? (word : String) : Option (String × Option String) :=
  match word.toList with
  | '-' :: '-' :: cs =>
      let value := match cs.dropWhile (· != '=') with
        | _ :: value => some (String.ofList value)
        | [] => none
      some (String.ofList (cs.takeWhile (· != '=')), value)
  | _ => none

/-- The first letter of a word that looks like short options. -/
def shortOption? (word : String) : Option Char :=
  match word.toList with
  | '-' :: c :: _ => some c
  | _ => none

def helpOn : List String → UsageError
  | [] => .help
  | word :: rest =>
      if word = "help" || CommandName.all.any (·.text = word) then
        match rest with
        | [] => .help
        | next :: _ => .unknownCommand next
      else .unknownCommand word

/-- What is wrong with a word that has no place on a level. -/
def Level.stray (level : Level) (isTrailing : Bool) (word : String) : UsageError :=
  let isCommand := word = "help" || level.commands.any (·.text = word)
  if level.commands.isEmpty || (isTrailing && isCommand) then .unknownArgument word
  else .unknownCommand word

def applySwitch (r : Reading) (word : String) (switch : Switch) (value : Option String) :
    Except UsageError Reading :=
  match switch, value with
  | .value slot, some v => do (← r.settle).give slot v
  | .value slot, none => do return { ← r.settle with waiting := some (slot, none) }
  | .flag slot, none => do (← r.settle).give slot "true"
  | .help, none => do let _ ← r.settle; throw .help
  | .version, none => do let _ ← r.settle; throw .version
  | _, some _ => throw (.needlessValue word)

def Level.place (level : Level) (r : Reading) (word : String) : Except UsageError Reading :=
  match level.positionals[r.positionals]? with
  | some slot => do
      return { ← r.settle with
        waiting := some (slot, some word), positionals := r.positionals + 1 }
  | none => .error (level.stray r.isTrailing word)

def Level.step (level : Level) (r : Reading) (word : String) : Except UsageError Reading :=
  if r.isTrailing then level.place r word
  else if word = "--" then .ok { r with isTrailing := true }
  else
    match longOption? word, shortOption? word, r.wanting with
    | some (name, value), _, _ =>
        match level.options.lookup name with
        | some switch => applySwitch r word switch value
        | none => .error (.unknownArgument word)
    | none, some c, _ =>
        match level.shorts.lookup c with
        | some switch => applySwitch r word switch none
        | none => .error (.unknownArgument word)
    | none, none, some slot => .ok { r with waiting := some (slot, some word) }
    | none, none, none => level.place r word

/-- Read words up to the name of a command, which is given with the words after it. -/
def Level.read (level : Level) (r : Reading) :
    List String → Except UsageError (Reading × Option (CommandName × List String))
  | [] => .ok (r, none)
  | word :: rest =>
      if r.isTrailing || r.wanting.isSome then do level.read (← level.step r word) rest
      else
        match level.commands.find? (·.text = word) with
        | some command => .ok (r, some (command, rest))
        | none =>
            if word = "help" && !level.commands.isEmpty then .error (helpOn rest)
            else do level.read (← level.step r word) rest

/-! ## Reading a command line -/

def CommandName.command (c : CommandName) (get : Slot → Option String) :
    Except UsageError Command := do
  let required (slot : Slot) : Except UsageError String :=
    match get slot with
    | some word => .ok word
    | none => .error .missingRequired
  let asker := (get .asker).getD "local"
  match c with
  | analyze => return .analyze (← required .root) (get .name) (get .force).isSome
  | ask => return .ask (← required .root) (← required .question) asker
  | history => return .history (← required .root) asker
  | status => return .status (← required .root)

def read (words : List String) : Except UsageError CommandLine := do
  let (outer, named) ← outerLevel.read {} words
  match named with
  | none =>
      let outer ← outer.settle
      throw (if outer.given.isEmpty then .missingArguments else .missingCommand)
  | some (name, rest) =>
      let (inner, _) ← name.level.read {} rest
      let inner ← inner.settle
      let command ← name.command (inner.given.lookup ·)
      let outer ← outer.settle
      let get (slot : Slot) : Option String := inner.given.lookup slot <|> outer.given.lookup slot
      return {
        home := get .home
        logFormat := ((get .logFormat).bind fun word => (LogFormat.read word).toOption).getD .human
        overrides := {
          provider := (get .provider).bind fun word => (ServiceKind.read word).toOption
          model := get .model
          endpoint := get .endpoint }
        command := command }

end CommandLine

end CodeAtlas
