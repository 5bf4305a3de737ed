import CodeAtlas.CommandLine
import CodeAtlas.Home

/-! # The console

One call of the program: a command line is read, the home is opened, the command is carried out on
the disk as it is then, and the store is written back. -/
namespace CodeAtlas

open Inference (Network)

/-- What a call ends with. -/
inductive Outcome where
  | answered (document : Json)
  | failed (causes : List String)
  | refused (e : UsageError)
  /-- The call ended where it stood. -/
  | brokeOff (reason : String)

namespace Outcome

/-- The exit code: help and version are no failures. -/
def code : Outcome → UInt32
  | answered _ => 0
  | failed _ => 1
  | refused .help | refused .version => 0
  | refused _ => 2
  | brokeOff _ => 101

/-- What a call ends with that got as far as the store. -/
def ofResult : Except SessionError Json → Outcome
  | .ok document => answered document
  | .error (.question .brokeOff) => brokeOff Retrieval.brokenSort
  | .error e => failed e.causes

/-- A cause behind its number, its further lines below its first one. -/
def causeText (label indent cause : String) : String :=
  label ++ ("\n" ++ indent).intercalate
    ((Text.cut '\n' cause.toList).map String.ofList)

/-- The number of a cause, flush right. -/
def causeLabel (n : Nat) : String :=
  let number := Number.text n
  String.ofList (List.replicate (5 - number.length) ' ') ++ number ++ ": "

/-- The report of a failure: the outermost cause, and below it those that led to it. A single one
has no number. -/
def report (causes : List String) : String :=
  match causes with
  | [] => "Error: "
  | [e] => "Error: " ++ e
  | [e, cause] => "Error: " ++ e ++ "\n\nCaused by:\n" ++ causeText "    " "    " cause
  | e :: more =>
      "Error: " ++ e ++ "\n\nCaused by:\n" ++ "\n".intercalate
        (more.zipIdx.map fun c => causeText (causeLabel c.2) "       " c.1)

end Outcome

namespace Console

/-- What the program lives in. -/
structure Surroundings where
  network : Network
  environment : String → Option String
  clock : Nat → Int
  libraries : Libraries

def perform (session : Session) (disk : Disk) :
    Command → ExceptT SessionError Program Json
  | .analyze root name force => return (← session.analyze disk root name force).toJson
  | .ask root question asker => return (← session.ask disk root question asker).toJson
  | .history root asker =>
      return .array ((← Session.history disk root asker).map Exchange.toJson)
  | .status root => return (← Session.status disk root).toJson

/-- The home that a command line names, or that of the working directory. -/
def homeOf (disk : Disk) (line : CommandLine) : String :=
  line.home.getD (Disk.join (FileTree.placeText disk.current) Home.defaultName)

def carryOut (around : Surroundings) (disk : Disk) (line : CommandLine) : Outcome × Disk :=
  let home := homeOf disk line
  match Home.openSession around.libraries around.network around.environment line.overrides disk
    home with
  | (.error e, disk) => (.failed e.causes, disk)
  | (.ok (session, store), disk) =>
      let (result, moment) :=
        Program.run session.services around.clock (perform session disk line.command) { store }
      (.ofResult result, Home.writeStore disk home moment.store)

/-- The words that count: a first word `--` does not. -/
def wordsOf (words : List String) : List String :=
  if words.head? = some "--" then words.tail else words

def call (around : Surroundings) (disk : Disk) (words : List String) : Outcome × Disk :=
  match CommandLine.read (wordsOf words) with
  | .error e => (.refused e, disk)
  | .ok line => carryOut around disk line

end Console

end CodeAtlas
