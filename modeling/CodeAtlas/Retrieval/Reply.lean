import CodeAtlas.Text.Blank
import CodeAtlas.Text.Lines
import CodeAtlas.Text.Lowercase

/-! # Replies

A reply has up to three sections under headers, in any order and any letter case. A section ends
where the next header begins; without the header of the answer the whole reply is the answer. -/
namespace CodeAtlas.Retrieval

/-- The headers of the sections. -/
inductive Header where
  | answer
  | explanation
  | sources
  deriving DecidableEq, Repr

def Header.text : Header → List Char
  | answer => "answer:".toList
  | explanation => "explanation:".toList
  | sources => "sources used:".toList

structure Reply where
  answer : String
  explanation : String
  sourcesUsed : String
  deriving DecidableEq, Repr

/-- Where `needle` first occurs in a text, in characters. -/
def position? (needle cs : List Char) : Option Nat :=
  (Text.splitFirst? needle cs).map fun parts => parts.1.length

def Header.position? (h : Header) (reply : List Char) : Option Nat :=
  Retrieval.position? h.text (Text.asciiLowercase reply)

/-- Where the headers of a reply are, as far as they occur. -/
def boundaries (reply : List Char) : List Nat :=
  [Header.answer, Header.explanation, Header.sources].filterMap (·.position? reply)

/-- Where the section of a header that begins at `start` ends. -/
def sectionEnd (reply : List Char) (start : Nat) : Nat :=
  ((boundaries reply).filter (start < ·)).foldl min reply.length

/-- The text below a header that begins at `start`. -/
def sectionText (reply : List Char) (h : Header) (start : Nat) : String :=
  let first := start + h.text.length
  String.ofList (Text.trim ((reply.drop first).take (sectionEnd reply start - first)))

def Reply.parse (text : String) : Reply :=
  let reply := text.toList
  let below (h : Header) : String :=
    match h.position? reply with
    | some start => sectionText reply h start
    | none => ""
  match Header.answer.position? reply with
  | none => ⟨String.ofList (Text.trim reply), "", ""⟩
  | some _ => ⟨below .answer, below .explanation, below .sources⟩

end CodeAtlas.Retrieval
