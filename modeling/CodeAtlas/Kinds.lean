import CodeAtlas.Vocabulary

/-! # Kinds and states

The small vocabularies of the records: what a symbol, a node, an edge or an embedded text is, and
where a subject or a question stands. -/
namespace CodeAtlas

/-- What kind of unit a symbol is. -/
inductive SymbolKind where
  | function
  | method
  | classDef
  | arrow
  | async
  | generator
  | constructor
  deriving DecidableEq, Repr, Inhabited

namespace SymbolKind

def name : SymbolKind → String
  | function => "function"
  | method => "method"
  | classDef => "class"
  | arrow => "arrow"
  | async => "async"
  | generator => "generator"
  | constructor => "constructor"

def all : List SymbolKind := [.function, .method, .classDef, .arrow, .async, .generator, .constructor]

def vocabulary : Vocabulary SymbolKind := ⟨"symbol kind", all, name⟩

end SymbolKind

/-- What a node of the dependency graph is. -/
inductive NodeKind where
  | file
  | function
  | module
  | external
  deriving DecidableEq, Repr, Inhabited

namespace NodeKind

def name : NodeKind → String
  | file => "file"
  | function => "function"
  | module => "module"
  | external => "external"

def all : List NodeKind := [.file, .function, .module, .external]

def vocabulary : Vocabulary NodeKind := ⟨"node kind", all, name⟩

def rank : NodeKind → Nat
  | file => 0
  | function => 1
  | module => 2
  | external => 3

end NodeKind

/-- Why one node depends on another. -/
inductive EdgeKind where
  | imports
  | call
  | extend
  | implement
  | use
  deriving DecidableEq, Repr, Inhabited

namespace EdgeKind

def name : EdgeKind → String
  | imports => "import"
  | call => "call"
  | extend => "extends"
  | implement => "implements"
  | use => "uses"

def all : List EdgeKind := [.imports, .call, .extend, .implement, .use]

def vocabulary : Vocabulary EdgeKind := ⟨"edge kind", all, name⟩

end EdgeKind

/-- What an embedded text stands for. -/
inductive EntityKind where
  | file
  | function
  | commit
  | codeChunk
  deriving DecidableEq, Repr, Inhabited

namespace EntityKind

def name : EntityKind → String
  | file => "file"
  | function => "function"
  | commit => "commit"
  | codeChunk => "code_chunk"

def all : List EntityKind := [.file, .function, .commit, .codeChunk]

def vocabulary : Vocabulary EntityKind := ⟨"entity kind", all, name⟩

end EntityKind

/-- What sort of text was embedded. -/
inductive ContentKind where
  | code
  | description
  | commitMessage
  | docstring
  deriving DecidableEq, Repr, Inhabited

namespace ContentKind

def name : ContentKind → String
  | code => "code"
  | description => "description"
  | commitMessage => "commit_message"
  | docstring => "docstring"

def all : List ContentKind := [.code, .description, .commitMessage, .docstring]

def vocabulary : Vocabulary ContentKind := ⟨"content kind", all, name⟩

end ContentKind

/-- Where the analysis of a subject stands. -/
inductive SubjectStatus where
  | pending
  | cloning
  | analyzing
  | ready
  | error
  deriving DecidableEq, Repr, Inhabited

namespace SubjectStatus

def name : SubjectStatus → String
  | pending => "pending"
  | cloning => "cloning"
  | analyzing => "analyzing"
  | ready => "ready"
  | error => "error"

def all : List SubjectStatus := [.pending, .cloning, .analyzing, .ready, .error]

def vocabulary : Vocabulary SubjectStatus := ⟨"subject status", all, name⟩

end SubjectStatus

def SubjectStatus.isBusy : SubjectStatus → Bool
  | cloning | analyzing => true
  | pending | ready | error => false

/-- Where the answer to a question stands. -/
inductive QuestionStatus where
  | pending
  | processing
  | completed
  | error
  deriving DecidableEq, Repr, Inhabited

namespace QuestionStatus

def name : QuestionStatus → String
  | pending => "pending"
  | processing => "processing"
  | completed => "completed"
  | error => "error"

def all : List QuestionStatus := [.pending, .processing, .completed, .error]

def vocabulary : Vocabulary QuestionStatus := ⟨"question status", all, name⟩

end QuestionStatus

/-- How a commit changed a file. -/
inductive ChangeKind where
  | added
  | modified
  | deleted
  | renamed
  | copied
  | typeChanged
  | unknown
  deriving DecidableEq, Repr, Inhabited

namespace ChangeKind

def name : ChangeKind → String
  | added => "added"
  | modified => "modified"
  | deleted => "deleted"
  | renamed => "renamed"
  | copied => "copied"
  | typeChanged => "type_changed"
  | unknown => "unknown"

def all : List ChangeKind := [.added, .modified, .deleted, .renamed, .copied, .typeChanged, .unknown]

end ChangeKind

/-- The change that a status letter stands for; a score may follow the letter. -/
def ChangeKind.ofStatus (status : List Char) : ChangeKind :=
  match status with
  | 'A' :: _ => .added
  | 'M' :: _ => .modified
  | 'D' :: _ => .deleted
  | 'R' :: _ => .renamed
  | 'C' :: _ => .copied
  | 'T' :: _ => .typeChanged
  | _ => .unknown

/-- The letter of a change, if it has one. -/
def ChangeKind.letter? : ChangeKind → Option Char
  | added => some 'A'
  | modified => some 'M'
  | deleted => some 'D'
  | renamed => some 'R'
  | copied => some 'C'
  | typeChanged => some 'T'
  | unknown => none

theorem ChangeKind.ofStatus_letter {k : ChangeKind} {c : Char} (rest : List Char)
    (h : k.letter? = some c) : ofStatus (c :: rest) = k := by
  cases k <;> simp_all [letter?] <;> subst h <;> rfl

end CodeAtlas
