import CodeAtlas.Kinds
import CodeAtlas.Language
import CodeAtlas.Store.Documents
import CodeAtlas.Store.Error

/-! # Coded columns

A column of text may hold the text of a word or of a document. The text is what is stored; its value
is read from it whenever it is asked for. -/
namespace CodeAtlas.Store

open Number

/-- How values are written in a column, and read from it. -/
structure Codec (α : Type) where
  encode : α → String
  /-- The value of a text, or what is wrong with it. -/
  decode : String → Except String α

/-- The text of a column that is read as a value. -/
structure Coded (α : Type) where
  text : String
  deriving DecidableEq, Repr, Inhabited

def Codec.write (codec : Codec α) (a : α) : Coded α := ⟨codec.encode a⟩

def Coded.get (codec : Codec α) (c : Coded α) : Except String α := codec.decode c.text

/-- The value in a column of a table, which is counted from zero. -/
def Coded.getAt (codec : Codec α) (index : Nat) (c : Coded α) : Except StoreError α :=
  match c.get codec with
  | .ok a => .ok a
  | .error reason => .error (.conversion index reason)

/-- A value is read again from the text that is written of it. -/
def Codec.Keeps (codec : Codec α) (a : α) : Prop := codec.decode (codec.encode a) = .ok a

/-- Some value is read from the text that is written of a value. -/
def Codec.Reads (codec : Codec α) (a : α) : Prop := ∃ b, codec.decode (codec.encode a) = .ok b

theorem Codec.Keeps.reads {codec : Codec α} {a : α} (h : codec.Keeps a) : codec.Reads a := ⟨a, h⟩

theorem Codec.Keeps.getAt {codec : Codec α} {a : α} (h : codec.Keeps a) (index : Nat) :
    (codec.write a).getAt codec index = .ok a := by
  have read : (codec.write a).get codec = .ok a := h
  rw [Coded.getAt, read]

theorem Codec.reads_of_getAt {codec : Codec α} {a b : α} {index : Nat}
    (h : (codec.write a).getAt codec index = .ok b) : codec.Reads a := by
  rw [Coded.getAt] at h
  split at h
  next c read => exact ⟨c, read⟩
  next => cases h

/-! ## Words -/

def wordCodec (v : Vocabulary α) : Codec α where
  encode := v.word
  decode text :=
    match v.read text with
    | .ok a => .ok a
    | .error e => .error e.message

theorem wordCodec_keeps {v : Vocabulary α} (h : v.Complete) (a : α) : (wordCodec v).Keeps a := by
  have read : v.read (v.word a) = .ok a := h a
  simp only [Codec.Keeps, wordCodec, read]

def subjectStatus : Codec SubjectStatus := wordCodec SubjectStatus.vocabulary
def questionStatus : Codec QuestionStatus := wordCodec QuestionStatus.vocabulary
def symbolKind : Codec SymbolKind := wordCodec SymbolKind.vocabulary
def nodeKind : Codec NodeKind := wordCodec NodeKind.vocabulary
def edgeKind : Codec EdgeKind := wordCodec EdgeKind.vocabulary
def entityKind : Codec EntityKind := wordCodec EntityKind.vocabulary
def contentKind : Codec ContentKind := wordCodec ContentKind.vocabulary
def language : Codec Language := wordCodec Language.vocabulary

/-! ## Documents -/

def documentCodec (toJson : α → Json) (read : Json.Reader α) : Codec α where
  encode a := (toJson a).render
  decode text :=
    match Json.readAll read text with
    | .ok a => .ok a
    | .error e => .error e.message

def strings : Codec (List String) := documentCodec Json.strings (Json.readList Json.readString)

def changes : Codec (List FileChange) :=
  documentCodec (fun cs => .array (cs.map FileChange.toJson)) (Json.readList changeShape.read)

def parameters : Codec (List Parameter) :=
  documentCodec (fun ps => .array (ps.map Parameter.toJson)) (Json.readList parameterShape.read)

def metadata : Codec Json := documentCodec id Json.readValue

/-- A document has no numbers that are not finite: such a score is written as null, which is read as
none. -/
def sources : Codec AnswerSources := documentCodec AnswerSources.toJson sourcesShape.read

def context : Codec (List ContextChunk) :=
  documentCodec (fun cs => .array (cs.map ContextChunk.toJson)) (Json.readList chunkShape.read)

end CodeAtlas.Store
