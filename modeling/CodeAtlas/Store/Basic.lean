import CodeAtlas.Store.Records
import CodeAtlas.Text.Lines
import CodeAtlas.Store.Table

/-! # The store

Eight tables and the rows that are to be refused. An operation that fails leaves everything as it
was. Rows are checked before anything else is done with them; then a row whose key is taken changes
the one that has it, and a new row must belong to one that is there. -/
namespace CodeAtlas.Store

/-- The tables by their names. -/
inductive TableName where
  | subjects
  | commits
  | files
  | symbols
  | edges
  | embeddings
  | questions
  | answers
  deriving DecidableEq, Repr

def TableName.text : TableName → String
  | subjects => "subjects"
  | commits => "commits"
  | files => "files"
  | symbols => "symbols"
  | edges => "dependency_edges"
  | embeddings => "embeddings"
  | questions => "questions"
  | answers => "answers"

def TableName.all : List TableName :=
  [.subjects, .commits, .files, .symbols, .edges, .embeddings, .questions, .answers]

/-- What may happen to a row that is written. -/
inductive RowEvent where
  | insert
  | update
  deriving DecidableEq, Repr

/-- Rows to refuse: those that have a value in a column. -/
structure Refusal where
  table : TableName
  event : RowEvent
  column : String
  value : Cell
  deriving DecidableEq, Repr

end Store

/-- All that is stored. -/
structure Store where
  subjects : Store.Table Store.SubjectRow
  commits : Store.Table Store.CommitRow
  files : Store.Table Store.FileRow
  symbols : Store.Table Store.SymbolRow
  edges : Store.Table Store.EdgeRow
  embeddings : Store.Table Store.EmbeddingRow
  questions : Store.Table Store.QuestionRow
  answers : Store.Table Store.AnswerRow
  refusals : List Store.Refusal

namespace Store

def empty : Store := ⟨.empty, .empty, .empty, .empty, .empty, .empty, .empty, .empty, []⟩

def allow (s : Store) (event : RowEvent) (table : TableName) (columns : List (Column ρ)) (row : ρ) :
    Except StoreError Unit :=
  let isRefused := s.refusals.any fun r =>
    r.table == table && r.event == event &&
      columns.any fun c => c.name == r.column && (c.get row).equals r.value
  if isRefused then .error .refused else .ok ()

def belongs (present : Bool) : Except StoreError Unit :=
  if present then .ok () else .error .foreignKey

/-- The number of a size in a column: as 64 bits with a sign. -/
def columnInt (n : Nat) : Int :=
  let word := n % 0x10000000000000000
  if word < 0x8000000000000000 then word else word - 0x10000000000000000

/-- The size that comes back from a column: one whose number is below zero is zero. -/
def columnSize (n : Nat) : Nat := (columnInt n).toNat

/-- At most `limit` rows. A limit beyond the greatest number of 64 bits with a sign is none. -/
def limited (limit : Nat) (rows : List α) : List α :=
  if limit < 0x8000000000000000 then rows.take limit else rows

/-- Put an element before the first one that it may stand before. -/
def insertSorted (le : α → α → Bool) (a : α) : List α → List α
  | [] => [a]
  | b :: rest => if le a b then a :: b :: rest else b :: insertSorted le a rest

/-- A list in order. Elements that may stand either way stay as they are. -/
def sorted (le : α → α → Bool) : List α → List α
  | [] => []
  | a :: rest => insertSorted le a (sorted le rest)

/-- Rows in ascending order of a key; rows of equal keys stay as they are. -/
def orderedBy (le : κ → κ → Bool) (key : ρ → κ) : List (Int × ρ) → List (Int × ρ) :=
  sorted fun a b => le (key a.2) (key b.2)

def textLe (a b : String) : Bool := !decide (b < a)

/-- Whether a text contains one of some words, ASCII letters taken for their small ones. -/
def mentions (words : List String) (text : String) : Bool :=
  words.any fun w =>
    Text.occursIn (w.toList.map Char.toLower) (text.toList.map Char.toLower)

end Store

end CodeAtlas
