import CodeAtlas.Json.Reader
import CodeAtlas.Json.Writer
import CodeAtlas.Store.Basic

/-! # Images of the store

The store as the contents of a file: a document that has the rows of each table, cell by cell. A
file without contents is an empty store. What is to be refused is not in the image. -/
namespace CodeAtlas.Store

open Number

/-! ## Cells -/

def Cell.toJson : Cell → Json
  | null => .null
  | int n => .int n
  | text s => .string s
  | real x => .object [("real", .int x.bits.toNat)]
  | bytes b => .object [("bytes", .string (String.ofList (Digest.hex b)))]

def Cell.ofJson? : Json → Option Cell
  | .null => some .null
  | .number (.int n) => some (.int n)
  | .string s => some (.text s)
  | .object [("real", .number (.int n))] => some (.real ⟨UInt64.ofNat n.toNat⟩)
  | .object [("bytes", .string s)] => (Digest.ofHex? s.toList).map .bytes
  | _ => none

/-! ## Tables -/

def rowToJson (columns : List (Column ρ)) (row : Int × ρ) : Json :=
  .array (.int row.1 :: columns.map fun c => (c.get row.2).toJson)

def rowOfJson? [Inhabited ρ] (columns : List (Column ρ)) : Json → Option (Int × ρ)
  | .array (.number (.int id) :: cells) => do
      let cells ← cells.mapM Cell.ofJson?
      guard (cells.length = columns.length)
      return (id, (columns.zip cells).foldl (fun row c => c.1.set c.2 row) default)
  | _ => none

def Table.toJson (columns : List (Column ρ)) (t : Table ρ) : Json :=
  .object [("last", .int t.lastId), ("rows", .array (t.rows.map (rowToJson columns)))]

def Table.ofJson? [Inhabited ρ] (columns : List (Column ρ)) : Json → Option (Table ρ)
  | .object [("last", .number (.int last)), ("rows", .array rows)] => do
      return ⟨← rows.mapM (rowOfJson? columns), last⟩
  | _ => none

/-! ## Stores -/

def toJson (s : Store) : Json :=
  .object [
    (TableName.subjects.text, s.subjects.toJson SubjectRow.columns),
    (TableName.commits.text, s.commits.toJson CommitRow.columns),
    (TableName.files.text, s.files.toJson FileRow.columns),
    (TableName.symbols.text, s.symbols.toJson SymbolRow.columns),
    (TableName.edges.text, s.edges.toJson EdgeRow.columns),
    (TableName.embeddings.text, s.embeddings.toJson EmbeddingRow.columns),
    (TableName.questions.text, s.questions.toJson QuestionRow.columns),
    (TableName.answers.text, s.answers.toJson AnswerRow.columns)]

def ofJson? (j : Json) : Option Store := do
  return {
    subjects := ← (← j.get? TableName.subjects.text) |> Table.ofJson? SubjectRow.columns
    commits := ← (← j.get? TableName.commits.text) |> Table.ofJson? CommitRow.columns
    files := ← (← j.get? TableName.files.text) |> Table.ofJson? FileRow.columns
    symbols := ← (← j.get? TableName.symbols.text) |> Table.ofJson? SymbolRow.columns
    edges := ← (← j.get? TableName.edges.text) |> Table.ofJson? EdgeRow.columns
    embeddings := ← (← j.get? TableName.embeddings.text) |> Table.ofJson? EmbeddingRow.columns
    questions := ← (← j.get? TableName.questions.text) |> Table.ofJson? QuestionRow.columns
    answers := ← (← j.get? TableName.answers.text) |> Table.ofJson? AnswerRow.columns
    refusals := [] }

def image (s : Store) : ByteArray := s.toJson.render.toUTF8

def ofImage? (content : ByteArray) : Option Store :=
  if content.size = 0 then some empty
  else do
    let text ← String.fromUTF8? content
    ofJson? (← (Json.parse text).toOption)

end CodeAtlas.Store
