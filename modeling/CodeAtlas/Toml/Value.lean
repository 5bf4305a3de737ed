import CodeAtlas.Number.Binary

/-! # Settings documents as values

A document is a table. Tables remember how they came about, which decides what may be added to
them: a key is never given a value twice, and a table is never begun twice. -/
namespace CodeAtlas.Toml

open Number

/-- How a table came about: by a header of its own, as part of a longer header, as part of a
dotted key, or in braces. -/
inductive Origin where
  | header
  | implied
  | dotted
  | inline
  deriving DecidableEq, Repr

inductive Value where
  | string (text : String)
  | integer (n : Int)
  | float (x : Binary64)
  | boolean (b : Bool)
  | dateTime
  | array (ofTables : Bool) (items : List Value)
  | table (origin : Origin) (entries : List (String × Value))
  deriving Repr, Inhabited

/-- The entries of a table in the order in which they were given. -/
abbrev Entries := List (String × Value)

namespace Entries

def find? (entries : Entries) (key : String) : Option Value := entries.lookup key

/-- Give a key another value, or a first one at the end. -/
def put (entries : Entries) (key : String) (v : Value) : Entries :=
  match entries with
  | [] => [(key, v)]
  | (k, w) :: rest => if k = key then (k, v) :: rest else (k, w) :: put rest key v

/-- Change the table that a path leads to. Tables that are missing on the way are made; a path of
dotted keys may not pass through a table with a header of its own. The change is also told how the
table came about. -/
def update (dotted : Bool) (change : Origin → Entries → Option Entries) :
    (path : List String) → Origin → Entries → Option Entries
  | [], origin, entries => change origin entries
  | key :: path, _, entries =>
      match entries.find? key with
      | none => do
          let origin := if dotted then .dotted else .implied
          return entries.put key (.table origin (← update dotted change path origin []))
      | some (.table origin inner) =>
          if origin = .inline ∨ (dotted ∧ origin = .header) then none
          else do return entries.put key (.table origin (← update dotted change path origin inner))
      | some (.array true items) =>
          match items.getLast? with
          | some (.table origin inner) => do
              let last ← update dotted change path origin inner
              return entries.put key (.array true (items.dropLast ++ [.table origin last]))
          | _ => none
      | some _ => none

def assign (origin : Origin) (entries : Entries) (path : List String) (key : String) (v : Value) :
    Option Entries :=
  let give (origin : Origin) (inner : Entries) : Option Entries :=
    -- A dotted key ends in a table that dotted keys made, a plain key in any other.
    if (origin == .dotted) == path.isEmpty then none
    else if (inner.find? key).isSome then none
    else some (inner ++ [(key, v)])
  update true give path origin entries

end Entries

/-- A key, its table's path, and its value. -/
structure Assignment where
  path : List String
  key : String
  value : Value

def Entries.assignAll (entries : Entries) (origin : Origin) (assignments : List Assignment) :
    Option Entries :=
  assignments.foldlM (fun es a => es.assign origin a.path a.key a.value) entries

/-- A part of a document: its header, whether the header adds to an array of tables, and its
assignments. -/
structure Section where
  path : List String
  key : String
  ofArray : Bool
  assignments : List Assignment

def Entries.addSection (document : Entries) (s : Section) : Option Entries :=
  let filled (entries : Entries) : Option Value := do
    return .table .header (← entries.assignAll .header s.assignments)
  let add (_ : Origin) (parent : Entries) : Option Entries :=
    match s.ofArray, parent.find? s.key with
    | false, none => do return parent.put s.key (← filled [])
    | false, some (.table .implied inner) => do return parent.put s.key (← filled inner)
    | true, none => do return parent.put s.key (.array true [← filled []])
    | true, some (.array true items) => do
        return parent.put s.key (.array true (items ++ [← filled []]))
    | _, _ => none
  update false add s.path .header document

/-- The document that top assignments and sections make. -/
def document (top : List Assignment) (sections : List Section) : Option Entries := do
  sections.foldlM Entries.addSection (← Entries.assignAll [] .header top)

end CodeAtlas.Toml
