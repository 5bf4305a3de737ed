import CodeAtlas.Store.Rows

/-! # Tables

A table keeps its rows under numbers that grow and are never given twice. -/
namespace CodeAtlas.Store

/-- Rows in the order of their numbers, and the last number that was given. -/
structure Table (ρ : Type) where
  rows : List (Int × ρ)
  lastId : Int

namespace Table

def empty : Table ρ := ⟨[], 0⟩

def find? (t : Table ρ) (id : Int) : Option ρ := t.rows.lookup id

def contains (t : Table ρ) (id : Int) : Bool := (t.find? id).isSome

/-- The first row that satisfies a condition, with its number. -/
def findWhere (t : Table ρ) (p : ρ → Bool) : Option (Int × ρ) := t.rows.find? fun e => p e.2

/-- The rows that satisfy a condition, with their numbers. -/
def filter (t : Table ρ) (p : ρ → Bool) : List (Int × ρ) := t.rows.filter fun e => p e.2

def nextId (t : Table ρ) : Int := t.lastId + 1

def add (t : Table ρ) (row : ρ) : Table ρ := ⟨t.rows ++ [(t.nextId, row)], t.nextId⟩

def set (t : Table ρ) (id : Int) (row : ρ) : Table ρ :=
  { t with rows := t.rows.map fun e => if e.1 = id then (id, row) else e }

def update (t : Table ρ) (p : ρ → Bool) (f : ρ → ρ) : Table ρ :=
  { t with rows := t.rows.map fun e => if p e.2 then (e.1, f e.2) else e }

def removeWhere (t : Table ρ) (p : ρ → Bool) : Table ρ :=
  { t with rows := t.rows.filter fun e => !p e.2 }

def skipId (t : Table ρ) : Table ρ := { t with lastId := t.nextId }

end Table

end CodeAtlas.Store
