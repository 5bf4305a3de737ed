import CodeAtlas.Number.Binary
import CodeAtlas.Outline.Script.Syntax

/-! # Libraries

What is left to others: to read a script as a syntax tree, and to sort many scores by a comparison
that is no order. Of such a sort only this is known, that it gives back all that it was given,
unless it breaks off. -/
namespace CodeAtlas

open Number

structure Libraries where
  parse : Outline.Script.Parser
  /-- The places of the scores as they are sorted. -/
  arrange : List Binary32 → Option (List Nat)
  arrange_perm : ∀ {scores places}, arrange scores = some places →
    places.Perm (List.range scores.length)

/-- Nothing is read, and nothing is sorted. -/
def Libraries.absent : Libraries where
  parse _ _ := none
  arrange _ := none
  arrange_perm := nofun

end CodeAtlas
