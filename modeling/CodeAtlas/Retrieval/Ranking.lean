import CodeAtlas.Inference.Similarity
import CodeAtlas.Libraries
import CodeAtlas.Store.Records

/-! # Ranking

Embeddings in the order of their similarity to a query, the most similar first and equals in the
order in which they are stored. A similarity that is no number compares with nothing, and may leave
hits without an order. -/
namespace CodeAtlas.Retrieval

open Number

/-- An embedding with its similarity to the query. -/
structure VectorHit where
  stored : StoredEmbedding
  score : Binary32
  deriving Inhabited

/-- Put a hit behind the last hit that is not less similar. The hits are listed from the last to
the first; a similarity that compares with nothing moves nothing. -/
def placeLast (hit : VectorHit) : List VectorHit → List VectorHit
  | [] => [hit]
  | last :: before =>
      if last.score.lt hit.score then last :: placeLast hit before else hit :: last :: before

def ranked (hits : List VectorHit) : List VectorHit :=
  (hits.foldl (fun placed hit => placeLast hit placed) []).reverse

/-- How many hits are sorted by placing one after the other, whatever their scores are. -/
def placedLimit : Nat := 20

/-- Whether being no less similar is an order of hits: each of them has a score that is a number,
or no two of them have different scores. -/
def areOrdered (hits : List VectorHit) : Bool :=
  hits.all (!·.score.isNaN) || hits.all fun a => hits.all fun b => !a.score.lt b.score

/-- All embeddings with their similarity to a query, as they are stored. -/
def hitsOf (query : List Binary32) (stored : List StoredEmbedding) : List VectorHit :=
  stored.map fun s => ⟨s, Inference.cosine query s.embedding.vector⟩

/-- Hits after they are sorted. Many that have no order are as the library arranges them, which may
break off. -/
def sortHits (libraries : Libraries) (hits : List VectorHit) : Option (List VectorHit) :=
  if hits.length ≤ placedLimit || areOrdered hits then some (ranked hits)
  else (libraries.arrange (hits.map (·.score))).map fun places => places.filterMap (hits[·]?)

/-- The `top` most similar embeddings, unless their sort breaks off. -/
def rankEmbeddings (libraries : Libraries) (query : List Binary32) (stored : List StoredEmbedding)
    (top : Nat) : Option (List VectorHit) :=
  (sortHits libraries (hitsOf query stored)).map (·.take top)

end CodeAtlas.Retrieval
