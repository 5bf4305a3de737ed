import CodeAtlas.Proofs.Readback
import CodeAtlas.Proofs.Refusals

/-! # Vectors that are stored

A vector is what its bytes hold, and bytes are what is written of the vector that they hold, but for
the last ones that do not fill a number. So vectors are listed as they were written. -/
namespace CodeAtlas.Store

open Number

/-! ## Numbers and their bytes -/

section

variable (s : Store) (subject now : Int) (embeddings : List Embedding)

/-- The rows of a subject after its embeddings were replaced. -/
lemma rows_replaced :
    (((s.replaceEmbeddings subject now embeddings).2.embeddings.filter
      (·.subjectId = subject)).map Prod.snd) =
        (embeddings.filter (s.takesEmbedding subject now)).map (.new subject now) := by
  rw [replaceEmbeddings_eq]
  refine Table.map_filter_replaced fun r hr => ?_
  obtain ⟨e, -, rfl⟩ := List.mem_map.1 hr
  simp [EmbeddingRow.new]

end

end CodeAtlas.Store
