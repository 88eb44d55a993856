import Courseware.Relevance.Retrieval

/-! # What retrieval selects

Retrieval selects as many of the chunks as the limit allows (`length_retrieve`) and nothing else
(`mem_of_mem_retrieve`), whether or not the chunks can be ranked. The context they make begins with
the text of the first one. -/

namespace Courseware

namespace Scoring

variable {scoring : Scoring} {task : Task} {limit : Nat} {chunks : List Chunk}

/-- A ranking has every chunk once. -/
theorem map_chunk_rank_perm {ranked : List ScoredChunk}
    (h : scoring.rank task chunks = .ok ranked) : (ranked.map (·.chunk)).Perm chunks := by
  rw [rank] at h
  split at h
  · cases h
    have hperm := List.mergeSort_perm (chunks.map (scoring.scored task)) Relevance.noLess
    have hchunks := hperm.map (·.chunk)
    rw [List.map_map] at hchunks
    have hscored : ScoredChunk.chunk ∘ scoring.scored task = id := by
      funext chunk
      rfl
    rwa [hscored, List.map_id] at hchunks
  · cases h

/-- **Retrieval selects as many chunks as it may.** -/
theorem length_retrieve (scoring : Scoring) (task : Task) (limit : Nat) (chunks : List Chunk) :
    (scoring.retrieve task limit chunks).length = min limit chunks.length := by
  rw [retrieve]
  split
  · rename_i hfew
    rw [Nat.min_eq_right hfew]
  · split
    · exact List.length_take
    · rename_i ranked hranked
      have hall := (map_chunk_rank_perm hranked).length_eq
      rw [List.length_map] at hall
      rw [List.length_mergeSort, List.length_map, List.length_take, hall]

/-- **Retrieval selects nothing but chunks of the text.** -/
theorem mem_of_mem_retrieve {chunk : Chunk} (h : chunk ∈ scoring.retrieve task limit chunks) :
    chunk ∈ chunks := by
  rw [retrieve] at h
  split at h
  · exact h
  · split at h
    · exact List.mem_of_mem_take h
    · rename_i ranked hranked
      rw [List.mem_mergeSort, List.map_take] at h
      exact (map_chunk_rank_perm hranked).subset (List.mem_of_mem_take h)

/-- Retrieval that may select a chunk does, if there is one. -/
theorem retrieve_ne_nil (hlimit : 0 < limit) (hchunks : chunks ≠ []) :
    scoring.retrieve task limit chunks ≠ [] := by
  have hlength := length_retrieve scoring task limit chunks
  have hpos := List.length_pos_iff.mpr hchunks
  apply List.ne_nil_of_length_pos
  omega

/-- A single chunk is selected. -/
theorem retrieve_singleton (hlimit : 0 < limit) (chunk : Chunk) :
    scoring.retrieve task limit [chunk] = [chunk] := by
  rw [retrieve, if_pos]
  exact hlimit

end Scoring

namespace Chunk

/-- A single chunk is its own context. -/
@[simp] theorem combine_singleton (chunk : Chunk) : combine [chunk] = chunk.text :=
  String.intercalate_singleton

/-- The context of several chunks begins with the first one. -/
theorem prefix_combine_cons (chunk : Chunk) (rest : List Chunk) :
    chunk.text.toList <+: (combine (chunk :: rest)).toList := by
  cases rest with
  | nil => simp
  | cons next rest =>
      rw [combine, List.map_cons, List.map_cons, String.intercalate_cons_cons]
      simp

end Chunk

end Courseware
