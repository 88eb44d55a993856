import Mathlib.Data.List.Nodup
import Courseware.Proofs.Relevance.Order
import Courseware.Proofs.Relevance.Retrieval

/-! # Which chunks are selected

Chunks come with increasing ordinals. Whatever the scores are, the selected ones stand in the order
of the text (`sublist_retrieve`). A ranking is by relevance and then by place: it is sorted by the
keys of the scores, and chunks with the same key keep their order (`pairwise_rank`).

Of two chunks the one with the higher score `Beats` the other, and of two with equal scores the
earlier one. No chunk that is left out beats one that is selected, except that a later chunk whose
score is zero is selected before an earlier one whose score is negative zero
(`retrieve_selection`). -/

namespace Courseware

open Relevance

/-- **Chunks in the order of the text.** -/
def Chunk.Ordered (chunks : List Chunk) : Prop := chunks.Pairwise fun a b => a.ordinal < b.ordinal

/-- Chunks in the order of the text are told apart by their ordinals. -/
theorem Chunk.Ordered.eq_of_ordinal {chunks : List Chunk} (h : Chunk.Ordered chunks) {a b : Chunk}
    (ha : a ∈ chunks) (hb : b ∈ chunks) (hab : a.ordinal = b.ordinal) : a = b := by
  have hnodup : (chunks.map (·.ordinal)).Nodup :=
    List.pairwise_map.mpr (h.imp fun hlt => Nat.ne_of_lt hlt)
  exact List.inj_on_of_nodup_map hnodup ha hb hab

namespace ScoredChunk

/-- **Whether a scored chunk beats another**: by a higher score, or by an earlier place if the
scores are equal numbers. -/
def Beats (a b : ScoredChunk) : Prop :=
  b.score < a.score ∨ a.score == b.score ∧ a.chunk.ordinal < b.chunk.ordinal

/-- **Whether a scored chunk stands before another in a ranking**: by a higher key, or by an earlier
place if the keys are the same. -/
def Precedes (a b : ScoredChunk) : Prop :=
  orderKey b.score < orderKey a.score ∨
    orderKey a.score = orderKey b.score ∧ a.chunk.ordinal < b.chunk.ordinal

/-- **What stands first in a ranking beats what stands behind it**, unless it is a later chunk with
zero before an earlier one with negative zero. -/
theorem Precedes.beats_iff {a b : ScoredChunk} (h : a.Precedes b) (ha : a.score.isNaN = false)
    (hb : b.score.isNaN = false) (hne : a.chunk.ordinal ≠ b.chunk.ordinal) :
    a.Beats b ↔
      ¬ (a.score = 0.0 ∧ b.score = -0.0 ∧ b.chunk.ordinal < a.chunk.ordinal) := by
  have hzeros : level 0.0 = level (-0.0) ∧ orderKey (-0.0) < orderKey 0.0 := by decide +kernel
  rw [Beats, lt_iff hb ha, beq_iff ha hb]
  rcases h with hkey | ⟨hkey, hplace⟩
  · rcases orderKey_lt_iff.mp hkey with hlevel | ⟨hbzero, hazero⟩
    · refine iff_of_true (Or.inl hlevel) ?_
      rintro ⟨hazero, hbzero, -⟩
      rw [hazero, hbzero, hzeros.1] at hlevel
      exact Int.lt_irrefl _ hlevel
    · -- The two zeros are equal numbers, so the places decide.
      simp only [hazero, hbzero, hzeros.1, true_and, Int.lt_irrefl, false_or]
      omega
  · have hscore := eq_of_orderKey hkey
    refine iff_of_true (Or.inr ⟨congrArg level hscore, hplace⟩) ?_
    rintro ⟨hazero, hbzero, -⟩
    rw [hazero, hbzero] at hkey
    have hless := hzeros.2
    omega

end ScoredChunk

namespace Scoring

variable {scoring : Scoring} {task : Task} {limit : Nat} {chunks : List Chunk}

/-! ## Scores are numbers -/

/-- Moving a finite float into the range from zero to one leaves it finite. -/
theorem isFinite_clampUnit {x : Float} (h : x.isFinite = true) : (clampUnit x).isFinite = true := by
  have hzero : (0 : Float).isFinite = true := by decide +kernel
  have hone : (1 : Float).isFinite = true := by decide +kernel
  unfold clampUnit
  split
  · exact hzero
  · split
    · exact hone
    · exact h

/-- A score that can be computed is finite. -/
theorem isFinite_of_score {chunk : Chunk} {score : Float}
    (h : scoring.score task chunk = .ok score) : score.isFinite = true := by
  have hzero : (0 : Float).isFinite = true := by decide +kernel
  unfold Scoring.score at h
  extract_lets cs raw at h
  split at h
  · cases h
    exact hzero
  · split at h
    · rename_i hfinite
      cases h
      exact isFinite_clampUnit hfinite
    · cases h

/-- **The score of a chunk is a number**, whatever the constants are. -/
theorem isNaN_scored (scoring : Scoring) (task : Task) (chunk : Chunk) :
    (scoring.scored task chunk).score.isNaN = false := by
  have hzero : (0 : Float).isNaN = false := by decide +kernel
  rw [scored]
  split
  · rename_i score hscore
    exact isNaN_of_isFinite (isFinite_of_score hscore)
  · exact hzero

/-! ## The order of the text -/

/-- Chunks that are sorted by their ordinals are in the order of the text again. -/
theorem mergeSort_ordinal_eq {kept ordered : List Chunk} (hperm : kept.Perm ordered)
    (hordered : Chunk.Ordered ordered) :
    (kept.mergeSort fun a b => a.ordinal ≤ b.ordinal) = ordered := by
  have hsorted : (kept.mergeSort fun a b => a.ordinal ≤ b.ordinal).Pairwise
      fun a b => a.ordinal ≤ b.ordinal := by
    have hpairs := @List.pairwise_mergeSort Chunk (fun a b => a.ordinal ≤ b.ordinal)
      (by simp; omega) (by simp; omega) kept
    simpa using hpairs
  have hall := (List.mergeSort_perm kept fun a b => a.ordinal ≤ b.ordinal).trans hperm
  refine hall.eq_of_pairwise ?_ hsorted (hordered.imp Nat.le_of_lt)
  intro a b ha hb hab hba
  exact hordered.eq_of_ordinal (hall.subset ha) hb (Nat.le_antisymm hab hba)

/-- **What is selected stands in the order of the text.** -/
theorem sublist_retrieve (scoring : Scoring) (task : Task) (limit : Nat)
    (h : Chunk.Ordered chunks) : (scoring.retrieve task limit chunks).Sublist chunks := by
  rw [retrieve]
  split
  · exact List.Sublist.refl chunks
  · split
    · exact List.take_sublist limit chunks
    · rename_i ranked hranked
      -- What is kept of the ranking is, in some order, a part of the text.
      have hkept : ((ranked.take limit).map (·.chunk)).Sublist (ranked.map (·.chunk)) :=
        (List.take_sublist limit ranked).map _
      obtain ⟨ordered, hperm, hsub⟩ := List.exists_perm_sublist hkept (map_chunk_rank_perm hranked)
      rw [mergeSort_ordinal_eq hperm.symm (h.sublist hsub)]
      exact hsub

/-! ## The order of a ranking -/

/-- A ranking is there when the weights are valid, and then it is sorted by keys. -/
theorem rank_eq_ok_iff {ranked : List ScoredChunk} :
    scoring.rank task chunks = .ok ranked ↔
      (scoring.weights task).valid = true ∧
        ranked = (chunks.map (scoring.scored task)).mergeSort noLess := by
  rw [rank]
  by_cases h : (scoring.weights task).valid = true
  · rw [if_pos h, Except.ok.injEq, eq_comm]
    simp [h]
  · rw [if_neg h]
    simp [h]

/-- The order of a ranking is transitive. -/
theorem noLess_trans (a b c : ScoredChunk) (hab : noLess a b = true) (hbc : noLess b c = true) :
    noLess a c = true := by
  rw [noLess, decide_eq_true_iff] at hab hbc ⊢
  exact Int.le_trans hbc hab

/-- The order of a ranking is total. -/
theorem noLess_total (a b : ScoredChunk) : (noLess a b || noLess b a) = true := by
  rw [noLess, noLess, Bool.or_eq_true, decide_eq_true_iff, decide_eq_true_iff]
  exact Int.le_total _ _

/-- A ranking is sorted by keys. -/
theorem pairwise_noLess (scoredChunks : List ScoredChunk) :
    (scoredChunks.mergeSort noLess).Pairwise fun a b => orderKey b.score ≤ orderKey a.score := by
  have hpairs := List.pairwise_mergeSort noLess_trans noLess_total scoredChunks
  exact hpairs.imp of_decide_eq_true

/-- **Scored chunks with the same key keep their order.** -/
theorem filter_mergeSort_noLess (scoredChunks : List ScoredChunk) (key : Int) :
    (scoredChunks.mergeSort noLess).filter (orderKey ·.score = key) =
      scoredChunks.filter (orderKey ·.score = key) := by
  have hsame : (scoredChunks.filter (orderKey ·.score = key)).Pairwise
      fun a b => noLess a b := by
    rw [List.pairwise_filter]
    apply List.pairwise_of_forall
    intro a b ha hb
    simp_all [noLess]
  have hsub := List.sublist_mergeSort noLess_trans noLess_total hsame List.filter_sublist
  -- One class is a part of the other, and they are equally long.
  have hclass := hsub.filter (orderKey ·.score = key)
  rw [List.filter_filter] at hclass
  simp only [Bool.and_self] at hclass
  have hperm := (List.mergeSort_perm scoredChunks noLess).filter (orderKey ·.score = key)
  exact (hclass.eq_of_length hperm.length_eq.symm).symm

/-- **A ranking is by relevance and then by place.** -/
theorem pairwise_rank {ranked : List ScoredChunk} (h : Chunk.Ordered chunks)
    (hranked : scoring.rank task chunks = .ok ranked) : ranked.Pairwise ScoredChunk.Precedes := by
  obtain ⟨-, rfl⟩ := rank_eq_ok_iff.mp hranked
  have hplaces : (chunks.map (scoring.scored task)).Pairwise
      fun a b => a.chunk.ordinal < b.chunk.ordinal := List.pairwise_map.mpr h
  apply List.pairwise_of_forall_sublist
  intro a b hab
  have hkeys := (pairwise_noLess _).forall_sublist hab
  by_cases hsame : orderKey a.score = orderKey b.score
  · -- A pair with the same key stands in the same order among all chunks with that key.
    have hclass := hab.filter (orderKey ·.score = orderKey b.score)
    rw [filter_mergeSort_noLess] at hclass
    simp only [List.filter_cons, hsame, decide_true, if_true, List.filter_nil] at hclass
    exact Or.inr ⟨hsame, hplaces.forall_sublist (hclass.trans List.filter_sublist)⟩
  · left
    omega

/-! ## What is selected -/

/-- **What retrieval selects.** -/
structure Selection (scoring : Scoring) (task : Task) (limit : Nat)
    (chunks selected : List Chunk) : Prop where
  /-- The selected chunks stand in the order of the text. -/
  sublist : selected.Sublist chunks
  /-- They are as many as the limit allows. -/
  length : selected.length = min limit chunks.length
  /-- When chunks cannot be ranked, they are the first ones. -/
  unranked : (scoring.weights task).valid = false → selected = chunks.take limit
  /-- When chunks can be ranked, each of them beats each chunk that is left out, unless it has score
  zero and the other one has score negative zero at an earlier place. -/
  ranked : (scoring.weights task).valid = true → ∀ c ∈ selected, ∀ d ∈ chunks, d ∉ selected →
    ((scoring.scored task c).Beats (scoring.scored task d) ↔
      ¬ ((scoring.scored task c).score = 0.0 ∧ (scoring.scored task d).score = -0.0 ∧
        d.ordinal < c.ordinal))

/-- When chunks cannot be ranked, the first ones are selected. -/
theorem retrieve_of_not_valid (h : (scoring.weights task).valid = false) :
    scoring.retrieve task limit chunks = chunks.take limit := by
  rw [retrieve]
  split
  · rename_i hfew
    rw [List.take_of_length_le hfew]
  · rw [rank, if_neg (by simp [h])]

/-- The selected chunks are those that stand first in the ranking. -/
theorem mem_retrieve_iff {ranked : List ScoredChunk} (hmany : limit < chunks.length)
    (hranked : scoring.rank task chunks = .ok ranked) {chunk : Chunk} :
    chunk ∈ scoring.retrieve task limit chunks ↔ scoring.scored task chunk ∈ ranked.take limit := by
  have hscored : ∀ a ∈ ranked, a = scoring.scored task a.chunk := by
    intro a ha
    obtain ⟨-, rfl⟩ := rank_eq_ok_iff.mp hranked
    rw [List.mem_mergeSort, List.mem_map] at ha
    obtain ⟨c, -, rfl⟩ := ha
    rfl
  rw [retrieve, if_neg (Nat.not_le.mpr hmany), hranked]
  simp only [List.mem_mergeSort, List.mem_map]
  constructor
  · rintro ⟨a, ha, rfl⟩
    rw [← hscored a (List.mem_of_mem_take ha)]
    exact ha
  · intro h
    exact ⟨_, h, rfl⟩

/-- Every chunk stands in the ranking. -/
theorem scored_mem_rank {ranked : List ScoredChunk} (hranked : scoring.rank task chunks = .ok ranked)
    {chunk : Chunk} (h : chunk ∈ chunks) : scoring.scored task chunk ∈ ranked := by
  obtain ⟨-, rfl⟩ := rank_eq_ok_iff.mp hranked
  exact List.mem_mergeSort.mpr (List.mem_map_of_mem h)

/-- **Retrieval selects the chunks that no other beats**, in the order of the text. -/
theorem retrieve_selection (scoring : Scoring) (task : Task) (limit : Nat) (chunks : List Chunk)
    (h : Chunk.Ordered chunks) :
    Selection scoring task limit chunks (scoring.retrieve task limit chunks) where
  sublist := sublist_retrieve scoring task limit h
  length := length_retrieve scoring task limit chunks
  unranked := retrieve_of_not_valid
  ranked := by
    intro hvalid c hc d hd hleft
    have hmany : limit < chunks.length := by
      refine Nat.lt_of_not_le fun hfew => hleft ?_
      rw [retrieve, if_pos hfew]
      exact hd
    obtain ⟨ranked, hranked⟩ : ∃ ranked, scoring.rank task chunks = .ok ranked :=
      ⟨_, rank_eq_ok_iff.mpr ⟨hvalid, rfl⟩⟩
    have hne : c.ordinal ≠ d.ordinal := by
      intro hsame
      rw [h.eq_of_ordinal (mem_of_mem_retrieve hc) hd hsame] at hc
      exact hleft hc
    -- The one that is left out stands behind the limit of the ranking.
    rw [mem_retrieve_iff hmany hranked] at hc hleft
    have hrest := scored_mem_rank hranked hd
    have hpairs := pairwise_rank h hranked
    rw [← List.take_append_drop limit ranked] at hrest hpairs
    have hd' := (List.mem_append.mp hrest).resolve_left hleft
    have hfirst := (List.pairwise_append.mp hpairs).2.2 _ hc _ hd'
    exact hfirst.beats_iff (isNaN_scored ..) (isNaN_scored ..) hne

/-- Of three chunks the first and the last one are selected, since only these two have keywords. -/
theorem retrieve_selection_of_three :
    let chunks := Chunk.sequence ["why and how", "lorem ipsum dolor", "what is this"]
    Chunk.Ordered chunks ∧ Selection {} .quiz 2 chunks (retrieve {} .quiz 2 chunks) ∧
      (retrieve {} .quiz 2 chunks).map Chunk.text = ["why and how", "what is this"] := by
  intro chunks
  have hordered : Chunk.Ordered chunks := by
    unfold Chunk.Ordered
    decide
  let first : Chunk := ⟨"why and how", 0⟩
  let second : Chunk := ⟨"lorem ipsum dolor", 1⟩
  let third : Chunk := ⟨"what is this", 2⟩
  have hchunks : chunks = [first, second, third] := rfl
  have hthird : noLess (scored {} .quiz first) (scored {} .quiz third) = false := by
    decide +kernel
  have hsecond : noLess (scored {} .quiz first) (scored {} .quiz second) = true := by
    decide +kernel
  have hrank : rank {} .quiz chunks =
      .ok [scored {} .quiz third, scored {} .quiz first, scored {} .quiz second] := by
    refine rank_eq_ok_iff.mpr ⟨by decide +kernel, ?_⟩
    simp [hchunks, List.mergeSort, hsecond, hthird]
  refine ⟨hordered, retrieve_selection {} .quiz 2 _ hordered, ?_⟩
  rw [retrieve, hrank]
  simp [hchunks, scored, first, third, List.mergeSort]

/-- Constants that give a chunk with a keyword the score negative zero and one without any the score
zero. -/
def zeros : Scoring := { keywordWeight := 1, lengthWeight := -0.0, densityAmplification := -0.0 }

/-- Of two chunks with equal scores the later one is selected, though the earlier one beats it. -/
theorem retrieve_later_zero :
    let first : Chunk := ⟨"what", 0⟩
    let second : Chunk := ⟨"zzzz", 1⟩
    (zeros.weights .quiz).valid = true ∧ Chunk.Ordered [first, second] ∧
      zeros.retrieve .quiz 1 [first, second] = [second] ∧
      (zeros.scored .quiz first).Beats (zeros.scored .quiz second) := by
  intro first second
  have hvalid : (zeros.weights .quiz).valid = true := by decide +kernel
  have hfirst : (zeros.scored .quiz first).score = -0.0 := by decide +kernel
  have hsecond : (zeros.scored .quiz second).score = 0.0 := by decide +kernel
  have hkeys : noLess (zeros.scored .quiz first) (zeros.scored .quiz second) = false := by
    rw [noLess, hfirst, hsecond]
    decide +kernel
  have hrank : zeros.rank .quiz [first, second] =
      .ok [zeros.scored .quiz second, zeros.scored .quiz first] := by
    refine rank_eq_ok_iff.mpr ⟨hvalid, ?_⟩
    simp [List.mergeSort, hkeys]
  refine ⟨hvalid, ?_, ?_, ?_⟩
  · simp [Chunk.Ordered, first, second]
  · rw [retrieve, hrank]
    simp [scored]
  · right
    rw [hfirst, hsecond]
    decide +kernel

end Scoring

end Courseware
