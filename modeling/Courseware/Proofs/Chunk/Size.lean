import Courseware.Proofs.Chunk.Split

/-! # How large chunks are

A packed piece passes its limit only as one segment behind a seed (`Fits`): a longer running piece is
closed before anything joins it. A window is limited in bytes, and a chunk that it cuts may still
have more tokens than the budget, because short words are worth more tokens than their bytes.

* **A chunk of packed segments** is no longer than its budget, or than the overlap and the longest
  way from a boundary to the next one (`nearBudget_of_mem_segment_chunks`).
* **A chunk of a text without boundaries** is within the budget exactly when it has few enough
  words, and never has more than 2.6 times the tokens of the budget (`fitsWindow_of_mem_split`).
-/

namespace Courseware

open Text

/-! ## The distances between boundaries -/

namespace Boundary

/-- **The longest way from an offset of a row to the next one.** -/
def longestGap : List Nat → Nat
  | first :: next :: rest => max (next - first) (longestGap (next :: rest))
  | _ => 0

/-- A row that begins later has no longer ways. -/
theorem longestGap_cons_le {first later : Nat} (rest : List Nat) (h : first ≤ later) :
    longestGap (later :: rest) ≤ longestGap (first :: rest) := by
  cases rest with
  | nil => exact Nat.le_refl _
  | cons next rest =>
      simp only [longestGap]
      omega

end Boundary

/-! ## Packed segments -/

namespace Segment

/-- A segment is no longer than the longest way between offsets. -/
theorem byteLength_le_of_mem_cutAt {start : Nat} {offsets : List Nat} {cs segment : List Char}
    (h : segment ∈ cutAt start offsets cs) :
    byteLength segment ≤ Boundary.longestGap (start :: offsets) := by
  induction offsets generalizing start cs with
  | nil => cases h
  | cons offset rest ih =>
      rw [cutAt] at h
      rw [Boundary.longestGap]
      split at h
      · -- An offset that divides nothing only makes the next way longer.
        rename_i hle
        have hsegment := ih h
        have hshort := Boundary.longestGap_cons_le rest hle
        omega
      · rcases List.mem_cons.mp h with rfl | h
        · have hcut := byteLength_takeBytes_le (offset - start) cs
          omega
        · have hsegment := ih h
          omega

/-- No segment of a text is longer than the longest way from a boundary to the next one. -/
theorem byteLength_le_longestGap {cs segment : List Char} {offsets : List Nat}
    (hfind : Boundary.find cs = .ok offsets) (h : segment ∈ cutAt 0 offsets cs) :
    byteLength segment ≤ Boundary.longestGap offsets := by
  obtain ⟨rest, rfl⟩ := Boundary.exists_find_eq_cons hfind
  have hsegment := byteLength_le_of_mem_cutAt h
  simpa [Boundary.longestGap] using hsegment

/-- **A piece that fits**: it is within the limit, or it is one segment behind no more than the
overlap. -/
def Fits (limit overlap : Nat) (segments : List (List Char)) (piece : List Char) : Prop :=
  byteLength piece ≤ limit ∨
    ∃ lead segment, piece = lead ++ segment ∧ byteLength lead ≤ overlap ∧ segment ∈ segments

variable {limit overlap : Nat} {segments rest : List (List Char)} {piece packed : List Char}

/-- **Packing gives pieces that fit**, when the running piece does. -/
theorem fits_of_mem_pack (hpiece : Fits limit overlap segments piece)
    (hrest : ∀ segment ∈ rest, segment ∈ segments)
    (h : packed ∈ pack limit overlap piece rest) : Fits limit overlap segments packed := by
  induction rest generalizing piece with
  | nil =>
      rw [pack, List.mem_singleton] at h
      rwa [h]
  | cons segment rest ih =>
      obtain ⟨hsegment, hlater⟩ := List.forall_mem_cons.mp hrest
      rw [pack] at h
      split at h
      · -- The piece is closed, and the next one begins with a seed and this segment.
        rename_i hclosed
        rcases List.mem_cons.mp h with rfl | h
        · exact hpiece
        · obtain ⟨front, -, -, hseed⟩ := exists_append_seed overlap hclosed.1
          exact ih (Or.inr ⟨_, segment, rfl, hseed, hsegment⟩) hlater h
      · -- The segment joins a piece that stays within the limit, or it is the whole piece.
        rename_i hopen
        refine ih ?_ hlater h
        by_cases hnil : piece = []
        · exact Or.inr ⟨[], segment, by rw [hnil], Nat.zero_le _, hsegment⟩
        · have hwithin : ¬ limit < byteLength piece + byteLength segment :=
            fun hlong => hopen ⟨hnil, hlong⟩
          refine Or.inl ?_
          rw [byteLength_append]
          omega

/-- **The pieces of a text** have boundaries between them and fit the budget. -/
theorem exists_find_fits {budget : ChunkBudget} {cs : List Char} {found : List (List Char)}
    (h : pieces budget cs = .ok found) :
    ∃ offsets, Boundary.find cs = .ok offsets ∧ ∀ packed ∈ found,
      Fits (Token.toBytes budget.maxTokens) (Token.toBytes budget.overlapTokens)
        (cutAt 0 offsets cs) packed := by
  obtain ⟨offsets, hfind, rfl⟩ := pieces_eq_ok_iff.mp h
  refine ⟨offsets, hfind, ?_⟩
  intro packed hpacked
  exact fits_of_mem_pack (Or.inl (Nat.zero_le _)) (fun _ hsegment => hsegment) hpacked

/-- A piece that fits is no longer than the limit, or than the overlap and the longest segment. -/
theorem Fits.byteLength_le {longest : Nat} (h : Fits limit overlap segments piece)
    (hlongest : ∀ segment ∈ segments, byteLength segment ≤ longest) :
    byteLength piece ≤ max limit (overlap + longest) := by
  rcases h with hlimit | ⟨lead, segment, rfl, hlead, hmem⟩
  · omega
  · have hsegment := hlongest segment hmem
    rw [byteLength_append]
    omega

end Segment

/-! ## Windows -/

namespace Window

variable {width overlap : Nat} {cs piece : List Char}

/-- Every piece is the first one of some end of the text. -/
theorem exists_suffix_of_mem_pieces (h : piece ∈ pieces width overlap cs) :
    ∃ rest, rest <:+ cs ∧ rest ≠ [] ∧ piece = first width rest := by
  induction cs using pieces.induct width overlap with
  | case1 =>
      rw [pieces, dif_pos rfl] at h
      cases h
  | case2 cs hcs _ hlt ih =>
      rw [pieces_of_lt hcs hlt] at h
      rcases List.mem_cons.mp h with hfirst | h
      · exact ⟨cs, List.suffix_refl cs, hcs, hfirst⟩
      · obtain ⟨rest, hrest, hne, hpiece⟩ := ih h
        exact ⟨rest, hrest.trans (dropBytesUp_isSuffix _ cs), hne, hpiece⟩
  | case3 cs hcs _ hall =>
      rw [pieces_of_not_lt hcs hall, List.mem_singleton] at h
      exact ⟨cs, List.suffix_refl cs, hcs, h⟩

/-- **A piece is a part of the text that fits the window.** -/
theorem isInfix_of_mem_pieces (hw : 4 ≤ width) (h : piece ∈ pieces width overlap cs) :
    piece <:+: cs ∧ byteLength piece ≤ width := by
  obtain ⟨rest, hrest, hne, rfl⟩ := exists_suffix_of_mem_pieces h
  have hcover := first_isPrefix_takeBytes hw hne
  constructor
  · exact (hcover.trans (takeBytes_isPrefix width rest)).isInfix.trans hrest.isInfix
  · exact (byteLength_le_of_isPrefix hcover).trans (byteLength_takeBytes_le width rest)

end Window

/-! ## Chunks -/

namespace Chunk

variable {budget : ChunkBudget} {text : String} {chunk : Chunk}

/-- **A chunk near its budget**, of a text with boundaries at some offsets. -/
structure NearBudget (budget : ChunkBudget) (text : String) (offsets : List Nat)
    (chunk : Chunk) : Prop where
  /-- It is no longer than four bytes a token of the budget, or than four bytes a token of the
  overlap and the longest way from a boundary to the next one. -/
  size_le : size chunk.text ≤
    max (4 * budget.maxTokens) (4 * budget.overlapTokens + Boundary.longestGap offsets)
  /-- It is longer than the budget only as a single segment behind what it repeats. -/
  exists_segment : 4 * budget.maxTokens < size chunk.text →
    ∃ lead segment, chunk.text.toList = trim (lead ++ segment) ∧
      byteLength lead ≤ 4 * budget.overlapTokens ∧ segment ∈ Segment.cutAt 0 offsets text.toList

/-- **Chunks of packed segments are near their budget.** -/
theorem nearBudget_of_mem_segment_chunks {chunks : List Chunk}
    (h : Segment.chunks budget text = .ok chunks) :
    ∃ offsets, Boundary.find text.toList = .ok offsets ∧
      ∀ chunk ∈ chunks, NearBudget budget text offsets chunk := by
  obtain ⟨found, hpieces, rfl⟩ := exists_pieces_of_segment_chunks h
  obtain ⟨offsets, hfind, hfits⟩ := Segment.exists_find_fits hpieces
  refine ⟨offsets, hfind, ?_⟩
  intro chunk hchunk
  obtain ⟨piece, hpiece, -, htrim⟩ := exists_trim_of_mem_ofPieces hchunk
  have hfit := hfits piece hpiece
  have hsize : size chunk.text ≤ byteLength piece := by
    rw [size, htrim]
    exact byteLength_le_of_isInfix (trim_isInfix piece)
  have hmax := Token.toBytes_le budget.maxTokens
  have hoverlap := Token.toBytes_le budget.overlapTokens
  constructor
  · have hle := hfit.byteLength_le fun _ => Segment.byteLength_le_longestGap hfind
    omega
  · intro hlong
    rcases hfit with hwithin | ⟨lead, segment, rfl, hlead, hsegment⟩
    · omega
    · exact ⟨lead, segment, htrim, hlead.trans hoverlap, hsegment⟩

/-- Three sentences in chunks of eight bytes with four bytes repeated: the one in the middle is
longer than that. -/
theorem nearBudget_of_sentences :
    Segment.chunks ⟨2, 1⟩ "Go on. The café is open. Rest." =
        .ok [⟨"Go on.", 0⟩, ⟨"on. The café is open.", 1⟩, ⟨"en. Rest.", 2⟩] ∧
      ∃ offsets, Boundary.find "Go on. The café is open. Rest.".toList = .ok offsets ∧
        ∀ chunk ∈ [⟨"Go on.", 0⟩, ⟨"on. The café is open.", 1⟩, ⟨"en. Rest.", 2⟩],
          NearBudget ⟨2, 1⟩ "Go on. The café is open. Rest." offsets chunk := by
  have h : Segment.chunks ⟨2, 1⟩ "Go on. The café is open. Rest." =
      .ok [⟨"Go on.", 0⟩, ⟨"on. The café is open.", 1⟩, ⟨"en. Rest.", 2⟩] := by
    decide +kernel
  exact ⟨h, nearBudget_of_mem_segment_chunks h⟩

/-- A chunk of a text without boundaries is a part of the text, and it is within the budget or has
at most the bytes of the budget. -/
theorem isInfix_of_mem_split {e : ChunkingError} (hblank : blank text = false)
    (hpos : 0 < budget.maxTokens) (hfind : Boundary.find text.toList = .error e)
    (h : chunk ∈ split budget text) :
    chunk.text.toList <:+: text.toList ∧
      (Token.estimate chunk.text.toList ≤ budget.maxTokens ∨
        size chunk.text ≤ 4 * budget.maxTokens) := by
  rw [split, if_neg (by simp [hblank])] at h
  split at h
  · -- The text stays whole.
    rename_i hshort
    rw [List.mem_singleton.mp h]
    exact ⟨List.infix_refl _, Or.inl hshort⟩
  · have hnone : Segment.chunks budget text = .error e := by
      rw [Segment.chunks, Segment.pieces, hfind]
      rfl
    simp only [hnone, splitByWindows_eq hpos.ne' hblank] at h
    obtain ⟨piece, hpiece, -, htrim⟩ := exists_trim_of_mem_ofPieces h
    obtain ⟨hpart, hwidth⟩ := Window.isInfix_of_mem_pieces (Token.four_le_toBytes hpos) hpiece
    rw [size, htrim]
    refine ⟨(trim_isInfix piece).trans hpart, Or.inr ?_⟩
    calc byteLength (trim piece)
        ≤ byteLength piece := byteLength_le_of_isInfix (trim_isInfix piece)
      _ ≤ Token.toBytes budget.maxTokens := hwidth
      _ ≤ 4 * budget.maxTokens := Token.toBytes_le _

/-- **A chunk that fits a window**, of a text without boundaries. -/
structure FitsWindow (maxTokens : Nat) (text chunk : List Char) : Prop where
  /-- It is within the budget exactly when its words are, at thirteen tokens for ten of them. -/
  estimate_le_iff :
    Token.estimate chunk ≤ maxTokens ↔ 13 * Token.countWords chunk < 10 * (maxTokens + 1)
  /-- It has at most 2.6 times the tokens of the budget. -/
  estimate_le : 10 * Token.estimate chunk ≤ 26 * maxTokens
  /-- It is within the budget when there are no words. -/
  estimate_le_of_wordless :
    (∀ c ∈ text, Token.startsWord c = false) → Token.estimate chunk ≤ maxTokens

/-- **Chunks of a text without boundaries fit a window**: only short words make them pass the
budget. -/
theorem fitsWindow_of_mem_split {e : ChunkingError} (hblank : blank text = false)
    (hpos : 0 < budget.maxTokens) (hfind : Boundary.find text.toList = .error e) :
    ∀ chunk ∈ split budget text,
      FitsWindow budget.maxTokens text.toList chunk.text.toList := by
  intro chunk hchunk
  obtain ⟨hpart, hsize⟩ := isInfix_of_mem_split hblank hpos hfind hchunk
  have hwithin : Token.estimate chunk.text.toList ≤ budget.maxTokens ↔
      13 * Token.countWords chunk.text.toList < 10 * (budget.maxTokens + 1) := by
    rcases hsize with hshort | hbytes
    · exact iff_of_true hshort (Token.words_lt_of_estimate_le hpos hshort)
    · exact Token.estimate_le_iff_words_lt hpos hbytes
  refine ⟨hwithin, ?_, ?_⟩
  · rcases hsize with hshort | hbytes
    · omega
    · exact Token.ten_mul_estimate_le hpos hbytes
  · -- A part of a text without words has none.
    intro hwordless
    have hnone : Token.countWords chunk.text.toList = 0 :=
      Token.countWords_eq_zero_iff.mpr fun c hc => hwordless c (hpart.subset hc)
    rw [hwithin, hnone]
    omega

/-- Letters and digits in turn, in chunks of two tokens. -/
theorem fitsWindow_of_letters_digits :
    blank "ab12cd34ef56" = false ∧ 0 < 2 ∧
      Boundary.find "ab12cd34ef56".toList = .error (.noBoundaries 12) ∧
      split ⟨2, 0⟩ "ab12cd34ef56" = [⟨"ab12cd34", 0⟩, ⟨"ef56", 1⟩] ∧
      ∀ chunk ∈ split ⟨2, 0⟩ "ab12cd34ef56",
        FitsWindow 2 "ab12cd34ef56".toList chunk.text.toList := by
  have hfind : Boundary.find "ab12cd34ef56".toList = .error (.noBoundaries 12) := by
    decide +kernel
  exact ⟨by decide, by decide, hfind, by decide +kernel,
    fitsWindow_of_mem_split (by decide) (by decide) hfind⟩

/-- A text without boundaries may have a chunk that is over the budget: two words of one letter in
four bytes have two tokens. -/
theorem split_single_letters_over_budget :
    ¬ ∀ (budget : ChunkBudget) (text : String) (e : ChunkingError), blank text = false →
      0 < budget.maxTokens → Boundary.find text.toList = .error e →
        ∀ chunk ∈ split budget text, Token.estimate chunk.text.toList ≤ budget.maxTokens := by
  intro h
  have hsplit : split ⟨1, 0⟩ "a1b2" = [⟨"a1b2", 0⟩] := by decide +kernel
  have hwithin := h ⟨1, 0⟩ "a1b2" (.noBoundaries 4) (by decide) (by decide) (by decide +kernel)
    ⟨"a1b2", 0⟩ (by rw [hsplit]; exact List.mem_singleton_self _)
  exact absurd hwithin (by decide +kernel)

end Chunk

end Courseware
