import Courseware.Proofs.Chunk.Window
import Courseware.Proofs.Chunk.Words

/-! # Windows that cut no word

The **runs** of a text are its maximal parts without a space. When every run is shorter than a fifth
of the window, less two bytes, the last space of a window lies in its last fifth, and the window ends
before it (`exists_eq_first_append`).

* **Windows over short runs** end directly before spaces, and without an overlap their chunks have
  the words of the text (`exists_chunks_cutNoWord`).
-/

namespace Courseware

open Text

namespace Text

/-- **An offset directly before a space** of the text. -/
def BeforeSpace (cs : List Char) (n : Nat) : Prop :=
  ∃ front behind, cs = front ++ ' ' :: behind ∧ n = byteLength front

/-- **The runs of a text**: its maximal parts without a space, in order. -/
def runs (cs : List Char) : List (List Char) :=
  (cs.splitOnP (· == ' ')).filter fun run => !run.isEmpty

variable {part cs : List Char}

/-- A start of a text without a space is a start of what stands before the first space. -/
theorem exists_splitOnP_eq_cons (hpart : part <+: cs) (hspace : ' ' ∉ part) :
    ∃ first rest, cs.splitOnP (· == ' ') = first :: rest ∧ part <+: first := by
  induction cs generalizing part with
  | nil => exact ⟨[], [], rfl, hpart⟩
  | cons c cs ih =>
      cases part with
      | nil =>
          cases hsplit : (c :: cs).splitOnP (· == ' ') with
          | nil => exact absurd hsplit (List.splitOnP_ne_nil _ _)
          | cons first rest => exact ⟨first, rest, rfl, List.nil_prefix⟩
      | cons d part =>
          obtain ⟨rfl, htail⟩ := List.cons_prefix_cons.mp hpart
          rw [List.mem_cons, not_or] at hspace
          obtain ⟨first, rest, hsplit, hfirst⟩ := ih htail hspace.2
          refine ⟨d :: first, rest, ?_, List.cons_prefix_cons.mpr ⟨rfl, hfirst⟩⟩
          rw [List.splitOnP_cons_eq_if_modifyHead, if_neg (by simpa using Ne.symm hspace.1), hsplit,
            List.modifyHead_cons]

/-- A part of a text without a space lies between two neighbouring spaces. -/
theorem exists_mem_splitOnP (hpart : part <:+: cs) (hspace : ' ' ∉ part) :
    ∃ run ∈ cs.splitOnP (· == ' '), part <:+: run := by
  induction cs with
  | nil => exact ⟨[], List.mem_singleton_self _, hpart⟩
  | cons c cs ih =>
      rcases List.infix_cons_iff.mp hpart with hstart | hrest
      · obtain ⟨first, rest, hsplit, hfirst⟩ := exists_splitOnP_eq_cons hstart hspace
        rw [hsplit]
        exact ⟨first, List.mem_cons_self, hfirst.isInfix⟩
      · obtain ⟨run, hrun, hin⟩ := ih hrest
        rw [List.splitOnP_cons_eq_if_modifyHead]
        split
        · exact ⟨run, List.mem_cons_of_mem _ hrun, hin⟩
        · -- The character joins the first of the runs behind it.
          cases hsplit : cs.splitOnP (· == ' ') with
          | nil => exact absurd hsplit (List.splitOnP_ne_nil _ _)
          | cons first rest =>
              rw [hsplit] at hrun
              rw [List.modifyHead_cons]
              rcases List.mem_cons.mp hrun with rfl | hrun
              · exact ⟨c :: run, List.mem_cons_self, hin.trans (List.suffix_cons c run).isInfix⟩
              · exact ⟨run, List.mem_cons_of_mem _ hrun, hin⟩

/-- **A part without a space** lies in a run. -/
theorem exists_mem_runs (hne : part ≠ []) (hpart : part <:+: cs) (hspace : ' ' ∉ part) :
    ∃ run ∈ runs cs, part <:+: run := by
  obtain ⟨run, hrun, hin⟩ := exists_mem_splitOnP hpart hspace
  refine ⟨run, List.mem_filter.mpr ⟨hrun, ?_⟩, hin⟩
  have hrunne : run ≠ [] := by
    rintro rfl
    exact hne (List.infix_nil.mp hin)
  simpa using hrunne

end Text

namespace Window

variable {width overlap : Nat} {cs : List Char}

/-- **A text of short runs** for a window: no part without a space has a fifth of the window, less
two bytes. -/
def ShortRuns (width : Nat) (cs : List Char) : Prop :=
  ∀ part, part ≠ [] → part <:+: cs → ' ' ∉ part → 5 * byteLength part + 10 < width

/-- A text has short runs when each of its runs is short. -/
theorem shortRuns_of_runs (h : ∀ run ∈ runs cs, 5 * byteLength run + 10 < width) :
    ShortRuns width cs := by
  intro part hne hpart hspace
  obtain ⟨run, hrun, hin⟩ := exists_mem_runs hne hpart hspace
  have hle := byteLength_le_of_isInfix hin
  have hlt := h run hrun
  omega

/-- A part of a text of short runs has short runs. -/
theorem ShortRuns.of_isInfix {rest : List Char} (h : ShortRuns width cs) (hrest : rest <:+: cs) :
    ShortRuns width rest := by
  intro part hne hpart hspace
  exact h part hne (hpart.trans hrest) hspace

/-- A character that is no space makes the window of its text wide. -/
theorem ShortRuns.lt_width {c : Char} (h : ShortRuns width cs) (hc : c ∈ cs) (hne : c ≠ ' ') :
    15 < width := by
  have hrun := h [c] (List.cons_ne_nil c []) ((List.singleton_infix_iff c cs).mpr hc)
    (by simpa using hne.symm)
  have hpos := byteLength_pos_iff.mpr (List.cons_ne_nil c [])
  omega

/-- A part without a space has nothing before its last space, and another part ends with a space and
what stands behind it. -/
theorem beforeSpace_cases (covered : List Char) :
    (beforeSpace covered = [] ∧ ' ' ∉ covered) ∨
      ∃ after, covered = beforeSpace covered ++ ' ' :: after ∧ ' ' ∉ after := by
  rcases beforeLast_cases (· == ' ') covered with ⟨hnil, hnone⟩ | ⟨c, after, hcovered, hc, hafter⟩
  · refine Or.inl ⟨hnil, fun hmem => ?_⟩
    simpa using hnone ' ' hmem
  · rw [beq_iff_eq.mp hc] at hcovered
    refine Or.inr ⟨after, hcovered, fun hmem => ?_⟩
    simpa using hafter ' ' hmem

/-- **The last space lies late** in a part with short runs that fills the window but for three
bytes. -/
theorem lt_byteLength_beforeSpace {covered : List Char} (hruns : ShortRuns width covered)
    (hwidth : 15 < width) (hfull : width < byteLength covered + 4) :
    4 * byteLength covered < 5 * byteLength (beforeSpace covered) := by
  rcases beforeSpace_cases covered with ⟨-, hspace⟩ | ⟨after, hcovered, hspace⟩
  · -- Without a space the part would be a run.
    have hne : covered ≠ [] := byteLength_pos_iff.mp (by omega)
    have hrun := hruns covered hne (List.infix_refl _) hspace
    omega
  · have hrun : 5 * byteLength after + 10 < width := by
      by_cases hnil : after = []
      · rw [hnil, byteLength_nil]
        omega
      · refine hruns after hnil ?_ hspace
        exact ⟨beforeSpace covered ++ [' '], [], by simp [← hcovered]⟩
    have hsize : byteLength covered = byteLength (beforeSpace covered) + (1 + byteLength after) :=
      (congrArg byteLength hcovered).trans (byteLength_append _ _)
    omega

/-- **A window that does not reach the end** of a text with short runs ends before a space. -/
theorem exists_eq_first_append (hw : 4 ≤ width) (hruns : ShortRuns width cs)
    (hshort : (first width cs).length < cs.length) :
    ∃ behind, cs = first width cs ++ ' ' :: behind := by
  have hcs : cs ≠ [] := by
    rintro rfl
    exact absurd hshort (Nat.not_lt_zero _)
  have hcover := takeBytes_isPrefix width cs
  have hlonger : first width cs ≠ cs := by
    intro hall
    rw [hall] at hshort
    exact absurd hshort (Nat.lt_irrefl _)
  by_cases hspaces : ∀ c ∈ cs, c = ' '
  · -- Whatever stands behind the piece is a space.
    obtain ⟨rest, hrest⟩ := (first_isPrefix_takeBytes hw hcs).trans hcover
    cases rest with
    | nil =>
        rw [List.append_nil] at hrest
        exact absurd hrest hlonger
    | cons c behind =>
        have hc : c ∈ cs := by
          rw [← hrest]
          simp
        exact ⟨behind, by rw [← hspaces c hc, hrest]⟩
  · push Not at hspaces
    obtain ⟨d, hd, hne⟩ := hspaces
    rcases first_cases hw hcs with ⟨hfirst, hall⟩ | ⟨hfirst, hearly⟩ | ⟨hfirst, hlate, -⟩
    · exact absurd (hfirst.trans hall) hlonger
    · have hfull := lt_byteLength_takeBytes_add_four (hfirst ▸ hlonger)
      have hlate := lt_byteLength_beforeSpace (hruns.of_isInfix hcover.isInfix)
        (hruns.lt_width hd hne) hfull
      omega
    · obtain ⟨behind, hbehind⟩ := hcover
      rcases beforeSpace_cases (takeBytes width cs) with ⟨hnil, -⟩ | ⟨after, htake, -⟩
      · rw [hnil, byteLength_nil] at hlate
        exact absurd hlate (Nat.not_lt_zero _)
      · refine ⟨after ++ behind, ?_⟩
        rw [hfirst, ← List.cons_append, ← List.append_assoc, ← htake, hbehind]

/-! ## The spans and the words of the windows -/

/-- **Every span but the last one** ends directly before a space. -/
theorem beforeSpace_of_mem_dropLast (overlap : Nat) (hw : 4 ≤ width) (before : List Char)
    (hruns : ShortRuns width cs) :
    ∀ span ∈ (spansFrom width overlap (byteLength before) cs).dropLast,
      BeforeSpace (before ++ cs) span.stop := by
  induction cs using pieces.induct width overlap generalizing before with
  | case1 =>
      rw [spansFrom]
      exact List.forall_mem_nil _
  | case2 cs hcs _ hlt ih =>
      have hshort : (first width cs).length < cs.length := hlt
      obtain ⟨behind, hbehind⟩ := exists_eq_first_append hw hruns hshort
      have hsplit := takeBytesUp_append_dropBytesUp (advance overlap (first width cs)) cs
      rw [spansFrom_of_lt hcs hshort]
      generalize takeBytesUp (advance overlap (first width cs)) cs = front at hsplit ⊢
      generalize dropBytesUp (advance overlap (first width cs)) cs = rest at hsplit ih ⊢
      have hnext := ih (before ++ front) (hruns.of_isInfix ⟨front, [], by simpa using hsplit⟩)
      rw [List.append_assoc, hsplit, byteLength_append] at hnext
      cases hspans : spansFrom width overlap (byteLength before + byteLength front) rest with
      | nil => simp
      | cons next others =>
          rw [hspans] at hnext
          rw [List.dropLast_cons_cons]
          refine List.forall_mem_cons.mpr ⟨?_, hnext⟩
          refine ⟨before ++ first width cs, behind, ?_, (byteLength_append _ _).symm⟩
          rw [List.append_assoc, ← hbehind]
  | case3 cs hcs _ hall =>
      rw [spansFrom_of_not_lt hcs hall]
      exact List.forall_mem_nil _

/-- **Without an overlap the pieces have the words of the text**, each once and in order. -/
theorem flatMap_words_pieces (hw : 4 ≤ width) (hruns : ShortRuns width cs) :
    (pieces width 0 cs).flatMap words = words cs := by
  have hspace : isBlank ' ' = true := by decide
  induction cs using pieces.induct width 0 with
  | case1 =>
      rw [pieces]
      rfl
  | case2 cs hcs _ hlt ih =>
      have hshort : (first width cs).length < cs.length := hlt
      obtain ⟨behind, hbehind⟩ := exists_eq_first_append hw hruns hshort
      -- The next window begins with the space.
      have hnext : dropBytesUp (advance 0 (first width cs)) cs = ' ' :: behind := by
        have hcut := dropBytesUp_append (first width cs) (' ' :: behind)
        rw [← hbehind] at hcut
        rw [advance, if_pos (byteLength_first_pos hcs), Nat.sub_zero]
        exact hcut
      rw [hnext] at ih
      have hrest := ih (hruns.of_isInfix ⟨first width cs, [], by simpa using hbehind.symm⟩)
      rw [pieces_of_lt hcs hshort, List.flatMap_cons, hnext, hrest]
      calc words (first width cs) ++ words (' ' :: behind)
          = words (first width cs) ++ words behind :=
            congrArg _ (words_append_cons [] behind hspace)
        _ = words (first width cs ++ ' ' :: behind) := (words_append_cons _ _ hspace).symm
        _ = words cs := by rw [← hbehind]
  | case3 cs hcs _ hall =>
      have hcover := (first_isPrefix_takeBytes hw hcs).trans (takeBytes_isPrefix width cs)
      rw [pieces_of_not_lt hcs hall, List.flatMap_singleton,
        hcover.eq_of_length_le (Nat.le_of_not_lt hall)]

end Window

namespace Chunk

/-- **Chunks that cut no word** of a text: they are the trimmed slices of the spans of the windows. -/
structure CutNoWord (budget : ChunkBudget) (text : String) (chunks : List Chunk) : Prop where
  /-- They are made of the slices of the spans. -/
  slices : chunks = ofPieces ((Window.spans (Token.toBytes budget.maxTokens)
    (Token.toBytes budget.overlapTokens) text.toList).map (Span.text text.toList))
  /-- Every span but the last one ends directly before a space. -/
  stops : ∀ span ∈ (Window.spans (Token.toBytes budget.maxTokens)
    (Token.toBytes budget.overlapTokens) text.toList).dropLast, BeforeSpace text.toList span.stop
  /-- Without an overlap their words are those of the text, each once and in order. -/
  words : budget.overlapTokens = 0 →
    (chunks.flatMap fun chunk => Text.words chunk.text.toList) = Text.words text.toList

/-- **Windows cut no word** of a text whose runs are shorter than a fifth of the window, less two
bytes. -/
theorem exists_chunks_cutNoWord {budget : ChunkBudget} {text : String} (hmax : 0 < budget.maxTokens)
    (hruns : ∀ run ∈ runs text.toList,
      5 * byteLength run + 10 < Token.toBytes budget.maxTokens) :
    ∃ chunks, Window.chunks budget text = .ok chunks ∧ CutNoWord budget text chunks := by
  have hw : 4 ≤ Token.toBytes budget.maxTokens := Token.four_le_toBytes hmax
  have hshort := Window.shortRuns_of_runs hruns
  have hpieces := Window.pieces_eq_map_spans (Token.toBytes budget.overlapTokens) hw text.toList
  refine ⟨_, if_neg (by omega), ?_, ?_, ?_⟩
  · rw [hpieces]
  · exact Window.beforeSpace_of_mem_dropLast _ hw [] hshort
  · intro hzero
    rw [hzero, flatMap_words_ofPieces]
    exact Window.flatMap_words_pieces hw hshort

/-- Words of at most two bytes in windows of twenty-four. The first window ends before a space, and
the second begins with it. -/
theorem exists_chunks_cutNoWord_of_two_bytes :
    0 < 6 ∧ (∀ run ∈ runs "go on up é we to do it at an ox so be".toList,
        5 * byteLength run + 10 < Token.toBytes 6) ∧
      Window.chunks ⟨6, 0⟩ "go on up é we to do it at an ox so be" =
        .ok [⟨"go on up é we to do it", 0⟩, ⟨"at an ox so be", 1⟩] ∧
      CutNoWord ⟨6, 0⟩ "go on up é we to do it at an ox so be"
        [⟨"go on up é we to do it", 0⟩, ⟨"at an ox so be", 1⟩] := by
  have hruns : ∀ run ∈ runs "go on up é we to do it at an ox so be".toList,
      5 * byteLength run + 10 < Token.toBytes 6 := by
    decide +kernel
  have hchunks : Window.chunks ⟨6, 0⟩ "go on up é we to do it at an ox so be" =
      .ok [⟨"go on up é we to do it", 0⟩, ⟨"at an ox so be", 1⟩] := by
    decide +kernel
  have hcut : ∃ chunks, Window.chunks ⟨6, 0⟩ "go on up é we to do it at an ox so be" = .ok chunks ∧
      CutNoWord ⟨6, 0⟩ "go on up é we to do it at an ox so be" chunks :=
    exists_chunks_cutNoWord (by decide) hruns
  rw [hchunks] at hcut
  obtain ⟨chunks, hsame, hcut⟩ := hcut
  cases hsame
  exact ⟨by decide, hruns, hchunks, hcut⟩

end Chunk

end Courseware
