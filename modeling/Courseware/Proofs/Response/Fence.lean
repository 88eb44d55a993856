import Courseware.Proofs.Text.Split
import Courseware.Proofs.Text.Trim
import Courseware.Response.Extraction

/-! # Fenced blocks and what stands around them

The fenced blocks of a text are found by its fences alone, so a text without backticks that is put
in front of another one (`fencedBlocks_append_left`) or behind one that ends with a bracket
(`fencedBlocks_append_right`) neither adds a block nor changes one. -/

namespace Courseware

namespace Response

open Text

/-! ## Blocks -/

section Blocks

variable {cs before opened body rest : List Char}

/-- A text without a fence has no block. -/
theorem fencedBlocks_of_none (h : splitOnce? fence cs = none) : fencedBlocks cs = [] := by
  rw [fencedBlocks]
  split
  · rfl
  · next hopen => cases h.symm.trans hopen

/-- A fence without a second one opens no block. -/
theorem fencedBlocks_of_open (h : splitOnce? fence cs = some (before, opened))
    (hclose : splitOnce? fence (afterOpening opened) = none) : fencedBlocks cs = [] := by
  rw [fencedBlocks]
  split
  · rfl
  · next hopen =>
      cases h.symm.trans hopen
      split
      · rfl
      · next hbody => cases hclose.symm.trans hbody

/-- Two fences make a block, and the next one begins behind them. -/
theorem fencedBlocks_of_block (h : splitOnce? fence cs = some (before, opened))
    (hclose : splitOnce? fence (afterOpening opened) = some (body, rest)) :
    fencedBlocks cs = body :: fencedBlocks rest := by
  rw [fencedBlocks]
  split
  · next hnone => cases h.symm.trans hnone
  · next hopen =>
      cases h.symm.trans hopen
      split
      · next hnone => cases hclose.symm.trans hnone
      · next hbody =>
          cases hclose.symm.trans hbody
          rfl

end Blocks

/-- **A text in front without backticks** changes no block. -/
theorem fencedBlocks_append_left {lead : List Char} (h : '\x60' ∉ lead) (cs : List Char) :
    fencedBlocks (lead ++ cs) = fencedBlocks cs := by
  have hlead : splitOnce? fence (lead ++ cs) = _ := splitOnce?_append_left h cs
  rw [← fence] at hlead
  cases hopen : splitOnce? fence cs with
  | none =>
      rw [hopen] at hlead
      rw [fencedBlocks_of_none hlead, fencedBlocks_of_none hopen]
  | some parts =>
      obtain ⟨before, opened⟩ := parts
      rw [hopen] at hlead
      cases hclose : splitOnce? fence (afterOpening opened) with
      | none => rw [fencedBlocks_of_open hlead hclose, fencedBlocks_of_open hopen hclose]
      | some parts =>
          obtain ⟨body, rest⟩ := parts
          rw [fencedBlocks_of_block hlead hclose, fencedBlocks_of_block hopen hclose]

/-! ## Values in blocks -/

/-- **The value of the first fenced block that is JSON.** -/
def fencedValue? (cs : List Char) : Option Json := ((fencedBlocks cs).map trim).findSome? read?

/-- The empty text is no JSON. -/
theorem read?_nil : read? [] = none := rfl

/-- Candidates that are empty are no JSON. -/
theorem findSome?_read?_filter (parts : List (List Char)) :
    (parts.filter fun part => !part.isEmpty).findSome? read? = parts.findSome? read? := by
  induction parts with
  | nil => rfl
  | cons part parts ih =>
      cases part with
      | nil => rw [List.filter_cons_of_neg (by decide), List.findSome?_cons, read?_nil, ih]
      | cons c part =>
          rw [List.filter_cons_of_pos rfl, List.findSome?_cons, List.findSome?_cons, ih]

/-- **Which candidate wins**: the first fenced block that is JSON, and a span when there is none. -/
theorem findSome?_candidates (cs : List Char) :
    (candidates cs).findSome? read? = (fencedValue? cs).or ((spans cs).findSome? read?) := by
  rw [candidates, List.findSome?_append, findSome?_read?_filter, fencedValue?]

/-- An empty text has no candidates. -/
theorem candidates_nil : candidates [] = [] := by
  rw [candidates, fencedBlocks_of_none rfl]
  rfl

/-- A text that is JSON as a whole is taken as it is. -/
theorem extract_of_parse {raw : List Char} {json : Json} (h : Json.parse (trim raw) = .ok json) :
    extract raw = .ok json.canonical := by
  have hne : (trim raw).isEmpty = false := by
    rw [List.isEmpty_eq_false_iff]
    intro hnil
    rw [hnil] at h
    cases h
  unfold extract
  simp only [hne, h, Bool.false_eq_true, if_false]

/-- The winning candidate is extracted when the text as a whole is no JSON. -/
theorem extract_of_candidates {raw : List Char} {json : Json}
    (hwhole : ∀ whole, Json.parse (trim raw) ≠ .ok whole)
    (h : (candidates (trim raw)).findSome? read? = some json) :
    extract raw = .ok json.canonical := by
  have hne : (trim raw).isEmpty = false := by
    rw [List.isEmpty_eq_false_iff]
    intro hnil
    rw [hnil, candidates_nil] at h
    cases h
  unfold extract
  simp only [hne, Bool.false_eq_true, if_false]
  split
  · rename_i whole hparse
    exact absurd hparse (hwhole whole)
  · rw [h]

/-! ## Texts that end with a bracket -/

/-- **Whether a character ends what is skipped behind a fence**: it belongs to no fence, no language
name and no line end, and it is no blank there. -/
def IsStop (c : Char) : Prop :=
  c ≠ '\x60' ∧ isLanguage c = false ∧ c ≠ ' ' ∧ c ≠ '\t' ∧ c ≠ '\r' ∧ c ≠ '\n'

instance (c : Char) : Decidable (IsStop c) := inferInstanceAs (Decidable (_ ∧ _))

/-- A character outside a class is not dropped with the class, nor is what is behind it. -/
theorem dropWhile_append_of_mem (p : Char → Bool) {c : Char} {cs : List Char} (hp : p c = false)
    (h : c ∈ cs) (behind : List Char) :
    c ∈ cs.dropWhile p ∧ (cs ++ behind).dropWhile p = cs.dropWhile p ++ behind := by
  have hmem : c ∈ cs.dropWhile p := by
    rw [← List.takeWhile_append_dropWhile (p := p) (l := cs)] at h
    rcases List.mem_append.mp h with htaken | hkept
    · rw [List.mem_takeWhile_imp htaken] at hp
      cases hp
    · exact hkept
  refine ⟨hmem, ?_⟩
  rw [List.dropWhile_append, if_neg]
  intro hempty
  rw [List.isEmpty_iff.mp hempty] at hmem
  cases hmem

/-- **What is skipped behind a fence** ends before a stop. -/
theorem afterOpening_append {c : Char} {cs : List Char} (hc : IsStop c) (h : c ∈ cs)
    (behind : List Char) :
    c ∈ afterOpening cs ∧ afterOpening (cs ++ behind) = afterOpening cs ++ behind := by
  obtain ⟨-, hlanguage, hspace, htab, hreturn, hnewline⟩ := hc
  obtain ⟨hfirst, hdropFirst⟩ := dropWhile_append_of_mem isLanguage hlanguage h behind
  obtain ⟨hsecond, hdropSecond⟩ := dropWhile_append_of_mem (fun c => c == ' ' || c == '\t')
    (by simp [hspace, htab]) hfirst behind
  unfold afterOpening
  rw [hdropFirst, hdropSecond]
  generalize (cs.dropWhile isLanguage).dropWhile _ = line at hsecond
  -- The stop is behind the line end, so a text behind it does not take part in the line end.
  split
  · exact ⟨by simpa [hreturn, hnewline] using hsecond, rfl⟩
  · rename_i rest hline
    have hrest : c ∈ rest := by simpa [hreturn] using hsecond
    refine ⟨hrest, ?_⟩
    cases rest with
    | nil => cases hrest
    | cons d rest =>
        rw [List.cons_append, List.cons_append]
        split
        · rename_i heq
          cases heq
          exact absurd rfl (hline rest)
        · rename_i heq
          cases heq
          rfl
        · rename_i heq
          cases heq
        · rename_i hother _
          exact absurd rfl (hother _)
  · exact ⟨by simpa [hnewline] using hsecond, rfl⟩
  · rename_i _ hnoReturn hnoNewline
    refine ⟨hsecond, ?_⟩
    cases line with
    | nil => cases hsecond
    | cons d line =>
        rw [List.cons_append]
        split
        · rename_i heq
          exact absurd (List.cons.inj heq).1 fun hd => hnoReturn line (hd ▸ rfl)
        · rename_i heq
          exact absurd (List.cons.inj heq).1 fun hd => hnoReturn line (hd ▸ rfl)
        · rename_i heq
          exact absurd (List.cons.inj heq).1 fun hd => hnoNewline line (hd ▸ rfl)
        · rfl

/-- A stop at the end is at the end of every ending that is not empty. -/
theorem stop_suffix_of_suffix {c : Char} {cs ending : List Char} (h : [c] <:+ cs)
    (hending : ending <:+ cs) (hne : ending ≠ []) : [c] <:+ ending :=
  List.suffix_of_suffix_length_le h hending (List.length_pos_iff.mpr hne)

/-- What follows the opening line of a block is the end of the text. -/
theorem afterOpening_suffix (cs : List Char) : afterOpening cs <:+ cs := by
  have hline : (cs.dropWhile isLanguage).dropWhile (fun c => c == ' ' || c == '\t') <:+ cs :=
    (List.dropWhile_suffix _).trans (List.dropWhile_suffix _)
  unfold afterOpening
  split
  · rename_i heq
    rw [heq] at hline
    exact (List.suffix_append ['\r', '\n'] _).trans hline
  · rename_i heq
    rw [heq] at hline
    exact (List.suffix_cons '\r' _).trans hline
  · rename_i heq
    rw [heq] at hline
    exact (List.suffix_cons '\n' _).trans hline
  · exact hline

/-- A stop at the end is behind every fence. -/
theorem stop_suffix_of_splitOnce? {c : Char} {cs before after : List Char} (hc : IsStop c)
    (h : [c] <:+ cs) (hsplit : splitOnce? fence cs = some (before, after)) : [c] <:+ after := by
  have hcs := eq_append_of_splitOnce? hsplit
  have hfence : fence ++ after <:+ cs := by
    rw [hcs]
    exact List.suffix_append before _
  refine stop_suffix_of_suffix h ((List.suffix_append fence after).trans hfence) ?_
  rintro rfl
  -- Otherwise the text would end with a backtick.
  have hlast : ['\x60'] <:+ cs := (List.suffix_append ['\x60', '\x60'] ['\x60']).trans hfence
  have heq := (List.suffix_of_suffix_length_le h hlast (Nat.le_refl 1)).eq_of_length rfl
  exact hc.1 (List.cons.inj heq).1

/-- **A text behind without backticks** changes no block of a text that ends with a stop. -/
theorem fencedBlocks_append_right {c : Char} {cs behind : List Char} (hc : IsStop c)
    (h : [c] <:+ cs) (hbehind : '\x60' ∉ behind) :
    fencedBlocks (cs ++ behind) = fencedBlocks cs := by
  have hsplit : ∀ ds, splitOnce? fence (ds ++ behind) =
      (splitOnce? fence ds).map fun split => (split.1, split.2 ++ behind) := by
    intro ds
    refine splitOnce?_append_right ?_ ds
    simpa using hbehind
  -- The stop is behind the fences of each block, so the rest still ends with it.
  fun_induction fencedBlocks cs with
  | case1 cs hopen =>
      apply fencedBlocks_of_none
      rw [hsplit, hopen, Option.map_none]
  | case2 cs before opened hopen hclose =>
      have hopened := stop_suffix_of_splitOnce? hc h hopen
      apply fencedBlocks_of_open
      · rw [hsplit, hopen, Option.map_some]
      · rw [(afterOpening_append hc (hopened.subset List.mem_cons_self) behind).2, hsplit, hclose,
          Option.map_none]
  | case3 cs before opened hopen body rest hclose _ _ _ ih =>
      have hopened := stop_suffix_of_splitOnce? hc h hopen
      have hmem := (afterOpening_append hc (hopened.subset List.mem_cons_self) behind).1
      have hline := stop_suffix_of_suffix hopened (afterOpening_suffix opened)
        (List.ne_nil_of_mem hmem)
      have hrest := stop_suffix_of_splitOnce? hc hline hclose
      rw [← ih hrest]
      apply fencedBlocks_of_block
      · rw [hsplit, hopen, Option.map_some]
      · rw [(afterOpening_append hc (hopened.subset List.mem_cons_self) behind).2, hsplit, hclose,
          Option.map_some]

end Response

end Courseware
