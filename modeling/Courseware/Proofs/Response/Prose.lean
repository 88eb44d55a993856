import Courseware.Proofs.Json.Extent
import Courseware.Proofs.Json.RoundTrip
import Courseware.Proofs.Response.Fence

/-! # Prose around JSON

A response often has prose around an array or an object: text without brackets, quotes and
backticks. The prose makes the whole response no JSON (`parse_prose_ne_ok`), the outermost span of
brackets is the array or object itself (`exists_spans_eq_cons`), and the fenced blocks are those
inside its texts, which are tried first. So the array or object is extracted
(`extract_prose_eq_ok_iff`) unless there is prose and the first of these blocks that is JSON holds
another value. -/

namespace Courseware.Response

open Text

/-- **Prose**: a text without brackets, quotes and backticks. -/
def Prose (cs : List Char) : Prop := ∀ c ∈ cs, c ∉ ['[', ']', '\x7b', '\x7d', '"', '\x60']

instance (cs : List Char) : Decidable (Prose cs) := List.decidableBAll _ cs

/-- What is made of the characters of prose is prose. -/
theorem Prose.of_subset {part cs : List Char} (h : Prose cs) (hpart : part ⊆ cs) : Prose part := by
  intro c hc
  exact h c (hpart hc)

/-- Prose that is trimmed at the start is prose. -/
theorem Prose.trimStart {cs : List Char} (h : Prose cs) : Prose (trimStart cs) :=
  h.of_subset (List.dropWhile_suffix isBlank).subset

/-- Prose that is trimmed at the end is prose. -/
theorem Prose.trimEnd {cs : List Char} (h : Prose cs) : Prose (trimEnd cs) := by
  obtain ⟨blanks, hcs, -⟩ := exists_eq_trimEnd_append cs
  refine h.of_subset ?_
  conv => rhs; rw [hcs]
  exact List.subset_append_left _ blanks

/-- **The brackets of an array or an object**, the opening one and the closing one. -/
def IsPair (opening closing : Char) : Prop :=
  opening = '[' ∧ closing = ']' ∨ opening = '\x7b' ∧ closing = '\x7d'

/-- **A text in brackets of its own.** -/
def Bracketed (cs : List Char) : Prop :=
  ∃ opening inner closing, IsPair opening closing ∧ cs = opening :: (inner ++ [closing])

/-! ## The whole text -/

/-- There are no blanks around a text in brackets. -/
theorem Bracketed.solid {cs : List Char} (h : Bracketed cs) : Solid cs := by
  obtain ⟨opening, inner, closing, hpair, rfl⟩ := h
  have hblank : isBlank opening = false ∧ isBlank closing = false := by
    rcases hpair with ⟨rfl, rfl⟩ | ⟨rfl, rfl⟩ <;> decide
  exact ⟨⟨opening, _, rfl, hblank.1⟩, opening :: inner, closing, rfl, hblank.2⟩

/-- **Prose in front of a text in brackets is no JSON with it**: it would be a number or a word, and
these have no brackets. -/
theorem parse_ne_ok_of_lead {c : Char} {lead bracketed : List Char} (h : Bracketed bracketed)
    (hlead : Prose (c :: lead)) (hc : isBlank c = false) (behind : List Char) (json : Json) :
    Json.parse (c :: lead ++ bracketed ++ behind) ≠ .ok json := by
  intro hparse
  obtain ⟨opening, inner, closing, hpair, rfl⟩ := h
  have hgap : Json.isGap c = false := by
    by_contra hgap
    rw [Json.isBlank_of_isGap (by simpa using hgap)] at hc
    cases hc
  have hother : c ∉ ['"', '[', '\x7b'] := by
    have hprose := hlead c List.mem_cons_self
    simp only [List.mem_cons, List.not_mem_nil, or_false, not_or] at hprose ⊢
    exact ⟨hprose.2.2.2.2.1, hprose.1, hprose.2.2.1⟩
  have hall := Json.isScalar_or_isGap_of_parse hgap hother hparse opening (by simp)
  rcases hpair with ⟨rfl, -⟩ | ⟨rfl, -⟩ <;> revert hall <;> decide

/-- **Prose behind a text in brackets is no JSON with it**: only gaps may stand behind the closing
bracket. -/
theorem parse_ne_ok_of_trail {c : Char} {bracketed trail : List Char} (h : Bracketed bracketed)
    (htrail : Prose (trail ++ [c])) (hc : isBlank c = false) (json : Json) :
    Json.parse (bracketed ++ (trail ++ [c])) ≠ .ok json := by
  intro hparse
  obtain ⟨opening, inner, closing, hpair, rfl⟩ := h
  have hopening : opening ∈ ['[', '\x7b'] := by
    rcases hpair with ⟨rfl, -⟩ | ⟨rfl, -⟩ <;> decide
  obtain ⟨used, close, gap, htail, hclose, hgap⟩ := Json.exists_closing_of_parse hopening hparse
  have hsplit : inner ++ [closing] ++ trail ++ [c] = used ++ close :: gap := by
    rw [List.append_assoc]
    exact htail
  -- The last character is no gap, so it is the bracket, but prose has none.
  rcases List.eq_nil_or_concat gap with rfl | ⟨gaps, d, rfl⟩
  · have hlast := (List.append_inj' hsplit rfl).2
    rw [List.cons.injEq] at hlast
    have hprose := htrail c (by simp)
    rw [hlast.1] at hprose
    simp only [List.mem_cons, List.not_mem_nil, or_false, not_or] at hprose hclose
    rcases hclose with hclose | hclose
    · exact hprose.2.1 hclose
    · exact hprose.2.2.2.1 hclose
  · rw [List.concat_eq_append, ← List.cons_append, ← List.append_assoc] at hsplit
    have hlast := (List.append_inj' hsplit rfl).2
    rw [List.cons.injEq] at hlast
    have hblank := Json.isBlank_of_isGap (hgap d (by simp))
    rw [← hlast.1, hc] at hblank
    cases hblank

/-! ## Blocks and spans -/

/-- The fenced blocks are those inside the brackets. -/
theorem fencedBlocks_prose {lead bracketed trail : List Char} (h : Bracketed bracketed)
    (hlead : Prose lead) (htrail : Prose trail) :
    fencedBlocks (lead ++ bracketed ++ trail) = fencedBlocks bracketed := by
  obtain ⟨opening, inner, closing, hpair, rfl⟩ := h
  have hstop : IsStop closing := by
    rcases hpair with ⟨-, rfl⟩ | ⟨-, rfl⟩ <;> decide
  have hlast : [closing] <:+ opening :: (inner ++ [closing]) :=
    List.suffix_append (opening :: inner) [closing]
  have hbacktick : ∀ {cs}, Prose cs → '\x60' ∉ cs := fun hprose hmem => hprose _ hmem (by decide)
  rw [List.append_assoc, fencedBlocks_append_left (hbacktick hlead),
    fencedBlocks_append_right hstop hlast (hbacktick htrail)]

/-- Prose in front of a text has no bracket from which a span could begin. -/
theorem fromFirst_prose {c : Char} {lead : List Char} (hlead : Prose lead)
    (hc : c = '[' ∨ c = '\x7b') (cs : List Char) :
    fromFirst (· == c) (lead ++ cs) = fromFirst (· == c) cs := by
  rw [fromFirst, List.dropWhile_append_of_pos, ← fromFirst]
  intro d hd
  have hprose := hlead d hd
  have hne : d ≠ c := by
    rintro rfl
    rcases hc with rfl | rfl <;> simp at hprose
  simp [hne]

/-- The span of the brackets around a text is the text. -/
theorem span_prose {opening closing : Char} (h : IsPair opening closing) {lead trail : List Char}
    (hlead : Prose lead) (htrail : Prose trail) (inner : List Char) :
    span opening closing (lead ++ opening :: (inner ++ [closing]) ++ trail) =
      opening :: (inner ++ [closing]) := by
  have hopening : opening = '[' ∨ opening = '\x7b' := h.imp And.left And.left
  have hbehind : ∀ d ∈ trail, (d == closing) = false := by
    intro d hd
    have hprose := htrail d hd
    rw [beq_eq_false_iff_ne]
    rintro rfl
    rcases h with ⟨-, rfl⟩ | ⟨-, rfl⟩ <;> simp at hprose
  have hfrom : fromFirst (· == opening) (opening :: (inner ++ [closing]) ++ trail) =
      (opening :: inner) ++ closing :: trail := by
    simp [fromFirst]
  have hup := @upToLast_append_cons (· == closing) closing trail (opening :: inner)
    (beq_self_eq_true closing) hbehind
  rw [span, List.append_assoc, fromFirst_prose hlead hopening, hfrom, hup]
  rfl

/-- From its first character on there is more of a text than from another one on. -/
theorem length_fromFirst_lt {c d : Char} (h : c ≠ d) (cs : List Char) :
    (fromFirst (· == d) (c :: cs)).length < (fromFirst (· == c) (c :: cs)).length := by
  have hkeep : fromFirst (· == c) (c :: cs) = c :: cs := by simp [fromFirst]
  have hskip : fromFirst (· == d) (c :: cs) = fromFirst (· == d) cs := by simp [fromFirst, h]
  rw [hkeep, hskip]
  exact Nat.lt_succ_of_le (List.dropWhile_sublist _).length_le

/-- **The outermost span** is the text in brackets, whichever brackets are inside. -/
theorem exists_spans_eq_cons {lead bracketed trail : List Char} (h : Bracketed bracketed)
    (hlead : Prose lead) (htrail : Prose trail) :
    ∃ others, spans (lead ++ bracketed ++ trail) = bracketed :: others := by
  obtain ⟨opening, inner, closing, hpair, rfl⟩ := h
  have hspan := span_prose hpair hlead htrail inner
  have harray := fun cs => fromFirst_prose hlead (Or.inl rfl) cs
  have hobject := fun cs => fromFirst_prose hlead (Or.inr rfl) cs
  -- The text in brackets begins with the first bracket of all.
  rcases hpair with ⟨rfl, rfl⟩ | ⟨rfl, rfl⟩
  · have hfirst : (fromFirst (· == '\x7b') (lead ++ '[' :: (inner ++ [']']) ++ trail)).length <
        (fromFirst (· == '[') (lead ++ '[' :: (inner ++ [']']) ++ trail)).length := by
      rw [List.append_assoc, harray, hobject]
      exact length_fromFirst_lt (by decide) _
    unfold spans
    simp only [hspan, if_pos hfirst]
    exact ⟨_, List.filter_cons_of_pos rfl⟩
  · have hfirst : (fromFirst (· == '[') (lead ++ '\x7b' :: (inner ++ ['\x7d']) ++ trail)).length <
        (fromFirst (· == '\x7b') (lead ++ '\x7b' :: (inner ++ ['\x7d']) ++ trail)).length := by
      rw [List.append_assoc, harray, hobject]
      exact length_fromFirst_lt (by decide) _
    unfold spans
    simp only [hspan, if_neg (Nat.lt_asymm hfirst)]
    exact ⟨_, List.filter_cons_of_pos rfl⟩

/-! ## Extraction -/

/-- **With prose around it, the text in brackets is no JSON as a whole.** -/
theorem parse_prose_ne_ok {lead bracketed trail : List Char} (h : Bracketed bracketed)
    (hlead : Prose lead) (htrail : Prose trail)
    (hprose : ¬ (isBlankText lead = true ∧ isBlankText trail = true)) (json : Json) :
    Json.parse (trimStart lead ++ bracketed ++ trimEnd trail) ≠ .ok json := by
  -- What is trimmed has prose in front, or else behind.
  cases hstart : trimStart lead with
  | cons c rest =>
      have hproseStart := hlead.trimStart
      rw [hstart] at hproseStart
      exact parse_ne_ok_of_lead h hproseStart (isBlank_of_trimStart_eq_cons hstart) _ json
  | nil =>
      have hend : trimEnd trail ≠ [] := by
        intro hend
        exact hprose ⟨trimStart_eq_nil_iff.mp hstart, trimEnd_eq_nil_iff.mp hend⟩
      obtain ⟨front, c, hconcat⟩ := (List.eq_nil_or_concat _).resolve_left hend
      rw [List.concat_eq_append] at hconcat
      have hproseEnd := htrail.trimEnd
      rw [hconcat] at hproseEnd ⊢
      exact parse_ne_ok_of_trail h hproseEnd (isBlank_of_trimEnd_eq_concat hconcat) json

/-- **What is extracted from JSON with prose around it**: the value of the first block inside it
that is JSON, and the value in brackets when there is none. -/
theorem extract_prose {lead bracketed trail : List Char} (h : Bracketed bracketed)
    (hlead : Prose lead) (htrail : Prose trail)
    (hprose : ¬ (isBlankText lead = true ∧ isBlankText trail = true)) {json : Json}
    (hjson : Json.parse bracketed = .ok json) :
    extract (lead ++ bracketed ++ trail) = .ok ((fencedValue? bracketed).getD json).canonical := by
  have hread : read? bracketed = some json := by
    rw [read?, hjson]
    rfl
  obtain ⟨others, hspans⟩ := exists_spans_eq_cons h hlead.trimStart htrail.trimEnd
  have htrim := h.solid.trim_append lead trail
  refine extract_of_candidates ?_ ?_
  · rw [htrim]
    exact parse_prose_ne_ok h hlead htrail hprose
  · -- The blocks are tried first, and the first span behind them is JSON.
    rw [htrim, findSome?_candidates, fencedValue?,
      fencedBlocks_prose h hlead.trimStart htrail.trimEnd, ← fencedValue?, hspans,
      List.findSome?_cons, hread]
    cases fencedValue? bracketed <;> rfl

/-- With nothing but blanks around it, the text in brackets is read as it is. -/
theorem extract_blank {lead bracketed trail : List Char} (h : Bracketed bracketed)
    (hlead : isBlankText lead = true) (htrail : isBlankText trail = true) {json : Json}
    (hjson : Json.parse bracketed = .ok json) :
    extract (lead ++ bracketed ++ trail) = .ok json.canonical := by
  refine extract_of_parse ?_
  rw [h.solid.trim_append, trimStart_eq_nil_iff.mpr hlead, trimEnd_eq_nil_iff.mpr htrail,
    List.nil_append, List.append_nil]
  exact hjson

/-- **Prose around JSON is ignored** exactly unless there is some and the first fenced block inside
the JSON that is JSON itself holds another value. -/
theorem extract_prose_eq_ok_iff (lead bracketed trail : List Char) (json : Json)
    (h : Bracketed bracketed) (hlead : Prose lead) (htrail : Prose trail)
    (hjson : Json.parse bracketed = .ok json) :
    extract (lead ++ bracketed ++ trail) = .ok json.canonical ↔
      isBlankText lead = true ∧ isBlankText trail = true ∨
        ∀ inside, fencedValue? bracketed = some inside → inside.canonical = json.canonical := by
  by_cases hblank : isBlankText lead = true ∧ isBlankText trail = true
  · exact iff_of_true (extract_blank h hblank.1 hblank.2 hjson) (Or.inl hblank)
  · rw [extract_prose h hlead htrail hblank hjson, Except.ok.injEq, or_iff_right hblank]
    cases fencedValue? bracketed with
    | none => simp
    | some inside => simp

/-- One is plain at every depth. -/
theorem plain_one (depth : Nat) : Json.Plain depth (.nat 1) := by
  have hone : Json.Number.InRange 1 := by
    unfold Json.Number.InRange
    decide
  exact .integer depth hone

/-- An array with brackets and a fence in a text, between two sentences. -/
theorem extract_prose_array :
    let json : Json := .array [.object [("a", .nat 1)], .string "\x60\x60\x60 ]"]
    let text := "[\x7b\"a\":1\x7d,\"\x60\x60\x60 ]\"]".toList
    Bracketed text ∧ Prose "Sure: ".toList ∧ Prose " Done.".toList ∧ Json.parse text = .ok json ∧
      extract ("Sure: ".toList ++ text ++ " Done.".toList) = .ok json.canonical := by
  intro json text
  have hbracketed : Bracketed text :=
    ⟨'[', "\x7b\"a\":1\x7d,\"\x60\x60\x60 ]\"".toList, ']', Or.inl ⟨rfl, rfl⟩, by decide +kernel⟩
  have hplain : Json.Plain (125 + 1 + 1) json := by
    have hobject : Json.Plain (125 + 1) (.object [("a", .nat 1)]) :=
      .object (by simpa using plain_one 125)
    exact .array (by simpa using ⟨hobject, .string _ _⟩)
  have hjson : Json.parse text = .ok json := by
    have htext : json.compact.toList = text := by decide +kernel
    rw [← htext]
    exact Json.parse_compact hplain
  have hopen : splitOnce? fence text = some ("[\x7b\"a\":1\x7d,\"".toList, " ]\"]".toList) := by
    decide +kernel
  have hnone : fencedValue? text = none := by
    rw [fencedValue?, fencedBlocks_of_open hopen (by decide +kernel)]
    rfl
  refine ⟨hbracketed, by decide, by decide, hjson, ?_⟩
  refine (extract_prose_eq_ok_iff _ _ _ json hbracketed (by decide) (by decide) hjson).mpr ?_
  right
  intro inside hinside
  rw [hnone] at hinside
  cases hinside

/-- An array of one text that holds a whole block: what is extracted is the value of the block. -/
theorem extract_prose_block :
    let json : Json := .array [.string "What does \x60\x60\x60[1]\x60\x60\x60 hold?"]
    let text := "[\"What does \x60\x60\x60[1]\x60\x60\x60 hold?\"]".toList
    Bracketed text ∧ Prose "Result: ".toList ∧ Prose [] ∧ Json.parse text = .ok json ∧
      extract ("Result: ".toList ++ text ++ []) = .ok (.array [.nat 1]) ∧
      extract ("Result: ".toList ++ text ++ []) ≠ .ok json.canonical := by
  intro json text
  have hbracketed : Bracketed text :=
    ⟨'[', "\"What does \x60\x60\x60[1]\x60\x60\x60 hold?\"".toList, ']', Or.inl ⟨rfl, rfl⟩,
      by decide +kernel⟩
  have hjson : Json.parse text = .ok json := by
    have hplain : Json.Plain (126 + 1) json := .array (by simpa using .string _ _)
    have htext : json.compact.toList = text := by decide +kernel
    rw [← htext]
    exact Json.parse_compact hplain
  have hinside : Json.parse "[1]".toList = .ok (.array [.nat 1]) := by
    have hplain : Json.Plain (126 + 1) (.array [.nat 1]) := .array (by simpa using plain_one 126)
    have htext : (Json.array [.nat 1]).compact.toList = "[1]".toList := by decide +kernel
    rw [← htext]
    exact Json.parse_compact hplain
  have hopen : splitOnce? fence text =
      some ("[\"What does ".toList, "[1]\x60\x60\x60 hold?\"]".toList) := by
    decide +kernel
  have hclose : splitOnce? fence (afterOpening "[1]\x60\x60\x60 hold?\"]".toList) =
      some ("[1]".toList, " hold?\"]".toList) := by
    decide +kernel
  have htrim : trim "[1]".toList = "[1]".toList := by decide +kernel
  have hvalue : fencedValue? text = some (.array [.nat 1]) := by
    rw [fencedValue?, fencedBlocks_of_block hopen hclose, List.map_cons, List.findSome?_cons, htrim,
      read?, hinside]
    rfl
  have hlead : Prose "Result: ".toList := by decide
  have htrail : Prose [] := by decide
  have hextract := extract_prose hbracketed hlead htrail (by decide) hjson
  rw [hvalue] at hextract
  refine ⟨hbracketed, hlead, htrail, hjson, hextract, ?_⟩
  rw [hextract]
  intro heq
  cases heq

end Courseware.Response
