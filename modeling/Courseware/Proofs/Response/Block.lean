import Courseware.Proofs.Json.Extent
import Courseware.Proofs.Json.RoundTrip
import Courseware.Proofs.Response.Fence

/-! # A fenced block in a response

A response often has its JSON in a **fenced block** (`block`): on lines of its own between two
fences. No response with a block is JSON as a whole, whatever is around the block
(`parse_block_ne_ok`), because behind the opening fence there is no quote on the line. When there
are no backticks in front, the block is the first one, and it holds what stands between its fences
(`fencedBlocks_block`). So its JSON is extracted (`extract_block`).
-/

namespace Courseware.Response

open Text

/-- **A fenced block**: a fence with a language name, a text on lines of its own, and a fence. -/
def block (language body : List Char) : List Char :=
  fence ++ language ++ '\n' :: body ++ '\n' :: fence

variable {language body : List Char}

/-- A block has no blanks around it. -/
theorem solid_block (language body : List Char) : Solid (block language body) := by
  refine ⟨⟨'\x60', _, rfl, by decide⟩, ?_⟩
  exact ⟨fence ++ language ++ '\n' :: body ++ ['\n', '\x60', '\x60'], '\x60',
    by simp [block, fence], by decide⟩

/-! ## The whole text -/

/-- A quote is ahead of a line only when it is on the line. -/
theorem mem_of_quoteAhead {line rest : List Char} (h : Json.QuoteAhead (line ++ '\n' :: rest)) :
    '"' ∈ line := by
  obtain ⟨inner, behind, hsplit, hinner⟩ := h
  induction line generalizing inner with
  | nil =>
      -- The newline is the first character, so it is the quote or in front of it.
      cases inner with
      | nil => cases hsplit
      | cons c inner =>
          obtain ⟨rfl, -⟩ := List.cons.inj hsplit
          exact absurd List.mem_cons_self hinner
  | cons c line ih =>
      cases inner with
      | nil =>
          obtain ⟨rfl, -⟩ := List.cons.inj hsplit
          exact List.mem_cons_self
      | cons d inner =>
          exact List.mem_cons_of_mem c
            (ih inner (List.cons.inj hsplit).2 fun hmem => hinner (List.mem_cons_of_mem d hmem))

/-- **With a block in it, a text is no JSON**: behind its first backtick there is no quote on the
line. -/
theorem parse_block_ne_ok (hlanguage : ∀ c ∈ language, isLanguage c = true)
    (lead trail : List Char) (json : Json) :
    Json.parse (lead ++ block language body ++ trail) ≠ .ok json := by
  intro hparse
  have hlines : lead ++ block language body ++ trail =
      lead ++ '\x60' :: (('\x60' :: '\x60' :: language) ++ '\n' :: (body ++ '\n' :: fence ++ trail)) := by
    simp [block, fence]
  have henclosed := Json.enclosed_of_parse hparse
  rw [hlines] at henclosed
  have hquote := mem_of_quoteAhead henclosed.quoteAhead
  simp only [List.mem_cons, Char.reduceEq, false_or] at hquote
  exact absurd (hlanguage '"' hquote) (by decide)

/-! ## The first block -/

/-- What follows the opening line of a block is what stands on the lines behind it. -/
theorem afterOpening_language (hlanguage : ∀ c ∈ language, isLanguage c = true) (cs : List Char) :
    afterOpening (language ++ '\n' :: cs) = cs := by
  have hname : (language ++ '\n' :: cs).dropWhile isLanguage = '\n' :: cs := by
    rw [List.dropWhile_append_of_pos hlanguage, List.dropWhile_cons_of_neg (by decide)]
  have hblanks : ('\n' :: cs).dropWhile (fun c => c == ' ' || c == '\t') = '\n' :: cs :=
    List.dropWhile_cons_of_neg (by decide)
  rw [afterOpening, hname, hblanks]
  rfl

/-- **The first block** holds what stands between its fences, and the next one begins behind it. -/
theorem fencedBlocks_block {lead : List Char} (hlead : '\x60' ∉ lead)
    (hlanguage : ∀ c ∈ language, isLanguage c = true) (hbody : ¬ fence <:+: body)
    (trail : List Char) :
    fencedBlocks (lead ++ block language body ++ trail) =
      (body ++ ['\n']) :: fencedBlocks trail := by
  have hparts : block language body ++ trail =
      fence ++ (language ++ '\n' :: (body ++ '\n' :: (fence ++ trail))) := by
    simp [block]
  have hclose : splitOnce? fence (body ++ '\n' :: (fence ++ trail)) = some (body ++ ['\n'], trail) :=
    splitOnce?_append_cons (by decide) hbody trail
  rw [List.append_assoc, fencedBlocks_append_left hlead, hparts]
  refine fencedBlocks_of_block (splitOnce?_pattern _ _ _) ?_
  rw [afterOpening_language hlanguage, hclose]

/-- **The JSON in the first fenced block is extracted**, whatever stands behind the block and
whatever but backticks stands in front of it. -/
theorem extract_block {lead : List Char} {json : Json} (hlead : '\x60' ∉ lead)
    (hlanguage : ∀ c ∈ language, isLanguage c = true) (hbody : ¬ fence <:+: body)
    (hjson : Json.parse body = .ok json) (trail : List Char) :
    extract (lead ++ block language body ++ trail) = .ok json.canonical := by
  have htrim := (solid_block language body).trim_append lead trail
  have hread : read? (trim (body ++ ['\n'])) = some json := by
    have hgap : Json.IsGaps ['\n'] := by simp [Json.IsGaps, Json.isGap]
    rw [read?, Json.parse_trim (Json.parse_append_gaps hgap hjson)]
    rfl
  have hstart : '\x60' ∉ trimStart lead := fun hmem =>
    hlead ((List.dropWhile_suffix isBlank).subset hmem)
  have hvalue : fencedValue? (trim (lead ++ block language body ++ trail)) = some json := by
    rw [htrim, fencedValue?, fencedBlocks_block hstart hlanguage hbody, List.map_cons,
      List.findSome?_cons, hread]
  refine extract_of_candidates ?_ ?_
  · rw [htrim]
    exact parse_block_ne_ok hlanguage _ _
  · rw [findSome?_candidates, hvalue, Option.some_or]

/-- A block between prose with brackets and quotes and a second block. -/
theorem extract_block_between :
    let lead := "As [you] \"asked\x7b:\n".toList
    let trail := "\nor \x7b\"a\": \"b\"\x7d or\n\x60\x60\x60\n[\"no\"]\n\x60\x60\x60".toList
    let json : Json := .array [.string "one \x60", .bool true]
    '\x60' ∉ lead ∧ (∀ c ∈ "json".toList, isLanguage c = true) ∧
      ¬ fence <:+: "[\"one \x60\",true]".toList ∧ Json.parse "[\"one \x60\",true]".toList = .ok json ∧
      extract (lead ++ block "json".toList "[\"one \x60\",true]".toList ++ trail) =
        .ok json.canonical := by
  intro lead trail json
  have hbody : ¬ fence <:+: "[\"one \x60\",true]".toList := by decide
  have hjson : Json.parse "[\"one \x60\",true]".toList = .ok json := by
    have hplain : Json.Plain (126 + 1) json := .array (by simpa using ⟨.string _ _, .bool _ _⟩)
    have htext : json.compact.toList = "[\"one \x60\",true]".toList := by decide +kernel
    rw [← htext]
    exact Json.parse_compact hplain
  have hlead : '\x60' ∉ lead := by decide
  have hlanguage : ∀ c ∈ "json".toList, isLanguage c = true := List.all_eq_true.mp (by decide)
  exact ⟨hlead, hlanguage, hbody, hjson, extract_block hlead hlanguage hbody hjson trail⟩

end Courseware.Response
