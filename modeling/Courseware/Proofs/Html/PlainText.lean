import Mathlib.Data.List.Chain
import Courseware.Html.Page
import Courseware.Proofs.Text.Lines
import Courseware.Proofs.Text.Trim

/-! # Plain text is clean

Whatever is written of a page, its plain text is **clean** (`Clean`). Three steps make it so, and
none undoes what one before it has done:

* single spaces leave no two spaces next to each other (`isChain_singleSpaced`), and what is taken
  out of rows of blanks later on stands next to a newline (`isChain_calmed`);
* a calm row of blanks has at most two newlines (`spaced_calmed`), and trimming a line keeps whether
  it is blank (`spaced_joinWith_trim`);
* trimmed lines have no blank next to a newline (`isChain_joinWith`), and trimming the whole text
  takes a part of it.

Characters that are not blank pass through all steps (`mem_tidied_iff`). -/

namespace Courseware.Html

open Text

variable {c : Char} {row line cs : List Char} {n : Nat}

/-- **Clean text.** -/
structure Clean (cs : List Char) : Prop where
  /-- The text neither begins nor ends with a blank. -/
  trimmed : trim cs = cs
  /-- No line begins or ends with a blank. -/
  lines : ∀ line ∈ Text.lines cs, trim line = line
  /-- There are no three newlines in a row. -/
  newlines : ¬ ['\n', '\n', '\n'] <:+: cs
  /-- There is no tab. -/
  tab : '\t' ∉ cs
  /-- There is no space that no line may end at. -/
  noBreak : '\u00a0' ∉ cs
  /-- There are no two spaces next to each other. -/
  spaces : ¬ [' ', ' '] <:+: cs

/-! ## Single spaces -/

/-- **Neighbours of which one is no space.** -/
def Apart (a b : Char) : Prop := ¬ (a = ' ' ∧ b = ' ')

/-- Neighbours are apart in both directions. -/
theorem Apart.symm {a b : Char} (h : Apart a b) : Apart b a := fun hboth => h hboth.symm

theorem singleSpaced_cons (c : Char) (cs : List Char) :
    singleSpaced (c :: cs) =
      if isTabOrSpace c || c == '\u00a0' then
        if (singleSpaced cs).head? == some ' ' then singleSpaced cs else ' ' :: singleSpaced cs
      else c :: singleSpaced cs := rfl

/-- **No two spaces** are next to each other among single spaces. -/
theorem isChain_singleSpaced (cs : List Char) : (singleSpaced cs).IsChain Apart := by
  induction cs with
  | nil => exact .nil
  | cons c cs ih =>
      rw [singleSpaced_cons]
      split
      · split
        · exact ih
        · rename_i hhead
          refine List.isChain_cons.mpr ⟨fun d hd hboth => hhead ?_, ih⟩
          rw [Option.mem_def.mp hd, hboth.2]
          rfl
      · rename_i hspace
        refine List.isChain_cons.mpr ⟨fun d _ hboth => hspace ?_, ih⟩
        rw [hboth.1]
        rfl

/-- Of the characters that single spaces replace only the space is left. -/
theorem eq_space_of_mem_singleSpaced (h : c ∈ singleSpaced cs)
    (hc : (isTabOrSpace c || c == '\u00a0') = true) : c = ' ' := by
  induction cs with
  | nil => cases h
  | cons d cs ih =>
      rw [singleSpaced_cons] at h
      split at h
      · split at h
        · exact ih h
        · exact (List.mem_cons.mp h).elim id ih
      · rename_i hd
        rcases List.mem_cons.mp h with rfl | h
        · exact absurd hc hd
        · exact ih h

/-- A character that is replaced by a space is blank. -/
theorem isBlank_of_isTabOrSpace (h : (isTabOrSpace c || c == '\u00a0') = true) :
    isBlank c = true := by
  simp only [isTabOrSpace, Bool.or_eq_true, beq_iff_eq] at h
  rcases h with (rfl | rfl) | rfl <;> decide

/-- Characters that are not blank stay when spaces are made single. -/
theorem mem_singleSpaced_iff (hc : isBlank c = false) : c ∈ singleSpaced cs ↔ c ∈ cs := by
  have hspace : c ≠ ' ' := by
    rintro rfl
    exact absurd hc (by decide)
  induction cs with
  | nil => exact Iff.rfl
  | cons d cs ih =>
      rw [singleSpaced_cons, List.mem_cons]
      split
      · rename_i hd
        have hne : c ≠ d := by
          rintro rfl
          rw [isBlank_of_isTabOrSpace hd] at hc
          cases hc
        split <;> simp [hne, hspace, ih]
      · simp [ih]

/-! ## Rows of blanks -/

/-- **A row of blanks** made calm. -/
def calmRow (row : List Char) : List Char := (calm row.reverse).reverse

/-- A calm row has nothing but newlines beside what was in it. -/
theorem mem_calmRow (h : c ∈ calmRow row) : c ∈ row ∨ c = '\n' := by
  rw [calmRow, List.mem_reverse, calm] at h
  split at h
  · exact Or.inl (List.mem_reverse.mp h)
  · simp only [List.mem_append, List.mem_cons, List.mem_reverse, List.reverse_reverse] at h
    rcases h with h | h | h | h
    · exact Or.inl (List.mem_reverse.mp ((List.takeWhile_prefix _).subset h))
    · exact Or.inr h
    · exact Or.inr h
    · exact Or.inl ((List.takeWhile_prefix _).subset h)

/-- A calm row of blanks is one. -/
theorem isBlankText_calmRow (h : isBlankText row = true) : isBlankText (calmRow row) = true := by
  refine isBlankText_iff.mpr fun c hc => ?_
  rcases mem_calmRow hc with hc | rfl
  · exact isBlankText_iff.mp h c hc
  · decide

/-- **A calm row has at most two newlines.** -/
theorem count_calmRow_le (row : List Char) : (calmRow row).count '\n' ≤ 2 := by
  have hnone : ∀ ds : List Char, (ds.takeWhile (· != '\n')).count '\n' = 0 := by
    intro ds
    refine List.count_eq_zero.mpr fun hmem => ?_
    exact absurd (List.mem_takeWhile_imp hmem) (by decide)
  rw [calmRow, List.count_reverse, calm]
  split
  · omega
  · simp [List.count_append, hnone]

/-- A calm row has no two spaces next to each other, if the row has none. -/
theorem isChain_calmRow (h : row.IsChain Apart) : (calmRow row).IsChain Apart := by
  have hreverse : row.reverse.IsChain Apart :=
    List.isChain_reverse.mpr (h.imp fun _ _ hab => hab.symm)
  refine List.isChain_reverse.mpr (List.IsChain.imp (fun _ _ hab => Apart.symm hab) ?_)
  rw [calm]
  split
  · exact hreverse
  · -- The two ends of the row are kept, and between them stand newlines.
    have hlast : (row.takeWhile (· != '\n')).IsChain Apart :=
      List.IsChain.infix h (List.takeWhile_prefix _).isInfix
    rw [List.reverse_reverse]
    have htaken : (row.reverse.takeWhile (· != '\n')).IsChain Apart :=
      List.IsChain.infix hreverse (List.takeWhile_prefix _).isInfix
    refine List.isChain_append.mpr ⟨htaken, ?_, ?_⟩
    · refine List.isChain_cons.mpr ⟨fun d _ hboth => absurd hboth.1 (by decide), ?_⟩
      refine List.isChain_cons.mpr ⟨fun d _ hboth => absurd hboth.1 (by decide), ?_⟩
      exact List.isChain_reverse.mpr (hlast.imp fun _ _ hab => hab.symm)
    · intro a _ b hb hboth
      rw [← Option.mem_some.mp hb] at hboth
      exact absurd hboth.2 (by decide)

/-- What has been done stays in front. -/
theorem calmedFrom_eq (done blanks cs : List Char) :
    calmedFrom done blanks cs = done.reverse ++ calmedFrom [] blanks cs := by
  induction cs generalizing done blanks with
  | nil => simp [calmedFrom]
  | cons c cs ih =>
      rw [calmedFrom, calmedFrom]
      split
      · exact ih done (c :: blanks)
      · rw [ih, ih (c :: (calm blanks ++ []))]
        simp

/-- **What holds of rows of blanks made calm**, and goes over from a text to one with a row of
blanks and another character in front of it, holds of every text. -/
theorem calmed_induction {motive : List Char → List Char → Prop}
    (blank : ∀ row, isBlankText row = true → motive row (calmRow row))
    (step : ∀ row c cs, isBlankText row = true → isBlank c = false → motive cs (calmed cs) →
      motive (row ++ c :: cs) (calmRow row ++ c :: calmed cs)) (cs : List Char) :
    motive cs (calmed cs) := by
  suffices key : ∀ cs blanks, isBlankText blanks = true →
      motive (blanks.reverse ++ cs) (calmedFrom [] blanks cs) from key cs [] rfl
  intro cs
  induction cs with
  | nil =>
      intro blanks hblanks
      have hrow := blank blanks.reverse (by simpa [isBlankText] using hblanks)
      simpa [calmRow, calmedFrom] using hrow
  | cons c cs ih =>
      intro blanks hblanks
      rw [calmedFrom]
      split
      · rename_i hc
        simpa using ih (c :: blanks) (by simp [hc, hblanks])
      · rename_i hc
        have hrow : isBlankText blanks.reverse = true := by simpa [isBlankText] using hblanks
        have hstep := step _ c cs hrow (eq_false_of_ne_true hc) (ih [] rfl)
        rw [calmedFrom_eq]
        simpa [calmRow, calmed] using hstep

/-- Calm texts have nothing but newlines beside what was in them. -/
theorem mem_calmed (h : c ∈ calmed cs) : c ∈ cs ∨ c = '\n' := by
  revert h
  refine calmed_induction (motive := fun cs calm => c ∈ calm → c ∈ cs ∨ c = '\n') ?_ ?_ cs
  · exact fun row _ => mem_calmRow
  · intro row d cs _ _ ih h
    simp only [List.mem_append, List.mem_cons] at h ⊢
    rcases h with h | h | h
    · exact (mem_calmRow h).imp_left Or.inl
    · exact Or.inl (Or.inr (Or.inl h))
    · exact (ih h).imp_left fun h => Or.inr (Or.inr h)

/-- Characters that are not blank stay when a text is made calm. -/
theorem mem_calmed_iff (hc : isBlank c = false) : c ∈ calmed cs ↔ c ∈ cs := by
  have hrow : ∀ row, isBlankText row = true → c ∉ row := fun row hrow hmem => by
    rw [isBlankText_iff.mp hrow c hmem] at hc
    cases hc
  refine calmed_induction (motive := fun cs calm => c ∈ calm ↔ c ∈ cs) ?_ ?_ cs
  · exact fun row h => iff_of_false (hrow _ (isBlankText_calmRow h)) (hrow _ h)
  · intro row d cs h _ ih
    simp only [List.mem_append, List.mem_cons, ih, hrow _ h, hrow _ (isBlankText_calmRow h)]

/-- **Calm texts have no two spaces** next to each other, if the texts have none. -/
theorem isChain_calmed (h : cs.IsChain Apart) : (calmed cs).IsChain Apart := by
  revert h
  refine calmed_induction (motive := fun cs calm => cs.IsChain Apart → calm.IsChain Apart) ?_ ?_ cs
  · exact fun row _ => isChain_calmRow
  · intro row d cs _ hd ih h
    have hspace : d ≠ ' ' := by
      rintro rfl
      exact absurd hd (by decide)
    obtain ⟨hrow, hrest, -⟩ := List.isChain_append.mp h
    refine List.isChain_append.mpr ⟨isChain_calmRow hrow, ?_, fun a _ b hb hboth => ?_⟩
    · refine List.isChain_cons.mpr ⟨fun e _ hboth => hspace hboth.1, ?_⟩
      exact ih (List.isChain_cons.mp hrest).2
    · rw [← Option.mem_some.mp hb] at hboth
      exact hspace hboth.2

/-! ## Newlines -/

/-- **A text in which no row of blanks has more than two newlines**, when `n` newlines of a row
stand in front of it. -/
def Spaced (n : Nat) : List Char → Prop
  | [] => True
  | c :: cs =>
    if c = '\n' then n < 2 ∧ Spaced (n + 1) cs
    else if isBlank c = true then Spaced n cs
    else Spaced 0 cs

/-- Behind a character that is not blank a row of blanks begins. -/
theorem spaced_cons (hc : isBlank c = false) : Spaced n (c :: cs) ↔ Spaced 0 cs := by
  have hnewline : c ≠ '\n' := by
    rintro rfl
    exact absurd hc (by decide)
  rw [Spaced, if_neg hnewline, if_neg (by rw [hc]; exact Bool.false_ne_true)]

/-- With fewer newlines in front of it a text is spaced, too. -/
theorem Spaced.mono {m : Nat} (h : Spaced n cs) (hle : m ≤ n) : Spaced m cs := by
  induction cs generalizing m n with
  | nil => trivial
  | cons c cs ih =>
      rw [Spaced] at h ⊢
      split at h
      · rename_i hc
        rw [if_pos hc]
        exact ⟨by omega, ih h.2 (by omega)⟩
      · rename_i hc
        rw [if_neg hc]
        split at h
        · rename_i hblank
          rw [if_pos hblank]
          exact ih h hle
        · rename_i hblank
          rwa [if_neg hblank]

/-- A start of a spaced text is spaced. -/
theorem Spaced.left {xs ys : List Char} (h : Spaced n (xs ++ ys)) : Spaced n xs := by
  induction xs generalizing n with
  | nil => trivial
  | cons c xs ih =>
      rw [List.cons_append, Spaced] at h
      rw [Spaced]
      split at h
      · rename_i hc
        rw [if_pos hc]
        exact ⟨h.1, ih h.2⟩
      · rename_i hc
        rw [if_neg hc]
        split at h
        · rename_i hblank
          rw [if_pos hblank]
          exact ih h
        · rename_i hblank
          rw [if_neg hblank]
          exact ih h

/-- An end of a spaced text is spaced. -/
theorem Spaced.right {xs ys : List Char} (h : Spaced n (xs ++ ys)) : Spaced 0 ys := by
  induction xs generalizing n with
  | nil => exact h.mono (Nat.zero_le n)
  | cons c xs ih =>
      rw [List.cons_append, Spaced] at h
      split at h
      · exact ih h.2
      · split at h <;> exact ih h

/-- **A part of a spaced text is spaced.** -/
theorem Spaced.inside {part : List Char} (h : Spaced n cs) (hpart : part <:+: cs) :
    Spaced 0 part := by
  obtain ⟨lead, trail, rfl⟩ := hpart
  exact h.left.right

/-- A row of blanks with few newlines in front of a text. -/
theorem spaced_append (hrow : isBlankText row = true) (hcount : n + row.count '\n' ≤ 2)
    (h : Spaced (n + row.count '\n') cs) : Spaced n (row ++ cs) := by
  induction row generalizing n with
  | nil => simpa using h
  | cons c row ih =>
      rw [isBlankText_cons, Bool.and_eq_true] at hrow
      rw [List.cons_append, Spaced]
      split
      · rename_i hc
        subst hc
        rw [List.count_cons_self] at hcount h
        refine ⟨by omega, ih hrow.2 (by omega) ?_⟩
        rwa [Nat.add_right_comm, Nat.add_assoc]
      · rename_i hc
        rw [List.count_cons_of_ne hc] at hcount h
        rw [if_pos hrow.1]
        exact ih hrow.2 hcount h

/-- **Calm texts** have no row of blanks with more than two newlines. -/
theorem spaced_calmed (cs : List Char) : Spaced 0 (calmed cs) := by
  refine calmed_induction (motive := fun _ calm => Spaced 0 calm) ?_ ?_ cs
  · intro row hrow
    rw [← List.append_nil (calmRow row)]
    refine spaced_append (isBlankText_calmRow hrow) ?_ trivial
    have hcount := count_calmRow_le row
    omega
  · intro row c cs hrow hc ih
    have hcount := count_calmRow_le row
    exact spaced_append (isBlankText_calmRow hrow) (by omega) ((spaced_cons hc).mpr ih)

/-- All that matters of a line is whether it is blank. -/
theorem spaced_line (h : '\n' ∉ line) :
    Spaced n (line ++ cs) ↔ Spaced (if isBlankText line = true then n else 0) cs := by
  induction line generalizing n with
  | nil => rfl
  | cons c line ih =>
      obtain ⟨hc, hline⟩ := not_or.mp (mt List.mem_cons.mpr h)
      rw [List.cons_append, Spaced, if_neg (Ne.symm hc), isBlankText_cons]
      cases isBlank c with
      | true => simpa using ih hline
      | false => simpa using ih (n := 0) hline

/-- Joining lines behind a line. -/
theorem joinWith_cons_cons (first second : List Char) (rest : List (List Char)) :
    joinWith ['\n'] (first :: second :: rest) =
      first ++ '\n' :: joinWith ['\n'] (second :: rest) := by
  rw [joinWith, List.intercalate_cons_cons, List.append_assoc]
  rfl

/-- Trimming brings no newline into a line. -/
theorem newline_not_mem_trim (h : '\n' ∉ line) : '\n' ∉ trim line :=
  fun hmem => h ((trim_isInfix line).subset hmem)

/-- **Trimming the lines** of a text gives no row of blanks more newlines. -/
theorem spaced_joinWith_trim {rows : List (List Char)} (hrows : ∀ line ∈ rows, '\n' ∉ line)
    (h : Spaced n (joinWith ['\n'] rows)) : Spaced n (joinWith ['\n'] (rows.map trim)) := by
  induction rows generalizing n with
  | nil => exact h
  | cons first rest ih =>
      obtain ⟨hfirst, hrest⟩ := List.forall_mem_cons.mp hrows
      have htrim := newline_not_mem_trim hfirst
      cases rest with
      | nil =>
          have hline : Spaced n (first ++ []) := by simpa [joinWith] using h
          rw [spaced_line hfirst, ← isBlankText_trim, ← spaced_line htrim] at hline
          simpa [joinWith] using hline
      | cons second rest =>
          rw [joinWith_cons_cons, spaced_line hfirst, ← isBlankText_trim] at h
          rw [List.map_cons, List.map_cons, joinWith_cons_cons, spaced_line htrim]
          rw [Spaced, if_pos rfl] at h ⊢
          exact ⟨h.1, ih hrest h.2⟩

/-! ## Ends of lines -/

/-- **Neighbours in clean text**: one of them is no space, and next to a newline there is a newline
or a character that is not blank. -/
structure Neat (a b : Char) : Prop where
  /-- One of them is no space. -/
  apart : Apart a b
  /-- What follows a newline. -/
  behind : a = '\n' → isBlank b = true → b = '\n'
  /-- What is followed by a newline. -/
  before : b = '\n' → isBlank a = true → a = '\n'

/-- A text without blanks at its ends has neat neighbours when it stands between newlines. -/
theorem isChain_between (h : cs.IsChain Neat) (hends : cs = [] ∨ Solid cs) :
    ('\n' :: cs ++ ['\n']).IsChain Neat := by
  rcases hends with rfl | ⟨⟨c, tail, hstart, hc⟩, ⟨front, d, hend, hd⟩⟩
  · simp only [List.nil_append, List.cons_append, List.isChain_pair]
    exact ⟨fun hboth => absurd hboth.1 (by decide), fun _ _ => rfl, fun _ _ => rfl⟩
  · refine List.isChain_append.mpr ⟨?_, List.isChain_singleton _, ?_⟩
    · refine List.isChain_cons.mpr ⟨fun b hb => ?_, h⟩
      rw [hstart, List.head?_cons, Option.mem_some] at hb
      subst hb
      refine ⟨fun hboth => absurd hboth.1 (by decide), fun _ hblank => ?_, fun _ _ => rfl⟩
      rw [hc] at hblank
      cases hblank
    · intro a ha b hb
      rw [hend, ← List.cons_append, List.getLast?_append, List.getLast?_singleton,
        Option.some_or, Option.mem_some] at ha
      rw [List.head?_cons, Option.mem_some] at hb
      subst ha hb
      refine ⟨fun hboth => absurd hboth.2 (by decide), fun _ _ => rfl, fun _ hblank => ?_⟩
      rw [hd] at hblank
      cases hblank

/-- What trimming leaves is nothing, or it has no blanks at its ends. -/
theorem trim_eq_nil_or_solid (cs : List Char) : trim cs = [] ∨ Solid (trim cs) := by
  by_cases h : trim cs = []
  · exact Or.inl h
  · exact Or.inr (solid_trim h)

/-- A trimmed line without two spaces next to each other has neat neighbours. -/
theorem isChain_line (hnewline : '\n' ∉ line) (h : line.IsChain Apart) :
    ('\n' :: trim line ++ ['\n']).IsChain Neat := by
  refine isChain_between ?_ (trim_eq_nil_or_solid line)
  have htrimmed : (trim line).IsChain Apart := List.IsChain.infix h (trim_isInfix line)
  refine htrimmed.imp_of_mem_imp fun a b ha hb hapart => ?_
  have hnone := newline_not_mem_trim hnewline
  exact ⟨hapart, fun heq => absurd (heq ▸ ha) hnone, fun heq => absurd (heq ▸ hb) hnone⟩

/-- **Lines with neat neighbours joined** have neat neighbours. -/
theorem isChain_joinWith {rows : List (List Char)} (hne : rows ≠ [])
    (h : ∀ line ∈ rows, ('\n' :: line ++ ['\n']).IsChain Neat) :
    ('\n' :: joinWith ['\n'] rows ++ ['\n']).IsChain Neat := by
  induction rows with
  | nil => exact absurd rfl hne
  | cons first rest ih =>
      obtain ⟨hfirst, hrest⟩ := List.forall_mem_cons.mp h
      cases rest with
      | nil => simpa [joinWith] using hfirst
      | cons second rest =>
          have hjoined := ih (List.cons_ne_nil second rest) hrest
          rw [joinWith_cons_cons, ← List.cons_append, List.append_assoc]
          exact List.isChain_split.mpr ⟨hfirst, hjoined⟩

/-- A line between newlines with neat neighbours has no blanks at its ends. -/
theorem trim_eq_of_isChain (hnewline : '\n' ∉ line)
    (h : ('\n' :: line ++ ['\n']).IsChain Neat) : trim line = line := by
  rcases List.eq_nil_or_concat line with rfl | ⟨front, d, hconcat⟩
  · rfl
  rw [List.concat_eq_append] at hconcat
  obtain ⟨c, tail, hcons⟩ := List.exists_cons_of_ne_nil (l := line) (by simp [hconcat])
  refine Solid.trim_eq ⟨⟨c, tail, hcons, ?_⟩, ⟨front, d, hconcat, ?_⟩⟩
  · -- The first character follows a newline.
    have hneat : Neat '\n' c := by
      rw [hcons] at h
      exact (List.isChain_cons_cons.mp h).1
    refine eq_false_of_ne_true fun hblank => hnewline ?_
    rw [hcons, hneat.behind rfl hblank]
    exact List.mem_cons_self
  · -- The last one is followed by a newline.
    have hneat : Neat d '\n' := by
      have hpart : [d, '\n'] <:+: '\n' :: line ++ ['\n'] := ⟨'\n' :: front, [], by simp [hconcat]⟩
      have hpair : [d, '\n'].IsChain Neat := List.IsChain.infix h hpart
      exact List.isChain_pair.mp hpair
    refine eq_false_of_ne_true fun hblank => hnewline ?_
    rw [hconcat, hneat.before rfl hblank]
    exact List.mem_append_right _ List.mem_cons_self

/-! ## Trimmed lines -/

/-- Lines without two spaces next to each other have neat neighbours when they are trimmed. -/
theorem isChain_trimmedLines (h : cs.IsChain Apart) :
    ('\n' :: trimmedLines cs ++ ['\n']).IsChain Neat := by
  have hjoined : ('\n' :: joinWith ['\n'] ((Text.lines cs).map trim) ++ ['\n']).IsChain Neat := by
    refine isChain_joinWith (by simpa using lines_ne_nil cs) fun trimmed htrimmed => ?_
    obtain ⟨line, hmem, rfl⟩ := List.mem_map.mp htrimmed
    refine isChain_line (newline_not_mem_of_mem_lines hmem) ?_
    -- The line is a part of the text between newlines, so it has no two spaces either.
    have hbetween : ('\n' :: cs ++ ['\n']).IsChain Apart := by
      refine List.isChain_append.mpr ⟨List.isChain_cons.mpr ⟨?_, h⟩, List.isChain_singleton _, ?_⟩
      · exact fun b _ hboth => absurd hboth.1 (by decide)
      · intro a _ b hb hboth
        rw [← Option.mem_some.mp hb] at hboth
        exact absurd hboth.2 (by decide)
    refine List.IsChain.infix hbetween (List.IsInfix.trans ?_ (between_newlines hmem))
    exact ⟨['\n'], ['\n'], rfl⟩
  have hinside :
      trimmedLines cs <:+: '\n' :: joinWith ['\n'] ((Text.lines cs).map trim) ++ ['\n'] :=
    (trim_isInfix _).trans ⟨['\n'], ['\n'], rfl⟩
  have htrimmed : (trimmedLines cs).IsChain Neat := List.IsChain.infix hjoined hinside
  exact isChain_between htrimmed (trim_eq_nil_or_solid _)

/-- Trimmed lines have no row of blanks with more newlines than the text. -/
theorem spaced_trimmedLines (h : Spaced 0 cs) : Spaced 0 (trimmedLines cs) := by
  rw [← joinWith_lines cs] at h
  have hrows : ∀ line ∈ Text.lines cs, '\n' ∉ line := fun _ => newline_not_mem_of_mem_lines
  exact (spaced_joinWith_trim hrows h).inside (trim_isInfix _)

/-- What is in joined lines is in a line, or it is the newline between them. -/
theorem mem_joinWith_iff {rows : List (List Char)} (hc : c ≠ '\n') :
    c ∈ joinWith ['\n'] rows ↔ ∃ line ∈ rows, c ∈ line := by
  induction rows with
  | nil => simp [joinWith]
  | cons first rest ih =>
      cases rest with
      | nil => simp [joinWith]
      | cons second rest => simp [joinWith_cons_cons, ih, hc]

/-- Trimming takes away only blanks. -/
theorem mem_trim_iff (hc : isBlank c = false) : c ∈ trim cs ↔ c ∈ cs := by
  refine ⟨fun h => (trim_isInfix cs).subset h, fun h => ?_⟩
  obtain ⟨lead, trail, hcs, hlead, htrail⟩ := exists_eq_append_trim cs
  have hblank : ∀ part, isBlankText part = true → c ∉ part := fun part hpart hmem => by
    rw [isBlankText_iff.mp hpart c hmem] at hc
    cases hc
  rw [hcs, List.mem_append, List.mem_append] at h
  exact (h.resolve_right (hblank trail htrail)).resolve_left (hblank lead hlead)

/-- Trimmed lines have nothing but newlines beside what was in the text. -/
theorem mem_trimmedLines (h : c ∈ trimmedLines cs) (hc : c ≠ '\n') : c ∈ cs := by
  obtain ⟨trimmed, htrimmed, hmem⟩ := (mem_joinWith_iff hc).mp ((trim_isInfix _).subset h)
  obtain ⟨line, hline, rfl⟩ := List.mem_map.mp htrimmed
  rw [← joinWith_lines cs]
  exact (mem_joinWith_iff hc).mpr ⟨line, hline, (trim_isInfix line).subset hmem⟩

/-- Characters that are not blank stay when lines are trimmed. -/
theorem mem_trimmedLines_iff (hc : isBlank c = false) : c ∈ trimmedLines cs ↔ c ∈ cs := by
  have hnewline : c ≠ '\n' := by
    rintro rfl
    exact absurd hc (by decide)
  refine ⟨fun h => mem_trimmedLines h hnewline, fun h => ?_⟩
  rw [← joinWith_lines cs] at h
  obtain ⟨line, hline, hmem⟩ := (mem_joinWith_iff hnewline).mp h
  refine (mem_trim_iff hc).mpr ((mem_joinWith_iff hnewline).mpr ?_)
  exact ⟨trim line, List.mem_map_of_mem hline, (mem_trim_iff hc).mpr hmem⟩

/-! ## Plain text -/

/-- **Characters that are not blank** stay when Markdown is tidied, once its items have bullets. -/
theorem mem_tidied_iff (hc : isBlank c = false) : c ∈ tidied cs ↔ c ∈ withBullets cs := by
  rw [tidied, mem_trimmedLines_iff hc, mem_calmed_iff hc, mem_singleSpaced_iff hc]

/-- **Tidied text is clean**, whatever it is made from. -/
theorem clean_tidied (markdown : List Char) : Clean (tidied markdown) := by
  have hsingle := isChain_singleSpaced (withBullets markdown)
  have hneat : ('\n' :: tidied markdown ++ ['\n']).IsChain Neat :=
    isChain_trimmedLines (isChain_calmed hsingle)
  -- Of blanks that are no newlines there are only those that single spaces leave.
  have hgap : ∀ c ∈ tidied markdown, (isTabOrSpace c || c == '\u00a0') = true → c = ' ' := by
    intro c hmem hc
    have hnewline : c ≠ '\n' := by
      rintro rfl
      exact absurd hc (by decide)
    have hcalmed := mem_trimmedLines hmem hnewline
    exact eq_space_of_mem_singleSpaced ((mem_calmed hcalmed).resolve_right hnewline) hc
  constructor
  case trimmed => exact trim_trim _
  case lines =>
    intro line hline
    have hbetween : ('\n' :: line ++ ['\n']).IsChain Neat :=
      List.IsChain.infix hneat (between_newlines hline)
    exact trim_eq_of_isChain (newline_not_mem_of_mem_lines hline) hbetween
  case newlines =>
    intro hinside
    have hspaced := (spaced_trimmedLines (spaced_calmed _)).inside hinside
    simp [Spaced] at hspaced
  case tab => exact fun hmem => absurd (hgap _ hmem rfl) (by decide)
  case noBreak => exact fun hmem => absurd (hgap _ hmem rfl) (by decide)
  case spaces =>
    intro hinside
    have hpart : [' ', ' '] <:+: '\n' :: tidied markdown ++ ['\n'] :=
      hinside.trans ⟨['\n'], ['\n'], rfl⟩
    have hpair : [' ', ' '].IsChain Neat := List.IsChain.infix hneat hpart
    exact (List.isChain_pair.mp hpair).apart ⟨rfl, rfl⟩

/-- **Plain text is clean**, for every page and however the page is written as Markdown. -/
theorem clean_plainText (cs : List Char) :
    Clean (plainText cs) ∧ ∀ convert, Clean (plainTextBy convert cs) := by
  have hall : ∀ convert, Clean (plainTextBy convert cs) := by
    intro convert
    rw [plainTextBy]
    split
    · exact ⟨rfl, by simp [trim, trimStart, trimEnd], by simp, by simp, by simp, by simp⟩
    · exact clean_tidied _
  exact ⟨hall markdown, hall⟩

end Courseware.Html
