import Courseware.Html.Page
import Courseware.Proofs.Html.PlainText

/-! # Bullets in plain text

A bullet stands in a plain text for every line of the Markdown that opens an item (`opensItem`),
whichever element the line comes from, and for every bullet that the Markdown has itself
(`bullet_mem_plainTextBy_iff`). So it depends on the writer of Markdown where bullets stand. Of the
writer no more is assumed than what is documented of it (`IsMarkdownOf`): it makes up no bullets, it
writes a rule as three stars in a line, and it does not escape preformatted text. That is enough for
rules and preformatted text to get bullets (`bullet_mem_plainTextBy`). -/

namespace Courseware.Html

open Text

variable {c : Char} {cs line : List Char}

/-! ## Lines with bullets -/

/-- Whether a character is the mark of an item. -/
def isMark (c : Char) : Bool := c == '*' || c == '+' || c == '-'

/-- Whether a line opens an item: it starts with a mark and a tab or a space, behind tabs and spaces
or not. -/
def opensItem (line : List Char) : Bool :=
  match line.dropWhile isTabOrSpace with
  | mark :: rest => isMark mark && rest.head?.any isTabOrSpace
  | [] => false

/-- A bullet stands on a line with one or in the place of a mark. -/
theorem bullet_mem_withBullet_iff :
    '•' ∈ withBullet line ↔ '•' ∈ line ∨ opensItem line = true := by
  rw [withBullet, opensItem]
  cases line.dropWhile isTabOrSpace with
  | nil => simp
  | cons mark rest =>
      dsimp only
      rw [← isMark]
      split
      · rename_i h
        simp [h]
      · rename_i h
        simp [h]

/-- A character other than a newline stands on a line. -/
theorem mem_iff_exists_mem_lines (hc : c ≠ '\n') : c ∈ cs ↔ ∃ line ∈ lines cs, c ∈ line := by
  rw [← mem_joinWith_iff hc, joinWith_lines]

/-- **Where bullets come from**: they are in the Markdown, or one of its lines opens an item. -/
theorem bullet_mem_tidied_iff :
    '•' ∈ tidied cs ↔ '•' ∈ cs ∨ ∃ line ∈ lines cs, opensItem line = true := by
  rw [mem_tidied_iff (by decide), withBullets, mem_joinWith_iff (by decide),
    mem_iff_exists_mem_lines (by decide)]
  simp only [List.mem_map, exists_exists_and_eq_and, bullet_mem_withBullet_iff, and_or_left,
    exists_or]

/-- **Bullets of a page that is not blank**, however it is written as Markdown. -/
theorem bullet_mem_plainTextBy_iff (convert : List Char → List Char)
    (hcs : isBlankText cs = false) :
    '•' ∈ plainTextBy convert cs ↔
      '•' ∈ convert cs ∨ ∃ line ∈ lines (convert cs), opensItem line = true := by
  rw [plainTextBy, hcs, if_neg Bool.false_ne_true, bullet_mem_tidied_iff]

/-! ## Pages and their Markdown -/

/-- **A page without bullets of its own**: there is none in its texts or in the values of its
attributes. -/
def Bulletless (nodes : List Node) : Prop :=
  '•' ∉ Node.innerTextAll nodes ∧
    ∀ e ∈ Node.elementsAll nodes, ∀ pair ∈ e.attributes, '•' ∉ pair.2.toList

instance (nodes : List Node) : Decidable (Bulletless nodes) := inferInstanceAs (Decidable (_ ∧ _))

/-- The text of a preformatted element that holds nothing else. -/
def Node.preformatted? : Node → Option (List Char)
  | .element tag _ [.text cs] => if tag == "pre" then some cs else none
  | _ => none

/-- **What is documented of the Markdown of a page**, whose body holds these nodes. -/
@[mk_iff] structure IsMarkdownOf (markdown : List Char) (nodes : List Node) : Prop where
  /-- No bullets are made up: items are marked with stars and numbers. -/
  bullets : Bulletless nodes → '•' ∉ markdown
  /-- A rule is a line of three stars. -/
  rules : (∃ node ∈ nodes, node.tag? = some "hr") → "* * *".toList ∈ lines markdown
  /-- Preformatted text is not escaped, so that a line that looks like an item is written as it
  stands; only blanks at its end may be lost. -/
  preformatted : ∀ text ∈ nodes.filterMap Node.preformatted?, ∀ line ∈ lines text,
    opensItem line = true → trimEnd line = line → line ∈ lines markdown

instance (markdown : List Char) (nodes : List Node) : Decidable (IsMarkdownOf markdown nodes) :=
  decidable_of_iff' _ (isMarkdownOf_iff markdown nodes)

/-- **Bullets do not mark items only.** In the plain text of a page without bullets of its own there
is one exactly when a line of the Markdown opens an item, whatever the line comes from. A rule
always gets a bullet, and so does preformatted text with a line that looks like an item. -/
theorem bullet_mem_plainTextBy {parse : List Char → List Node} {convert : List Char → List Char}
    (hcs : isBlankText cs = false) (h : IsMarkdownOf (convert cs) (parse cs)) :
    (Bulletless (parse cs) →
      ('•' ∈ plainTextBy convert cs ↔ ∃ line ∈ lines (convert cs), opensItem line = true)) ∧
    ((∃ node ∈ parse cs, node.tag? = some "hr") → '•' ∈ plainTextBy convert cs) ∧
    (∀ text ∈ (parse cs).filterMap Node.preformatted?,
      (∃ line ∈ lines text, opensItem line = true ∧ trimEnd line = line) →
        '•' ∈ plainTextBy convert cs) := by
  rw [bullet_mem_plainTextBy_iff convert hcs]
  refine ⟨fun hbulletless => ?_, fun hrule => ?_, ?_⟩
  · exact or_iff_right (h.bullets hbulletless)
  · exact Or.inr ⟨_, h.rules hrule, by decide⟩
  · rintro text htext ⟨line, hline, hopens, htrim⟩
    exact Or.inr ⟨line, h.preformatted text htext line hline hopens htrim, hopens⟩

/-- A dash is escaped at the start of a paragraph, but neither behind a newline there nor in
preformatted text; and a rule has a bullet. -/
theorem bullet_mem_plainText_dash :
    '•' ∉ plainText "<p>- a</p>".toList ∧ '•' ∈ plainText "<p>\n- a</p>".toList ∧
      '•' ∈ plainText "<pre>- a</pre>".toList ∧ '•' ∈ plainText "<hr>".toList := by
  refine ⟨?_, ?_, ?_, ?_⟩
  · have h : IsMarkdownOf (markdown "<p>- a</p>".toList) (page "<p>- a</p>".toList) := by
      decide +kernel
    rw [plainText, (bullet_mem_plainTextBy (by decide) h).1 (by decide +kernel)]
    decide +kernel
  · have h : IsMarkdownOf (markdown "<p>\n- a</p>".toList) (page "<p>\n- a</p>".toList) := by
      decide +kernel
    rw [plainText, (bullet_mem_plainTextBy (by decide) h).1 (by decide +kernel)]
    decide +kernel
  · have h : IsMarkdownOf (markdown "<pre>- a</pre>".toList) (page "<pre>- a</pre>".toList) := by
      decide +kernel
    exact (bullet_mem_plainTextBy (by decide) h).2.2 "- a".toList (by decide +kernel)
      (by decide +kernel)
  · have h : IsMarkdownOf (markdown "<hr>".toList) (page "<hr>".toList) := by decide +kernel
    exact (bullet_mem_plainTextBy (by decide) h).2.1 (by decide +kernel)

/-- **Pages without items get bullets**: one with a rule does. -/
theorem not_bullet_not_mem_plainTextBy :
    ¬ ∀ (parse : List Char → List Node) (convert : List Char → List Char) (cs : List Char),
      IsMarkdownOf (convert cs) (parse cs) →
        (∀ e ∈ Node.elementsAll (parse cs), e.tag ≠ "li") → Bulletless (parse cs) →
          '•' ∉ plainTextBy convert cs := by
  intro h
  exact h page markdown "<hr>".toList (by decide +kernel) (by decide +kernel) (by decide +kernel)
    (by decide +kernel)

end Courseware.Html
