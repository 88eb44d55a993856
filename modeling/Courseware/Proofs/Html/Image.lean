import Mathlib.Data.List.Induction
import Mathlib.Data.List.Nodup
import Courseware.Html.Image

/-! # What a page says about its images

A node of a page is found by its **path** (`nodeAt?`): the numbers of its ancestors among their
siblings, from the outside in, and then its own. Paths in lexicographic order are document order: an
element comes before those inside it, and these before those behind it (`pairwise_locatedAll`). What
is said about images is collected in three passes, so that its **spot** is the number of the pass
and then the path (`Says`).

* **The descriptions of images** are the texts that are said, with one space between their words and
  without the empty ones, each of them once and where it is said first
  (`imageDescriptionsBy_eq_iff`).

How a page is read is a parameter of all this: nothing is assumed of the tree that it is read as. -/

namespace Courseware.Html

open Text

/-! ## Paths -/

/-- The nodes directly inside a node. -/
def Node.children : Node → List Node
  | .element _ _ children => children
  | _ => []

/-- **The node at a path** inside a node, or the node itself. -/
def Node.below? : Node → List Nat → Option Node
  | node, [] => some node
  | node, i :: path => node.children[i]?.bind fun child => child.below? path

/-- **The node at a path** of a row of nodes. -/
def nodeAt? (nodes : List Node) : List Nat → Option Node
  | [] => none
  | i :: path => nodes[i]?.bind fun node => node.below? path

/-- The element that a node is. -/
def Node.element? : Node → Option Element
  | .element tag attributes children => some ⟨tag, attributes, Node.innerTextAll children⟩
  | _ => none

mutual

/-- The elements of a node with their paths. -/
def Node.located : Node → List (List Nat × Element)
  | .text _ => []
  | .comment => []
  | .element tag attributes children =>
    ([], ⟨tag, attributes, Node.innerTextAll children⟩) :: Node.locatedAll 0 children

/-- The elements of a row of nodes with their paths; the first node has the number `i`. -/
def Node.locatedAll (i : Nat) : List Node → List (List Nat × Element)
  | [] => []
  | node :: nodes =>
    (node.located.map fun found => (i :: found.1, found.2)) ++ Node.locatedAll (i + 1) nodes

end

mutual

/-- The elements of a node are those found at paths. -/
theorem Node.map_snd_located (node : Node) : node.located.map Prod.snd = node.elements := by
  cases node with
  | text cs => rfl
  | comment => rfl
  | element tag attributes children =>
      rw [Node.located, Node.elements, List.map_cons, Node.map_snd_locatedAll]

/-- The elements of a row of nodes are those found at paths. -/
theorem Node.map_snd_locatedAll (i : Nat) (nodes : List Node) :
    (Node.locatedAll i nodes).map Prod.snd = Node.elementsAll nodes := by
  cases nodes with
  | nil => rfl
  | cons node nodes =>
      rw [Node.locatedAll, Node.elementsAll, List.map_append, List.map_map,
        Node.map_snd_locatedAll, ← Node.map_snd_located]
      rfl

end

mutual

/-- **An element of a node** is found at its path. -/
theorem Node.mem_located (node : Node) (path : List Nat) (e : Element) :
    (path, e) ∈ node.located ↔ (node.below? path).bind Node.element? = some e := by
  cases node with
  | text cs => cases path <;> simp [Node.located, Node.below?, Node.children, Node.element?]
  | comment => cases path <;> simp [Node.located, Node.below?, Node.children, Node.element?]
  | element tag attributes children =>
      rw [Node.located, List.mem_cons, Node.mem_locatedAll]
      cases path with
      | nil => simp [Node.below?, Node.element?, eq_comm]
      | cons i path => simp [Node.below?, Node.children]

/-- **An element of a row of nodes** is found at its path. -/
theorem Node.mem_locatedAll (i : Nat) (nodes : List Node) (path : List Nat) (e : Element) :
    (path, e) ∈ Node.locatedAll i nodes ↔ ∃ j rest, path = (i + j) :: rest ∧
      (nodes[j]?.bind fun node => node.below? rest).bind Node.element? = some e := by
  cases nodes with
  | nil => simp [Node.locatedAll]
  | cons node nodes =>
      rw [Node.locatedAll, List.mem_append, List.mem_map, Node.mem_locatedAll]
      constructor
      · rintro (⟨⟨rest, e'⟩, hmem, heq⟩ | ⟨j, rest, rfl, h⟩)
        · obtain ⟨rfl, rfl⟩ := Prod.mk.inj heq
          exact ⟨0, rest, rfl, (Node.mem_located node rest e').mp hmem⟩
        · exact ⟨j + 1, rest, by rw [Nat.add_assoc, Nat.add_comm 1], h⟩
      · rintro ⟨j, rest, rfl, h⟩
        cases j with
        | zero => exact Or.inl ⟨(rest, e), (Node.mem_located node rest e).mpr h, rfl⟩
        | succ j => exact Or.inr ⟨j, rest, by rw [Nat.add_assoc, Nat.add_comm 1], h⟩

end

/-- An element of a page is found at its path. -/
theorem mem_locatedAll_zero {nodes : List Node} {path : List Nat} {e : Element} :
    (path, e) ∈ Node.locatedAll 0 nodes ↔ (nodeAt? nodes path).bind Node.element? = some e := by
  rw [Node.mem_locatedAll]
  cases path with
  | nil => simp [nodeAt?]
  | cons i path => simp [nodeAt?]

/-- The rows of elements with paths that ascend. -/
abbrev Ascends {α : Type} (found : List (List Nat × α)) : Prop :=
  found.Pairwise fun x y => x.1 < y.1

mutual

/-- **The elements of a node are in document order.** -/
theorem Node.pairwise_located (node : Node) : Ascends node.located := by
  cases node with
  | text cs => exact List.Pairwise.nil
  | comment => exact List.Pairwise.nil
  | element tag attributes children =>
      refine List.pairwise_cons.mpr ⟨?_, Node.pairwise_locatedAll 0 children⟩
      rintro ⟨path, e⟩ hmem
      obtain ⟨j, rest, rfl, -⟩ := (Node.mem_locatedAll 0 children path e).mp hmem
      exact List.nil_lt_cons _ _

/-- **The elements of a row of nodes are in document order.** -/
theorem Node.pairwise_locatedAll (i : Nat) (nodes : List Node) :
    Ascends (Node.locatedAll i nodes) := by
  cases nodes with
  | nil => exact List.Pairwise.nil
  | cons node nodes =>
      refine List.pairwise_append.mpr
        ⟨List.pairwise_map.mpr ?_, Node.pairwise_locatedAll (i + 1) nodes, ?_⟩
      · exact (Node.pairwise_located node).imp fun h => List.cons_lt_cons_iff.mpr (Or.inr ⟨rfl, h⟩)
      · -- Behind the first node all paths begin with a greater number.
        rintro x hx ⟨path, e⟩ hmem
        obtain ⟨found, -, rfl⟩ := List.mem_map.mp hx
        obtain ⟨j, rest, rfl, -⟩ := (Node.mem_locatedAll (i + 1) nodes path e).mp hmem
        exact List.cons_lt_cons_iff.mpr (Or.inl (by omega))

end

/-! ## What is said -/

/-- **What a page says about its images, and at which spot**: the text in the place of an image in
the first pass, the caption of a figure in the second and the title of an image in the third, each
with the path of its element. -/
inductive Says (nodes : List Node) : List Nat → List Char → Prop where
  /-- The text in the place of an image. -/
  | replacement {path : List Nat} {attributes : Attributes} {children : List Node} {value : String}
      (hnode : nodeAt? nodes path = some (.element "img" attributes children))
      (hvalue : attributes.value? "alt" = some value) : Says nodes (0 :: path) value.toList
  /-- The caption of a figure. -/
  | caption {path : List Nat} {attributes : Attributes} {children : List Node}
      (hnode : nodeAt? nodes path = some (.element "figcaption" attributes children)) :
      Says nodes (1 :: path) (Node.innerTextAll children)
  /-- The title of an image. -/
  | title {path : List Nat} {attributes : Attributes} {children : List Node} {value : String}
      (hnode : nodeAt? nodes path = some (.element "img" attributes children))
      (hvalue : attributes.value? "title" = some value) : Says nodes (2 :: path) value.toList

/-- **A description at a spot**: the words of what is said there with single spaces between them, if
there are any. -/
def Describes (nodes : List Node) (spot : List Nat) (description : List Char) : Prop :=
  ∃ said, Says nodes spot said ∧ description = joinWith [' '] (words said) ∧ description ≠ []

/-- The value of an attribute of an image. -/
def imageValue? (name : String) (e : Element) : Option (List Char) :=
  if e.tag == "img" then (e.attributes.value? name).map String.toList else none

/-- The text of a caption. -/
def caption? (e : Element) : Option (List Char) :=
  if e.tag == "figcaption" then some e.innerText else none

/-- What one pass finds, with its spots. -/
def pass (number : Nat) (text? : Element → Option (List Char)) (nodes : List Node) :
    List (List Nat × List Char) :=
  (Node.locatedAll 0 nodes).filterMap fun found =>
    (text? found.2).map fun text => (number :: found.1, text)

/-- What the three passes find, with its spots. -/
def passes (nodes : List Node) : List (List Nat × List Char) :=
  pass 0 (imageValue? "alt") nodes ++ pass 1 caption? nodes ++ pass 2 (imageValue? "title") nodes

section Passes

variable {number : Nat} {text? : Element → Option (List Char)} {nodes : List Node}
variable {spot : List Nat} {text : List Char}

/-- A pass finds the texts of the elements in document order. -/
theorem map_snd_pass : (pass number text? nodes).map Prod.snd =
    (Node.elementsAll nodes).filterMap text? := by
  rw [pass, List.map_filterMap, ← Node.map_snd_locatedAll 0 nodes, List.filterMap_map]
  congr 1
  funext found
  cases h : text? found.2 <;> simp [h]

/-- An element at a path with its tag, attributes and children. -/
theorem nodeAt?_bind_element? {path : List Nat} {e : Element} :
    (nodeAt? nodes path).bind Node.element? = some e ↔ ∃ tag attributes children,
      nodeAt? nodes path = some (.element tag attributes children) ∧
        e = ⟨tag, attributes, Node.innerTextAll children⟩ := by
  constructor
  · intro h
    obtain ⟨node, hnode, he⟩ := Option.bind_eq_some_iff.mp h
    cases node with
    | text cs => cases he
    | comment => cases he
    | element tag attributes children =>
        exact ⟨tag, attributes, children, hnode, (Option.some.inj he).symm⟩
  · rintro ⟨tag, attributes, children, hnode, rfl⟩
    rw [hnode]
    rfl

/-- What a pass finds, by the paths of elements. -/
theorem mem_pass : (spot, text) ∈ pass number text? nodes ↔ ∃ path tag attributes children,
    spot = number :: path ∧ nodeAt? nodes path = some (.element tag attributes children) ∧
      text? ⟨tag, attributes, Node.innerTextAll children⟩ = some text := by
  simp only [pass, List.mem_filterMap, Option.map_eq_some_iff, Prod.mk.injEq, Prod.exists,
    mem_locatedAll_zero, nodeAt?_bind_element?]
  constructor
  · rintro ⟨path, _, ⟨tag, attributes, children, hnode, rfl⟩, _, htext, rfl, rfl⟩
    exact ⟨path, tag, attributes, children, rfl, hnode, htext⟩
  · rintro ⟨path, tag, attributes, children, rfl, hnode, htext⟩
    exact ⟨path, _, ⟨tag, attributes, children, hnode, rfl⟩, text, htext, rfl, rfl⟩

/-- The spots of a pass ascend. -/
theorem ascends_pass : Ascends (pass number text? nodes) := by
  refine List.Pairwise.filterMap _ ?_ (Node.pairwise_locatedAll 0 nodes)
  rintro x y hlt _ hx _ hy
  obtain ⟨_, -, rfl⟩ := Option.map_eq_some_iff.mp hx
  obtain ⟨_, -, rfl⟩ := Option.map_eq_some_iff.mp hy
  exact List.cons_lt_cons_iff.mpr (Or.inr ⟨rfl, hlt⟩)

/-- What a pass over attributes of images finds. -/
theorem mem_pass_imageValue? {name : String} :
    (spot, text) ∈ pass number (imageValue? name) nodes ↔ ∃ path attributes children value,
      spot = number :: path ∧ nodeAt? nodes path = some (.element "img" attributes children) ∧
        attributes.value? name = some value ∧ text = value.toList := by
  rw [mem_pass]
  constructor
  · rintro ⟨path, tag, attributes, children, rfl, hnode, htext⟩
    simp only [imageValue?, beq_iff_eq, Option.ite_none_right_eq_some,
      Option.map_eq_some_iff] at htext
    obtain ⟨rfl, value, hvalue, rfl⟩ := htext
    exact ⟨path, attributes, children, value, rfl, hnode, hvalue, rfl⟩
  · rintro ⟨path, attributes, children, value, rfl, hnode, hvalue, rfl⟩
    exact ⟨path, _, attributes, children, rfl, hnode, by simp [imageValue?, hvalue]⟩

/-- What the pass over captions finds. -/
theorem mem_pass_caption? :
    (spot, text) ∈ pass number caption? nodes ↔ ∃ path attributes children,
      spot = number :: path ∧
        nodeAt? nodes path = some (.element "figcaption" attributes children) ∧
          text = Node.innerTextAll children := by
  rw [mem_pass]
  constructor
  · rintro ⟨path, tag, attributes, children, rfl, hnode, htext⟩
    simp only [caption?, beq_iff_eq, Option.ite_none_right_eq_some, Option.some.injEq] at htext
    obtain ⟨rfl, rfl⟩ := htext
    exact ⟨path, attributes, children, rfl, hnode, rfl⟩
  · rintro ⟨path, attributes, children, rfl, hnode, rfl⟩
    exact ⟨path, _, attributes, children, rfl, hnode, by simp [caption?]⟩

/-- **The passes find what the page says.** -/
theorem mem_passes : (spot, text) ∈ passes nodes ↔ Says nodes spot text := by
  rw [passes, List.mem_append, List.mem_append, mem_pass_imageValue?, mem_pass_caption?,
    mem_pass_imageValue?]
  constructor
  · rintro ((⟨path, attributes, children, value, rfl, hnode, hvalue, rfl⟩ |
      ⟨path, attributes, children, rfl, hnode, rfl⟩) |
      ⟨path, attributes, children, value, rfl, hnode, hvalue, rfl⟩)
    · exact .replacement hnode hvalue
    · exact .caption hnode
    · exact .title hnode hvalue
  · rintro (⟨hnode, hvalue⟩ | ⟨hnode⟩ | ⟨hnode, hvalue⟩)
    · exact Or.inl (Or.inl ⟨_, _, _, _, rfl, hnode, hvalue, rfl⟩)
    · exact Or.inl (Or.inr ⟨_, _, _, rfl, hnode, rfl⟩)
    · exact Or.inr ⟨_, _, _, _, rfl, hnode, hvalue, rfl⟩

/-- The number of a pass is the first number of its spots. -/
theorem lt_of_mem_pass {number later : Nat} {text? other? : Element → Option (List Char)}
    {x y : List Nat × List Char} (hlt : number < later) (hx : x ∈ pass number text? nodes)
    (hy : y ∈ pass later other? nodes) : x.1 < y.1 := by
  obtain ⟨_, _, _, _, hspot, -⟩ := mem_pass.mp hx
  obtain ⟨_, _, _, _, hother, -⟩ := mem_pass.mp hy
  rw [hspot, hother]
  exact List.cons_lt_cons_iff.mpr (Or.inl hlt)

/-- **The spots of the passes ascend.** -/
theorem ascends_passes (nodes : List Node) : Ascends (passes nodes) := by
  refine List.pairwise_append.mpr ⟨List.pairwise_append.mpr ⟨ascends_pass, ascends_pass, ?_⟩,
    ascends_pass, ?_⟩
  · intro x hx y hy
    exact lt_of_mem_pass (by decide) hx hy
  · intro x hx y hy
    rcases List.mem_append.mp hx with hx | hx
    · exact lt_of_mem_pass (by decide) hx hy
    · exact lt_of_mem_pass (by decide) hx hy

end Passes

/-- The captions are the texts of the elements that are captions. -/
theorem captions_eq (elements : List Element) :
    captions elements = elements.filterMap caption? := by
  induction elements with
  | nil => rfl
  | cons e elements ih =>
      simp only [captions] at ih
      by_cases h : e.tag == "figcaption" <;> simp [captions, caption?, h, ih]

/-- What the page says is what the passes find, in their order. -/
theorem imageDescriptionsBy_eq (parse : List Char → List Node) (cs : List Char) :
    imageDescriptionsBy parse cs =
      distinct (((passes (parse cs)).map Prod.snd).map wordsOf) := by
  simp only [passes, List.map_append, map_snd_pass, ← captions_eq]
  simp only [imageDescriptionsBy, List.map_append]
  rfl

/-! ## Each text once -/

/-- **A text comes first before another one**: it has a spot before all spots of the other. -/
def FirstBefore (described : List Nat → List Char → Prop) (text later : List Char) : Prop :=
  ∃ spot, described spot text ∧ ∀ other, described other later → spot < other

section Distinct

variable {texts : List (List Char)} {text : List Char}

/-- The texts that are not empty are kept. -/
theorem mem_distinct : text ∈ distinct texts ↔ text ∈ texts ∧ text ≠ [] := by
  rw [distinct, List.mem_eraseDups, List.mem_filter]
  simp

/-- **One more text** is put behind the others, unless it is empty or there already. -/
theorem distinct_concat (texts : List (List Char)) (text : List Char) :
    distinct (texts ++ [text]) =
      if text = [] ∨ text ∈ distinct texts then distinct texts else distinct texts ++ [text] := by
  rw [distinct, List.filter_append, List.eraseDups_append, ← distinct]
  by_cases hempty : text = []
  · rw [if_pos (Or.inl hempty), hempty]
    exact List.append_nil _
  · have hkept : [text].filter (fun t => !t.isEmpty) = [text] := by simp [hempty]
    have hmem : text ∈ distinct texts ↔ text ∈ texts.filter fun t => !t.isEmpty := by
      rw [distinct, List.mem_eraseDups]
    rw [hkept, List.removeAll, List.filter_singleton]
    by_cases hthere : text ∈ distinct texts
    · rw [if_pos (Or.inr hthere), List.elem_eq_true_of_mem (hmem.mp hthere)]
      exact List.append_nil _
    · have hnew : List.elem text (texts.filter fun t => !t.isEmpty) = false := by
        rw [← Bool.not_eq_true, List.elem_iff, ← hmem]
        exact hthere
      rw [if_neg (not_or.mpr ⟨hempty, hthere⟩), hnew]
      rfl

/-- No text is there twice. -/
theorem nodup_distinct (texts : List (List Char)) : (distinct texts).Nodup := by
  induction texts using List.reverseRecOn with
  | nil => exact List.nodup_nil
  | append_singleton texts text ih =>
      rw [distinct_concat]
      split
      · exact ih
      · rename_i hnew
        refine List.Nodup.append ih (List.nodup_singleton text) ?_
        exact List.disjoint_singleton.mpr fun hmem => hnew (Or.inr hmem)

variable {rows : List (List Nat × List Char)} {last : List Nat} {later : List Char}

/-- A row with the last spot does not matter for texts that come first before it. -/
theorem FirstBefore.concat (hlast : ∀ row ∈ rows, row.1 < last) (new : List Char)
    (h : FirstBefore (fun spot text => (spot, text) ∈ rows) text later) :
    FirstBefore (fun spot text => (spot, text) ∈ rows ++ [(last, new)]) text later := by
  obtain ⟨spot, hspot, hall⟩ := h
  refine ⟨spot, List.mem_append_left _ hspot, fun other hother => ?_⟩
  rcases List.mem_append.mp hother with hold | hnew
  · exact hall other hold
  · rw [(Prod.mk.inj (List.mem_singleton.mp hnew)).1]
    exact hlast _ hspot

/-- A text comes first before a new one that has the last spot. -/
theorem firstBefore_last (hlast : ∀ row ∈ rows, row.1 < last) {new : List Char}
    (hnew : new ∉ rows.map Prod.snd) (htext : text ∈ rows.map Prod.snd) :
    FirstBefore (fun spot text => (spot, text) ∈ rows ++ [(last, new)]) text new := by
  obtain ⟨⟨spot, _⟩, hspot, rfl⟩ := List.mem_map.mp htext
  refine ⟨spot, List.mem_append_left _ hspot, fun other hother => ?_⟩
  rcases List.mem_append.mp hother with hold | hthis
  · exact absurd (List.mem_map.mpr ⟨_, hold, rfl⟩) hnew
  · rw [(Prod.mk.inj (List.mem_singleton.mp hthis)).1]
    exact hlast _ hspot

/-- **Each text where it comes first**: of two texts that are kept, the one in front comes first
before the other, when the spots ascend. -/
theorem pairwise_distinct (h : Ascends rows) :
    (distinct (rows.map Prod.snd)).Pairwise
      (FirstBefore fun spot text => (spot, text) ∈ rows) := by
  induction rows using List.reverseRecOn with
  | nil => exact List.Pairwise.nil
  | append_singleton rows row ih =>
      obtain ⟨last, new⟩ := row
      obtain ⟨hrows, -, hbefore⟩ := List.pairwise_append.mp h
      have hlast : ∀ row ∈ rows, row.1 < last := fun row hrow =>
        hbefore row hrow (last, new) (List.mem_singleton_self _)
      have hkeep := (ih hrows).imp fun h => FirstBefore.concat hlast new h
      rw [List.map_append, List.map_singleton, distinct_concat]
      split
      · exact hkeep
      · rename_i hfresh
        obtain ⟨hne, habsent⟩ := not_or.mp hfresh
        refine List.pairwise_append.mpr ⟨hkeep, List.pairwise_singleton _ _, ?_⟩
        intro text htext later hlater
        rw [List.mem_singleton.mp hlater]
        refine firstBefore_last hlast (fun hmem => ?_) (mem_distinct.mp htext).1
        exact habsent (mem_distinct.mpr ⟨hmem, hne⟩)

end Distinct

/-! ## The order of the descriptions -/

/-- **A row of descriptions in the order of their first spots**, when `described` says what is
described at a spot. -/
structure InOrder (described : List Nat → List Char → Prop) (found : List (List Char)) : Prop where
  /-- No description is there twice. -/
  nodup : found.Nodup
  /-- All that is described is there, and nothing else. -/
  mem_iff (text : List Char) : text ∈ found ↔ ∃ spot, described spot text
  /-- A description comes first before those behind it. -/
  pairwise : found.Pairwise (FirstBefore described)

/-- There is only one such row. -/
theorem InOrder.unique {described : List Nat → List Char → Prop} {found found' : List (List Char)}
    (h : InOrder described found) (h' : InOrder described found') : found = found' := by
  refine List.Perm.eq_of_pairwise ?_ h.pairwise h'.pairwise ?_
  · -- Of two texts only one can come first before the other.
    rintro text later - - ⟨spot, hspot, hall⟩ ⟨spot', hspot', hall'⟩
    exact absurd (hall spot' hspot') (List.lt_asymm (hall' spot hspot))
  · rw [List.perm_ext_iff_of_nodup h.nodup h'.nodup]
    intro text
    rw [h.mem_iff, h'.mem_iff]

/-- What the passes find, with one space between the words, is what the page describes. -/
theorem describes_iff {nodes : List Node} {spot : List Nat} {text : List Char} :
    Describes nodes spot text ↔
      (spot, text) ∈ (passes nodes).map (fun row => (row.1, wordsOf row.2)) ∧ text ≠ [] := by
  simp only [Describes, ← mem_passes, List.mem_map, Prod.mk.injEq, Prod.exists, wordsOf]
  constructor
  · rintro ⟨said, hsaid, rfl, hne⟩
    exact ⟨⟨spot, said, hsaid, rfl, rfl⟩, hne⟩
  · rintro ⟨⟨_, said, hsaid, rfl, rfl⟩, hne⟩
    exact ⟨said, hsaid, rfl, hne⟩

/-- The descriptions of images are in the order of their first spots. -/
theorem inOrder_imageDescriptionsBy (parse : List Char → List Node) (cs : List Char) :
    InOrder (Describes (parse cs)) (imageDescriptionsBy parse cs) := by
  have hrows : Ascends ((passes (parse cs)).map fun row => (row.1, wordsOf row.2)) :=
    List.pairwise_map.mpr (ascends_passes (parse cs))
  have htexts : ((passes (parse cs)).map Prod.snd).map wordsOf =
      ((passes (parse cs)).map fun row => (row.1, wordsOf row.2)).map Prod.snd := by
    rw [List.map_map, List.map_map]
    rfl
  rw [imageDescriptionsBy_eq, htexts]
  refine ⟨nodup_distinct _, fun text => ?_, ?_⟩
  · simp only [mem_distinct, describes_iff, exists_and_right, List.mem_map, Prod.exists,
      exists_eq_right]
  · refine (pairwise_distinct hrows).imp_of_mem ?_
    rintro text later htext - ⟨spot, hspot, hall⟩
    exact ⟨spot, describes_iff.mpr ⟨hspot, (mem_distinct.mp htext).2⟩,
      fun other hother => hall other (describes_iff.mp hother).1⟩

/-- **The descriptions of images**: what a page says in the place of its images, in the captions of
its figures and in the titles of its images, with one space between the words. What has no words is
left out, and each description comes once, in the order of the three passes over the page and in
each pass in document order. No other row of texts has these properties. -/
theorem imageDescriptionsBy_eq_iff (parse : List Char → List Node) (cs : List Char)
    (found : List (List Char)) :
    imageDescriptionsBy parse cs = found ↔ InOrder (Describes (parse cs)) found := by
  constructor
  · rintro rfl
    exact inOrder_imageDescriptionsBy parse cs
  · intro h
    exact (inOrder_imageDescriptionsBy parse cs).unique h

end Courseware.Html
