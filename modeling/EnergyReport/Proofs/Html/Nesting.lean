import EnergyReport.Proofs.Html.Tokens

namespace EnergyReport.Html

/-! How the tags of a page nest.

A walk over the tags keeps the elements that are still open. Pieces after which it is where it
was before them may stand anywhere, next to each other and inside of elements. -/

/-- The formatting within a line, which does not belong to the structure of a page. -/
def inlineTags : List Tag :=
  [.opening "strong" [], .closing "strong", .opening "em" [], .closing "em"]

def Token.blockTag? : Token → Option Tag
  | .tag found => if found ∈ inlineTags then none else some found
  | .char _ => none

/-- The tags that are left when those of the formatting within lines are deleted. -/
def blockTags (tokens : List Token) : List Tag :=
  tokens.filterMap Token.blockTag?

def Token.tag? : Token → Option Tag
  | .tag found => some found
  | .char _ => none

/-- All tags, with those of the formatting within lines. -/
def tags (tokens : List Token) : List Tag :=
  tokens.filterMap Token.tag?

/-- An element that is not closed yet. -/
structure OpenElement where
  name : String
  /-- Whether an item stands directly in it so far. -/
  hasItem : Bool
  deriving Repr, DecidableEq

def itemName : String := "li"

def listNames : List String := ["ul", "ol"]

/-- Whether an element may stand directly in the innermost open one: items stand in lists. -/
def mayBegin (name : String) (opened : List OpenElement) : Bool :=
  name ≠ itemName || opened.head?.any fun parent => parent.name ∈ listNames

/-- The open elements with one more element in the innermost of them. -/
def noteElement (name : String) : List OpenElement → List OpenElement
  | [] => []
  | parent :: others => { parent with hasItem := parent.hasItem || name = itemName } :: others

/-- Whether a closing tag may close an element: it has its name, and a list has an item. -/
def OpenElement.mayEnd (element : OpenElement) (name : String) : Bool :=
  element.name = name && (name ∉ listNames || element.hasItem)

/-- Whether tags close the open elements and all that they open, each at its place. -/
def nestedIn : List OpenElement → List Tag → Bool
  | opened, [] => opened.isEmpty
  | opened, .opening name _ :: rest =>
      mayBegin name opened && nestedIn (⟨name, false⟩ :: noteElement name opened) rest
  | opened, .void name _ :: rest => mayBegin name opened && nestedIn (noteElement name opened) rest
  | opened, .declaration :: rest => nestedIn opened rest
  | [], .closing _ :: _ => false
  | element :: opened, .closing name :: rest => element.mayEnd name && nestedIn opened rest

/-- Whether tags are balanced and nested in each other, with items directly in lists and at least
one item in every list. -/
def wellNested (tags : List Tag) : Bool :=
  nestedIn [] tags

/-- An empty list, an item outside of lists, and elements that cross each other. -/
example :
    wellNested [.opening "ul" [], .closing "ul"] = false ∧
    wellNested [.opening "p" [], .opening "li" [], .closing "li", .closing "p"] = false ∧
    wellNested [.opening "p" [], .opening "b" [], .closing "p", .closing "b"] = false := by
  decide

/-! ### Pieces that may stand anywhere -/

/-- The walk is after the pieces where it was before them. -/
def IsSettled (pieces : List Piece) : Prop :=
  ∀ opened rest, nestedIn opened (blockTags (pieces.flatMap Piece.tokens) ++ rest) =
    nestedIn opened rest

theorem blockTags_append (first second : List Token) :
    blockTags (first ++ second) = blockTags first ++ blockTags second :=
  List.filterMap_append

theorem tags_append (first second : List Token) :
    tags (first ++ second) = tags first ++ tags second :=
  List.filterMap_append

@[simp] theorem tags_chars (text : Text) : tags (text.map .char) = [] := by
  simp [tags, Token.tag?]

@[simp] theorem blockTags_chars (text : Text) : blockTags (text.map .char) = [] := by
  simp [blockTags, Token.blockTag?]

@[simp] theorem blockTags_tag (tag : Tag) :
    blockTags [.tag tag] = if tag ∈ inlineTags then [] else [tag] := by
  by_cases inline : tag ∈ inlineTags <;> simp [blockTags, Token.blockTag?, inline]

theorem noteElement_of_ne {name : String} (ordinary : name ≠ itemName)
    (opened : List OpenElement) : noteElement name opened = opened := by
  cases opened <;> simp [noteElement, ordinary]

theorem mayBegin_of_ne {name : String} (ordinary : name ≠ itemName)
    (opened : List OpenElement) : mayBegin name opened := by
  simp [mayBegin, ordinary]

theorem wellNested_of_isSettled {pieces : List Piece} (settled : IsSettled pieces) :
    wellNested (blockTags (pieces.flatMap Piece.tokens)) := by
  have walked := settled [] []
  rwa [List.append_nil] at walked

namespace IsSettled

variable {pieces first second content : List Piece} {tag : String} {attributes : List Attribute}

theorem of_blockTags_eq_nil (none : blockTags (pieces.flatMap Piece.tokens) = []) :
    IsSettled pieces := by
  intro opened rest
  rw [none, List.nil_append]

theorem nil : IsSettled [] :=
  of_blockTags_eq_nil rfl

theorem append (left : IsSettled first) (right : IsSettled second) :
    IsSettled (first ++ second) := by
  intro opened rest
  rw [List.flatMap_append, blockTags_append, List.append_assoc, left, right]

theorem flatMap {α : Type} {parts : List α} {write : α → List Piece}
    (settled : ∀ part ∈ parts, IsSettled (write part)) : IsSettled (parts.flatMap write) := by
  induction parts with
  | nil => exact nil
  | cons part rest ih =>
      obtain ⟨here, others⟩ := List.forall_mem_cons.mp settled
      exact here.append (ih others)

theorem text (content : Text) : IsSettled [.text content] :=
  of_blockTags_eq_nil (by simp [Piece.tokens])

theorem verbatim {content : String} (plain : Plain content.toList) :
    IsSettled [.verbatim content] := by
  refine of_blockTags_eq_nil ?_
  simp [Piece.tokens, tokens_of_tagless plain.not_mem.2.1]

theorem inlineTag {piece : Piece} {mark : Tag} (inline : mark ∈ inlineTags)
    (read : piece.tokens = [.tag mark]) : IsSettled [piece] :=
  of_blockTags_eq_nil (by simp [read, inline])

theorem void {piece : Piece} (read : piece.tokens = [.tag (.void tag attributes)])
    (ordinary : tag ≠ itemName) : IsSettled [piece] := by
  have kept : Tag.void tag attributes ∉ inlineTags := by simp [inlineTags]
  intro opened rest
  simp [read, kept, nestedIn, mayBegin_of_ne ordinary, noteElement_of_ne ordinary]

/-- An element, seen from outside: its tags, and the walk over its content in it. -/
theorem nestedIn_element (opened : List OpenElement) (rest : List Tag)
    (kept : tag ∉ ["strong", "em"]) :
    nestedIn opened (blockTags ((element tag attributes content).flatMap Piece.tokens) ++ rest) =
      (mayBegin tag opened &&
        nestedIn (⟨tag, false⟩ :: noteElement tag opened)
          (blockTags (content.flatMap Piece.tokens) ++ .closing tag :: rest)) := by
  simp only [List.mem_cons, List.not_mem_nil, or_false, not_or] at kept
  have opens : Tag.opening tag attributes ∉ inlineTags := by simp [inlineTags, kept]
  have closes : Tag.closing tag ∉ inlineTags := by simp [inlineTags, kept]
  rw [element, List.flatMap_append, List.flatMap_cons, blockTags_append, blockTags_append]
  simp [Piece.tokens, opens, closes, nestedIn]

theorem element (kept : tag ∉ ["strong", "em"]) (ordinary : tag ∉ itemName :: listNames)
    (inside : IsSettled content) : IsSettled (Html.element tag attributes content) := by
  simp only [List.mem_cons, not_or] at ordinary
  intro opened rest
  rw [nestedIn_element opened rest kept, inside]
  simp [nestedIn, OpenElement.mayEnd, ordinary.2, mayBegin_of_ne ordinary.1,
    noteElement_of_ne ordinary.1]

/-- In a list, items leave a note and nothing else. -/
theorem nestedIn_items {list : String} (isList : list ∈ listNames) (items : List (List Piece))
    (inside : ∀ item ∈ items, IsSettled item) (noted : Bool) (opened : List OpenElement)
    (rest : List Tag) :
    nestedIn (⟨list, noted⟩ :: opened)
        (blockTags ((items.flatMap (Html.element itemName [])).flatMap Piece.tokens) ++ rest) =
      nestedIn (⟨list, noted || !items.isEmpty⟩ :: opened) rest := by
  induction items generalizing noted with
  | nil => simp [blockTags]
  | cons item more ih =>
      obtain ⟨here, others⟩ := List.forall_mem_cons.mp inside
      have notList : itemName ∉ listNames := by decide
      rw [List.flatMap_cons, List.flatMap_append, blockTags_append, List.append_assoc,
        nestedIn_element _ _ (by decide), here]
      simp [nestedIn, OpenElement.mayEnd, mayBegin, noteElement, isList, notList, ih others]

/-- A list with at least one item. -/
theorem list (isList : tag ∈ listNames) {items : List (List Piece)} (nonempty : items ≠ [])
    (inside : ∀ item ∈ items, IsSettled item) :
    IsSettled (Html.element tag attributes (items.flatMap (Html.element itemName []))) := by
  have names : ∀ name ∈ listNames, name ∉ ["strong", "em"] ∧ name ≠ itemName := by decide
  obtain ⟨kept, ordinary⟩ := names tag isList
  intro opened rest
  rw [nestedIn_element opened rest kept, nestedIn_items isList items inside]
  simp [nestedIn, OpenElement.mayEnd, nonempty, mayBegin_of_ne ordinary,
    noteElement_of_ne ordinary]

end IsSettled

end EnergyReport.Html
