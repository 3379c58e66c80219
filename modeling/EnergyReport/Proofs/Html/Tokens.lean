import EnergyReport.Proofs.Html.Rendering
import Mathlib.Data.List.Induction

namespace EnergyReport.Html

/-! Reading a written document: its tags with their attributes, and the characters between
them. What pieces write is read back from the page. -/

inductive Tag where
  | opening (name : String) (attributes : List Attribute)
  | closing (name : String)
  /-- An element without content. -/
  | void (name : String) (attributes : List Attribute)
  /-- What stands between angle brackets without being an element, as the document type. -/
  | declaration
  deriving Repr, DecidableEq

inductive Token where
  | tag (tag : Tag)
  | char (c : Char)
  deriving Repr, DecidableEq

/-- Elements that have no content although their tags look like opening ones. -/
def voidNames : List String := ["br", "meta"]

def isNameChar (c : Char) : Bool :=
  c ≠ ' ' && c ≠ '/'

/-- The attributes in the parts of a tag that quotation marks separate. A value follows each
name, which a blank precedes and an equals sign ends. -/
def pairAttributes : List Text → List Attribute
  | name :: value :: rest =>
      (String.ofList (name.drop 1).dropLast, String.ofList value) :: pairAttributes rest
  | _ => []

def readAttributes (text : Text) : List Attribute :=
  pairAttributes (Text.splitOn '"' text)

/-- The tag that stands between two angle brackets. -/
def readTag (inner : Text) : Tag :=
  match inner with
  | '!' :: _ => .declaration
  | '/' :: name => .closing (String.ofList name)
  | _ =>
      let name := String.ofList (inner.takeWhile isNameChar)
      let attributes := readAttributes (inner.dropWhile isNameChar)
      if inner.getLast? = some '/' || name ∈ voidNames then .void name attributes
      else .opening name attributes

/-- The tokens of a text; within a tag, what has been read of it comes first. -/
def tokensFrom : Option Text → Text → List Token
  | _, [] => []
  | none, c :: rest =>
      if c = '<' then tokensFrom (some []) rest else .char c :: tokensFrom none rest
  | some inner, c :: rest =>
      if c = '>' then .tag (readTag inner) :: tokensFrom none rest
      else tokensFrom (some (inner ++ [c])) rest

def tokens (text : Text) : List Token :=
  tokensFrom none text

/-! ### Reading what is written -/

theorem tokensFrom_some {inner body : Text} (open' : '>' ∉ body) (rest : Text) :
    tokensFrom (some inner) (body ++ '>' :: rest) =
      .tag (readTag (inner ++ body)) :: tokens rest := by
  induction body generalizing inner with
  | nil => simp [tokensFrom, tokens]
  | cons c body ih =>
      simp only [List.mem_cons, not_or] at open'
      rw [List.cons_append, tokensFrom, if_neg (Ne.symm open'.1), ih open'.2, List.append_assoc]
      rfl

theorem tokens_tag {inner : Text} (open' : '>' ∉ inner) (rest : Text) :
    tokens ('<' :: inner ++ '>' :: rest) = .tag (readTag inner) :: tokens rest := by
  rw [tokens, List.cons_append, tokensFrom, if_pos rfl, tokensFrom_some open', List.nil_append]

theorem tokens_chars {text : Text} (tagless : '<' ∉ text) (rest : Text) :
    tokens (text ++ rest) = text.map .char ++ tokens rest := by
  induction text with
  | nil => rfl
  | cons c text ih =>
      simp only [List.mem_cons, not_or] at tagless
      have following := ih tagless.2
      rw [tokens] at following
      rw [tokens, List.cons_append, tokensFrom, if_neg (Ne.symm tagless.1), following]
      rfl

theorem tokens_of_tagless {text : Text} (tagless : '<' ∉ text) :
    tokens text = text.map .char := by
  simpa [tokens, tokensFrom] using tokens_chars tagless []

/-- Letters and digits, and at least one of them. -/
def IsName (name : String) : Prop :=
  name.toList ≠ [] ∧ ∀ c ∈ name.toList, c.isAlphanum

instance (name : String) : Decidable (IsName name) :=
  have : Decidable (∀ c ∈ name.toList, c.isAlphanum) := List.decidableBAll _ _
  inferInstanceAs (Decidable (_ ∧ _))

def PlainAttributes (attributes : List Attribute) : Prop :=
  ∀ given ∈ attributes, Plain given.1.toList ∧ Plain given.2.toList

theorem Plain.not_mem {text : Text} (plain : Plain text) :
    '"' ∉ text ∧ '<' ∉ text ∧ '>' ∉ text := by
  refine ⟨?_, ?_, ?_⟩ <;> exact fun member => plain _ member (by decide)

theorem toList_renderAttribute_append (given : Attribute) (rest : Text) :
    (renderAttribute given).toList ++ rest =
      (' ' :: given.1.toList ++ ['=']) ++ '"' :: (given.2.toList ++ '"' :: rest) := by
  simp [renderAttribute]

theorem readAttributes_append {attributes : List Attribute} (plain : PlainAttributes attributes)
    {ending : Text} (unquoted : '"' ∉ ending) :
    readAttributes ((String.join (attributes.map renderAttribute)).toList ++ ending) =
      attributes := by
  rw [String.toList_join, List.flatMap_map]
  induction attributes with
  | nil => simp [readAttributes, Text.splitOn_of_not_mem unquoted, pairAttributes]
  | cons given rest ih =>
      obtain ⟨⟨plainName, plainValue⟩, plainRest⟩ := List.forall_mem_cons.mp plain
      have lead : '"' ∉ ' ' :: given.1.toList ++ ['='] := by simp [plainName.not_mem.1]
      have following := ih plainRest
      rw [readAttributes] at following
      rw [readAttributes, List.flatMap_cons, List.append_assoc, toList_renderAttribute_append,
        Text.splitOn_append_cons, Text.splitOn_of_not_mem lead, Text.splitOn_append_cons,
        Text.splitOn_of_not_mem plainValue.not_mem.1]
      simp [pairAttributes, following]

theorem isNameChar_of_isAlphanum {c : Char} (letter : c.isAlphanum) : isNameChar c := by
  have others : ' '.isAlphanum = false ∧ '/'.isAlphanum = false := by decide
  simp only [isNameChar, Bool.and_eq_true, decide_eq_true_eq]
  constructor <;> rintro rfl <;> simp [others] at letter

section WrittenTag

variable {name : String} {attributes : List Attribute}

/-- What follows the name in a written tag does not go on with it. -/
theorem isNameChar_head?_attributes (attributes : List Attribute) {ending : Text}
    (ends : ending = [] ∨ ending = ['/']) :
    ∀ c ∈ ((String.join (attributes.map renderAttribute)).toList ++ ending).head?,
      isNameChar c = false := by
  cases attributes with
  | nil => rcases ends with rfl | rfl <;> simp [isNameChar]
  | cons given rest =>
      rw [String.toList_join, List.flatMap_map, List.flatMap_cons, List.append_assoc,
        toList_renderAttribute_append]
      simp [isNameChar]

/-- The name and the attributes of a written tag, which may have a slash at its end. -/
theorem readTag_append (isName : IsName name) (plain : PlainAttributes attributes)
    {ending : Text} (ends : ending = [] ∨ ending = ['/']) :
    readTag ((renderTag name attributes).toList ++ ending) =
      if ((renderTag name attributes).toList ++ ending).getLast? = some '/' ∨ name ∈ voidNames
      then .void name attributes else .opening name attributes := by
  obtain ⟨first, letters, parts⟩ := List.exists_cons_of_ne_nil isName.1
  obtain ⟨following, isFollowing⟩ : ∃ following, following =
      (String.join (attributes.map renderAttribute)).toList ++ ending := ⟨_, rfl⟩
  have whole : (renderTag name attributes).toList ++ ending = name.toList ++ following := by
    simp [renderTag, isFollowing]
  have inName : ∀ c ∈ name.toList, isNameChar c := fun c member =>
    isNameChar_of_isAlphanum (isName.2 c member)
  have stops : ∀ c ∈ following.head?, isNameChar c = false :=
    isFollowing ▸ isNameChar_head?_attributes attributes ends
  have nothing : following.takeWhile isNameChar = [] ∧
      following.dropWhile isNameChar = following := by
    cases following with
    | nil => exact ⟨rfl, rfl⟩
    | cons c rest => simp [stops c rfl]
  have read : readAttributes following = attributes := by
    rw [isFollowing]
    exact readAttributes_append plain (by rcases ends with rfl | rfl <;> simp)
  have letter := isName.2 first (by simp [parts])
  have ordinary : first ≠ '!' ∧ first ≠ '/' := by
    constructor <;> rintro rfl <;> revert letter <;> decide
  rw [whole]
  unfold readTag
  split
  · simp_all
  · simp_all
  · rw [List.takeWhile_append_of_pos inName, List.dropWhile_append_of_pos inName, nothing.1,
      nothing.2, read]
    simp

theorem getLast?_renderTag_ne (isName : IsName name) :
    (renderTag name attributes).toList.getLast? ≠ some '/' := by
  intro slash
  cases attributes using List.reverseRecOn with
  | nil =>
      have member : '/' ∈ name.toList := by
        simpa [renderTag] using List.mem_of_getLast? slash
      exact absurd (isName.2 '/' member) (by decide)
  | append_singleton before given =>
      have ends : ∃ inner, (renderTag name (before ++ [given])).toList = inner ++ ['"'] :=
        ⟨name.toList ++ (String.join (before.map renderAttribute)).toList ++
          ' ' :: given.1.toList ++ ['=', '"'] ++ given.2.toList,
          by simp [renderTag, renderAttribute]⟩
      obtain ⟨inner, shape⟩ := ends
      simp [shape] at slash

theorem readTag_renderTag (isName : IsName name) (plain : PlainAttributes attributes) :
    readTag (renderTag name attributes).toList =
      if name ∈ voidNames then .void name attributes else .opening name attributes := by
  simpa [getLast?_renderTag_ne isName] using readTag_append isName plain (.inl rfl)

theorem readTag_renderTag_slash (isName : IsName name) (plain : PlainAttributes attributes) :
    readTag ((renderTag name attributes).toList ++ ['/']) = .void name attributes := by
  simpa using readTag_append isName plain (.inr rfl)

theorem readTag_slash (name : String) : readTag ('/' :: name.toList) = .closing name := by
  simp [readTag]

end WrittenTag

/-! ### Pieces -/

/-- The tokens that a piece is read as. -/
def Piece.tokens : Piece → List Token
  | .opening tag attributes => [.tag (.opening tag attributes)]
  | .closing tag => [.tag (.closing tag)]
  | .void tag attributes => [.tag (.void tag attributes)]
  | .selfClosed tag attributes => [.tag (.void tag attributes)]
  | .text content => (escape content).map .char
  | .verbatim content => Html.tokens content.toList

/-- Whether a piece is read as its tokens, whatever follows it. -/
def Piece.IsReadable (piece : Piece) : Prop :=
  ∀ rest, Html.tokens (piece.render.toList ++ rest) = piece.tokens ++ Html.tokens rest

theorem tokens_render {pieces : List Piece} (readable : ∀ piece ∈ pieces, piece.IsReadable) :
    tokens (render pieces).toList = pieces.flatMap Piece.tokens := by
  rw [toList_render]
  induction pieces with
  | nil => rfl
  | cons piece rest ih =>
      obtain ⟨first, others⟩ := List.forall_mem_cons.mp readable
      rw [List.flatMap_cons, first, ih others, List.flatMap_cons]

namespace Piece.IsReadable

variable {tag : String} {attributes : List Attribute}

theorem angle_not_mem_renderTag (isName : IsName tag) (plain : PlainAttributes attributes) :
    '>' ∉ (renderTag tag attributes).toList := by
  have inName : '>' ∉ tag.toList := fun member =>
    absurd (isName.2 '>' member) (by decide)
  simp only [renderTag, String.toList_append, String.toList_join, List.flatMap_map,
    List.mem_append, List.mem_flatMap, not_or, not_exists, not_and]
  refine ⟨inName, fun given member => ?_⟩
  obtain ⟨plainName, plainValue⟩ := plain given member
  simp [renderAttribute, plainName.not_mem.2.2, plainValue.not_mem.2.2]

theorem opening (isName : IsName tag) (plain : PlainAttributes attributes)
    (holds : tag ∉ voidNames) : (Piece.opening tag attributes).IsReadable := by
  intro rest
  have read := tokens_tag (angle_not_mem_renderTag isName plain) rest
  simpa [Piece.render, Piece.tokens, readTag_renderTag isName plain, holds] using read

theorem void (isName : IsName tag) (plain : PlainAttributes attributes)
    (listed : tag ∈ voidNames) : (Piece.void tag attributes).IsReadable := by
  intro rest
  have read := tokens_tag (angle_not_mem_renderTag isName plain) rest
  simpa [Piece.render, Piece.tokens, readTag_renderTag isName plain, listed] using read

theorem selfClosed (isName : IsName tag) (plain : PlainAttributes attributes) :
    (Piece.selfClosed tag attributes).IsReadable := by
  intro rest
  have open' : '>' ∉ (renderTag tag attributes).toList ++ ['/'] := by
    simp [angle_not_mem_renderTag isName plain]
  have read := tokens_tag open' rest
  simpa [Piece.render, Piece.tokens, readTag_renderTag_slash isName plain] using read

theorem closing (isName : IsName tag) : (Piece.closing tag).IsReadable := by
  intro rest
  have open' : '>' ∉ '/' :: tag.toList := by
    simpa using fun member => absurd (isName.2 '>' member) (by decide)
  have read := tokens_tag open' rest
  simpa [Piece.render, Piece.tokens, readTag_slash] using read

theorem text (content : Text) : (Piece.text content).IsReadable := by
  intro rest
  simp [Piece.render, Piece.tokens, tokens_chars (lt_not_mem_escape content)]

theorem verbatim {content : String} (plain : Plain content.toList) :
    (Piece.verbatim content).IsReadable := by
  intro rest
  have tagless := plain.not_mem.2.1
  rw [Piece.render, Piece.tokens, tokens_chars tagless, tokens_of_tagless tagless]

end Piece.IsReadable

end EnergyReport.Html
